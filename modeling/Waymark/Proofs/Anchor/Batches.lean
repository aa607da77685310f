import Waymark.Anchor.Editor
import Waymark.Proofs.Anchor.Splicing
import Waymark.Proofs.Text.Resolving

/-! Edits made together: when they are refused, what their result is, and what of their order
matters. -/

namespace Waymark

namespace TextEdit
variable {t u : Text} {e e' : TextEdit} {edits edits' : List TextEdit} {k : Nat}

/-- Whether an edit to `t` deletes the character at a place. -/
def deletes (t : Text) (k : Nat) : TextEdit → Bool
  | insert _ _ => false
  | delete range => t.indexAt range.start ≤ k ∧ k < t.indexAt range.stop

/-- What an edit to `t` inserts at a place, if it is made there. -/
def insertAt? (t : Text) (k : Nat) : TextEdit → Option Text
  | insert place text => if t.indexAt place = k then some text else none
  | delete _ => none

/-- The texts that edits insert at a place, in the order of the edits. -/
def insertsAt (t : Text) (edits : List TextEdit) (k : Nat) : List Text :=
  edits.filterMap (insertAt? t k)

/-- The text with all edits made: at each place comes what is inserted there, and the character if
no edit deletes it. -/
def revised (t : Text) (edits : List TextEdit) : Text :=
  Text.revise (fun k => (insertsAt t edits k).flatten) (fun k => edits.any (deletes t k)) 0 t

/-- The text after edits to `t` that are made one at a time, the last of them first. -/
def oneByOne (t : Text) (edits : List TextEdit) : Text :=
  edits.foldr (fun e => (e.splice t).apply) t

/-- Edits from the first place of `t` to the last; of those that start at one place, the ones that
delete nothing come first. -/
def InOrder (t : Text) (edits : List TextEdit) : Prop :=
  edits.Pairwise fun e e' => Splice.le (e.splice t) (e'.splice t)

/-- The same edits in another order, which leaves those that insert at one place as they were. -/
structure Reordered (t : Text) (edits edits' : List TextEdit) : Prop where
  perm : edits'.Perm edits
  inserts : ∀ k, insertsAt t edits' k = insertsAt t edits k

/-- Two edits to `t` that cannot be made together: both delete a character, or the first deletes
what is on both sides of the second. -/
inductive Clash (t : Text) : TextEdit → TextEdit → Prop
  | overlap {r r' : Range} (k : Nat) : (delete r).deletes t k → (delete r').deletes t k →
      Clash t (delete r) (delete r')
  | aroundInsert {r : Range} {place : Position} {text : Text} :
      t.indexAt r.start < t.indexAt place → t.indexAt place < t.indexAt r.stop →
      Clash t (delete r) (insert place text)
  | aroundEmpty {r r' : Range} : t.indexAt r'.stop ≤ t.indexAt r'.start →
      t.indexAt r.start < t.indexAt r'.start → t.indexAt r'.start < t.indexAt r.stop →
      Clash t (delete r) (delete r')

/-- Two of the edits clash. -/
def Clashing (t : Text) (edits : List TextEdit) : Prop :=
  ∃ (i j : Nat) (e e' : TextEdit), i ≠ j ∧ edits[i]? = some e ∧ edits[j]? = some e' ∧ Clash t e e'

theorem crosses_of_clash (h : e.Clash t e') : (e.splice t).Crosses (e'.splice t) := by
  cases h with
  | overlap k h h' =>
    simp only [deletes, decide_eq_true_eq] at h h'
    simp only [Splice.Crosses, splice]
    omega
  | aroundInsert h h' =>
    simp only [Splice.Crosses, splice]
    omega
  | aroundEmpty h h' h'' =>
    simp only [Splice.Crosses, splice]
    omega

theorem clash_of_crosses (h : (e.splice t).Crosses (e'.splice t)) :
    e.Clash t e' ∨ e'.Clash t e := by
  cases e with
  | insert place text =>
    cases e' with
    | insert place' text' =>
      simp only [Splice.Crosses, splice] at h
      omega
    | delete r =>
      simp only [Splice.Crosses, splice] at h
      exact .inr (.aroundInsert (by omega) (by omega))
  | delete r =>
    cases e' with
    | insert place text =>
      simp only [Splice.Crosses, splice] at h
      exact .inl (.aroundInsert (by omega) (by omega))
    | delete r' =>
      simp only [Splice.Crosses, splice] at h
      by_cases hr : t.indexAt r.stop ≤ t.indexAt r.start
      · exact .inr (.aroundEmpty hr (by omega) (by omega))
      by_cases hr' : t.indexAt r'.stop ≤ t.indexAt r'.start
      · exact .inl (.aroundEmpty hr' (by omega) (by omega))
      -- Neither is empty: the later of the two starts is a place that both delete.
      refine .inl (.overlap (max (t.indexAt r.start) (t.indexAt r'.start)) ?_ ?_)
      · simp only [deletes, decide_eq_true_eq]
        omega
      · simp only [deletes, decide_eq_true_eq]
        omega

/-- No two of the edits cross. -/
def Compatible (t : Text) (edits : List TextEdit) : Prop :=
  edits.Pairwise fun e e' => ¬ (e.splice t).Crosses (e'.splice t)

theorem compatible_of_perm (h : edits'.Perm edits) : Compatible t edits' ↔ Compatible t edits :=
  h.pairwise_iff fun hne hcross => hne hcross.symm

theorem not_compatible_iff : ¬ Compatible t edits ↔ Clashing t edits := by
  rw [Compatible, List.pairwise_iff_getElem]
  constructor
  · intro h
    simp only [Classical.not_forall, Classical.not_not] at h
    obtain ⟨i, j, hi, hj, hij, hcross⟩ := h
    have hiSome : edits[i]? = some edits[i] := List.getElem?_eq_getElem hi
    have hjSome : edits[j]? = some edits[j] := List.getElem?_eq_getElem hj
    rcases clash_of_crosses hcross with hclash | hclash
    · exact ⟨i, j, _, _, Nat.ne_of_lt hij, hiSome, hjSome, hclash⟩
    · exact ⟨j, i, _, _, Nat.ne_of_gt hij, hjSome, hiSome, hclash⟩
  · rintro ⟨i, j, e, e', hne, he, he', hclash⟩ hall
    obtain ⟨hi, rfl⟩ := List.getElem?_eq_some_iff.mp he
    obtain ⟨hj, rfl⟩ := List.getElem?_eq_some_iff.mp he'
    have hcross := crosses_of_clash hclash
    rcases Nat.lt_or_gt_of_ne hne with hij | hij
    · exact hall i j hi hj hij hcross
    · exact hall j i hj hi hij hcross.symm

theorem exists_weave_iff_compatible (h : InOrder t edits) :
    (∃ out, Splice.weave 0 t (edits.map (splice t)) = some out) ↔ Compatible t edits := by
  have hpairs : (edits.map (splice t)).Pairwise (Splice.le · ·) := List.pairwise_map.mpr h
  rw [Splice.exists_weave_iff_of_pairwise hpairs, List.pairwise_map, Compatible]

theorem stop_splice_le (t : Text) (e : TextEdit) : (e.splice t).stop ≤ t.length := by
  cases e with
  | insert place text => exact Text.indexAt_le_length t place
  | delete r =>
    have hstart := Text.indexAt_le_length t r.start
    have hstop := Text.indexAt_le_length t r.stop
    simp only [splice]
    omega

theorem text_splice_eq_nil (h : (e.splice t).start < (e.splice t).stop) :
    (e.splice t).text = [] := by
  cases e with
  | insert place text => exact absurd h (Nat.lt_irrefl _)
  | delete r => rfl

theorem flatten_insertsAt_cons : (insertsAt t (e :: edits) k).flatten =
    (if (e.splice t).start = k then (e.splice t).text else []) ++
      (insertsAt t edits k).flatten := by
  cases e with
  | insert place text =>
    by_cases hk : t.indexAt place = k <;> simp [insertsAt, insertAt?, splice, hk]
  | delete r =>
    by_cases hk : t.indexAt r.start = k <;>
      simp [insertsAt, insertAt?, splice, List.filterMap_cons, hk]

theorem insertedBy_splices :
    Splice.insertedBy (edits.map (splice t)) k = (insertsAt t edits k).flatten := by
  induction edits with
  | nil => rfl
  | cons e edits ih =>
    rw [List.map_cons, flatten_insertsAt_cons, ← ih]
    by_cases hk : (e.splice t).start = k
    · subst hk
      rw [if_pos rfl, Splice.insertedBy_cons_self]
    · rw [if_neg hk, Splice.insertedBy_cons_of_ne hk, List.nil_append]

theorem deletes_iff : e.deletes t k ↔ (e.splice t).start ≤ k ∧ k < (e.splice t).stop := by
  cases e with
  | insert place text =>
    simp only [deletes, splice, Bool.false_eq_true, false_iff]
    omega
  | delete r =>
    simp only [deletes, splice, decide_eq_true_eq]
    omega

theorem deletedBy_splices :
    Splice.deletedBy (edits.map (splice t)) k = edits.any (deletes t k) := by
  rw [Splice.deletedBy, List.any_map]
  congr 1
  funext e
  rw [Bool.eq_iff_iff, deletes_iff]
  exact decide_eq_true_iff

theorem Reordered.revised_eq (h : Reordered t edits edits') :
    revised t edits' = revised t edits := by
  have hdeletes : (fun k => edits'.any (deletes t k)) = fun k => edits.any (deletes t k) :=
    funext fun k => h.perm.any_eq
  rw [revised, funext h.inserts, hdeletes, revised]

/-- In order, edits that can be woven lead to the same text together and one at a time. -/
theorem eq_revised_of_weave (h : Splice.weave 0 t (edits.map (splice t)) = some u) :
    u = revised t edits ∧ u = oneByOne t edits := by
  have hlen : ∀ s ∈ edits.map (splice t), s.stop ≤ t.length := by
    intro s hs
    obtain ⟨e, -, rfl⟩ := List.mem_map.mp hs
    exact stop_splice_le t e
  constructor
  · rw [Splice.weave_eq_revise h (by simpa using hlen), revised]
    · congr 1
      · exact funext fun _ => insertedBy_splices
      · exact funext fun _ => deletedBy_splices
    · intro s hs
      obtain ⟨e, -, rfl⟩ := List.mem_map.mp hs
      exact text_splice_eq_nil
  · have hweave : Splice.weave 0 (t.drop 0) (edits.map (splice t)) = some u := h
    have hfold := Splice.foldr_apply hweave (Nat.zero_le _) hlen
    rw [List.take_zero, List.nil_append, List.foldr_map] at hfold
    exact hfold.symm

theorem insertsAt_filter : insertsAt t (edits.filter fun e => (insertAt? t k e).isSome) k =
    insertsAt t edits k := by
  rw [insertsAt, insertsAt, List.filterMap_filter]
  congr 1
  funext e
  cases insertAt? t k e <;> rfl

theorem le_of_insertAt? (h : (insertAt? t k e).isSome) (h' : (insertAt? t k e').isSome) :
    Splice.le (e.splice t) (e'.splice t) := by
  cases e with
  | delete r => cases h
  | insert place text =>
    cases e' with
    | delete r => cases h'
    | insert place' text' =>
      simp only [insertAt?, Option.isSome_ite] at h h'
      rw [Splice.le_iff]
      simp only [splice]
      omega

/-- All edits can be put in order, and this is what sorting them does. -/
theorem exists_inOrder (t : Text) (edits : List TextEdit) :
    ∃ edits', Reordered t edits edits' ∧ InOrder t edits' ∧
      edits'.map (splice t) = Order.sort Splice.le (edits.map (splice t)) := by
  let le (e e' : TextEdit) : Bool := Splice.le (e.splice t) (e'.splice t)
  refine ⟨Order.sort le edits, ⟨Order.sort_perm, ?_⟩, ?_, Order.map_sort fun _ _ => rfl⟩
  · intro k
    rw [← insertsAt_filter, Order.filter_sort fun _ _ => le_of_insertAt?, insertsAt_filter]
  · have hsorted : (Order.sort le edits).Pairwise (le · ·) :=
      Order.pairwise_sort (fun _ _ => Splice.le_total _ _) fun _ _ _ => Splice.le_trans _ _ _
    exact hsorted

end TextEdit

namespace EditBatch
open TextEdit
variable {b : EditBatch} {t : Text}

/-- The result by offsets in bytes, as `Splice.weaveSlices` weaves it. -/
def resultOfSlices? (b : EditBatch) (t : Text) : Option (Option Text) :=
  Splice.weaveSlices t 0 (Order.sort Splice.le (b.edits.map (TextEdit.splice t)))

theorem resultOfSlices?_eq (b : EditBatch) (t : Text) :
    b.resultOfSlices? t = some (b.result? t) := by
  have hlen : ∀ s ∈ Order.sort Splice.le (b.edits.map (splice t)), s.stop ≤ t.length := by
    intro s hs
    obtain ⟨e, -, rfl⟩ := List.mem_map.mp (Order.mem_sort.mp hs)
    exact stop_splice_le t e
  exact Splice.weaveSlices_eq (Nat.zero_le t.length) hlen

theorem result?_eq_none_iff : b.result? t = none ↔ ¬ Compatible t b.edits := by
  obtain ⟨edits, hsame, horder, hsort⟩ := exists_inOrder t b.edits
  rw [← compatible_of_perm hsame.perm, ← exists_weave_iff_compatible horder, hsort,
    ← Option.isSome_iff_exists, Option.not_isSome_iff_eq_none, result?]

theorem result?_of_compatible (h : Compatible t b.edits) :
    b.result? t = some (revised t b.edits) := by
  obtain ⟨edits, hsame, horder, hsort⟩ := exists_inOrder t b.edits
  obtain ⟨u, hu⟩ := (exists_weave_iff_compatible horder).mpr ((compatible_of_perm hsame.perm).mpr h)
  rw [result?, ← hsort, hu, (eq_revised_of_weave hu).1, hsame.revised_eq]

theorem result?_reordered {edits : List TextEdit} (h : Reordered t b.edits edits) :
    result? { b with edits } t = b.result? t := by
  by_cases hcompatible : Compatible t b.edits
  · rw [result?_of_compatible hcompatible,
      result?_of_compatible ((compatible_of_perm h.perm).mpr hcompatible), h.revised_eq]
  · rw [result?_eq_none_iff.mpr hcompatible, result?_eq_none_iff, compatible_of_perm h.perm]
    exact hcompatible

/-- Edits that are made together have the result that they have one at a time, from the last place
to the first: what they delete is gone, and what is inserted at a place comes before the character
there in the order of the batch. They are refused just if two of them clash. No other order of the
batch matters, no part of the text is cut where it cannot be, and a document changes only if the
edits are made. -/
theorem made_together (b : EditBatch) (t : Text) :
    (b.result? t = none ↔ Clashing t b.edits) ∧
    (∀ u, b.result? t = some u → u = revised t b.edits ∧
      (∃ edits, Reordered t b.edits edits ∧ InOrder t edits) ∧
      ∀ edits, Reordered t b.edits edits → InOrder t edits → u = oneByOne t edits) ∧
    (∀ edits, Reordered t b.edits edits → result? { b with edits } t = b.result? t) ∧
    b.resultOfSlices? t = some (b.result? t) ∧
    ∀ doc : TextDocument, doc.text = t →
      (b.uri ≠ doc.uri → doc.apply b = (.error (.identityMismatch doc.uri b.uri), doc)) ∧
      (b.uri = doc.uri → b.result? t = none → doc.apply b = (.ok false, doc)) ∧
      ∀ u, b.uri = doc.uri → b.result? t = some u →
        doc.apply b = (.ok true, { doc with text := u, version := doc.version + 1 }) := by
  refine ⟨?_, ?_, fun _ => result?_reordered, resultOfSlices?_eq b t, ?_⟩
  · rw [result?_eq_none_iff, not_compatible_iff]
  · intro u hu
    have hcompatible : Compatible t b.edits := by
      refine Classical.not_not.mp fun hnot => ?_
      rw [result?_eq_none_iff.mpr hnot] at hu
      cases hu
    rw [result?_of_compatible hcompatible, Option.some.injEq] at hu
    obtain ⟨inOrder, hsame, horder, -⟩ := exists_inOrder t b.edits
    refine ⟨hu.symm, ⟨inOrder, hsame, horder⟩, ?_⟩
    intro edits hsame horder
    obtain ⟨u', hu'⟩ :=
      (exists_weave_iff_compatible horder).mpr ((compatible_of_perm hsame.perm).mpr hcompatible)
    obtain ⟨hrevised, hone⟩ := eq_revised_of_weave hu'
    rw [← hone, hrevised, hsame.revised_eq, hu]
  · rintro doc rfl
    refine ⟨?_, ?_, ?_⟩
    · intro hne
      rw [TextDocument.apply, if_neg hne]
    · intro huri hnone
      rw [TextDocument.apply, if_pos huri, hnone]
    · intro u huri hsome
      rw [TextDocument.apply, if_pos huri, hsome]
      rfl

/-- At the end of the first line of "ab", CR, LF, "😀c" one edit inserts past the end, a second at
the end and a third deletes the line's end with the character behind it; a fourth ends before it
starts. -/
theorem made_together_of_crowded :
    let t := ['a', 'b', '\r', '\n', '😀', 'c']
    let inserts : List TextEdit := [.insert ⟨0, 9⟩ ['x'], .insert ⟨0, 2⟩ ['y']]
    let deletes : List TextEdit := [.delete ⟨⟨0, 2⟩, ⟨1, 2⟩⟩, .delete ⟨⟨7, 0⟩, ⟨0, 1⟩⟩]
    result? ⟨"d", deletes ++ inserts⟩ t = some ['a', 'b', 'x', 'y', 'c'] ∧
    result? ⟨"d", inserts ++ deletes⟩ t = result? ⟨"d", deletes ++ inserts⟩ t ∧
    oneByOne t (inserts ++ deletes) = ['a', 'b', 'x', 'y', 'c'] := by
  intro t inserts deletes
  have hresult : result? ⟨"d", deletes ++ inserts⟩ t = some ['a', 'b', 'x', 'y', 'c'] := by decide
  obtain ⟨-, hmade, hsame, -⟩ := made_together ⟨"d", deletes ++ inserts⟩ t
  have hreordered : Reordered t (deletes ++ inserts) (inserts ++ deletes) :=
    ⟨List.perm_append_comm, fun k => by
      simp [insertsAt, insertAt?, List.filterMap_cons, inserts, deletes]⟩
  obtain ⟨-, -, hone⟩ := hmade _ hresult
  exact ⟨hresult, hsame _ hreordered, (hone _ hreordered (by unfold InOrder; decide)).symm⟩

end EditBatch

end Waymark
