import Waymark.Proofs.Anchor.Weaving
import Waymark.Proofs.Text.Slices

/-! What woven splices do to a text: at each place they put in what they insert there, and of the
characters they take away those that they delete. Made one after the other from the last, they do
the same. -/

namespace Waymark

namespace Text
variable {inserted inserted' : Nat → Text} {deleted deleted' : Nat → Bool} {k n : Nat} {t u : Text}

/-- The text from place `k` on, with what is inserted at each place put before the character there
and without the characters that are deleted. -/
def revise (inserted : Nat → Text) (deleted : Nat → Bool) : Nat → Text → Text
  | k, [] => inserted k
  | k, c :: cs =>
    inserted k ++ (if deleted k then [] else [c]) ++ revise inserted deleted (k + 1) cs

theorem revise_congr (hins : ∀ i, k ≤ i → inserted i = inserted' i)
    (hdel : ∀ i, k ≤ i → deleted i = deleted' i) :
    revise inserted deleted k t = revise inserted' deleted' k t := by
  induction t generalizing k with
  | nil => exact hins k (Nat.le_refl k)
  | cons c cs ih =>
    have htail : revise inserted deleted (k + 1) cs = revise inserted' deleted' (k + 1) cs :=
      ih (fun i hi => hins i (by omega)) fun i hi => hdel i (by omega)
    rw [revise, revise, hins k (Nat.le_refl k), hdel k (Nat.le_refl k), htail]

/-- Over a stretch where nothing is inserted, each character stays or goes. -/
theorem revise_stretch {gone : Bool} (hn : n ≤ t.length)
    (hins : ∀ i, k ≤ i → i < k + n → inserted i = [])
    (hdel : ∀ i, k ≤ i → i < k + n → deleted i = gone) :
    revise inserted deleted k t =
      (if gone then [] else t.take n) ++ revise inserted deleted (k + n) (t.drop n) := by
  induction n generalizing k t with
  | zero => cases gone <;> simp
  | succ n ih =>
    cases t with
    | nil => simp at hn
    | cons c cs =>
      have htail := ih (k := k + 1) (t := cs) (by simpa using hn)
        (fun i hi h => hins i (by omega) (by omega)) fun i hi h => hdel i (by omega) (by omega)
      rw [Nat.add_right_comm] at htail
      rw [revise, hins k (Nat.le_refl k) (by omega), hdel k (Nat.le_refl k) (by omega), htail]
      cases gone <;> simp [Nat.add_assoc]

theorem revise_self (hins : ∀ i, k ≤ i → inserted i = []) (hdel : ∀ i, k ≤ i → deleted i = false) :
    revise inserted deleted k t = t := by
  rw [revise_stretch (Nat.le_refl t.length) (fun i hi _ => hins i hi) fun i hi _ => hdel i hi]
  simp [revise, hins]

/-- What is inserted at a place comes before all that is there. -/
theorem revise_insert (hk : inserted k = u ++ inserted' k)
    (hins : ∀ i, k < i → inserted i = inserted' i) (hdel : ∀ i, k ≤ i → deleted i = deleted' i) :
    revise inserted deleted k t = u ++ revise inserted' deleted' k t := by
  cases t with
  | nil => exact hk
  | cons c cs =>
    have htail : revise inserted deleted (k + 1) cs = revise inserted' deleted' (k + 1) cs :=
      revise_congr (fun i hi => hins i (by omega)) fun i hi => hdel i (by omega)
    simp only [revise, hk, hdel k (Nat.le_refl k), htail, List.append_assoc]

end Text

namespace Splice
variable {a b s : Splice} {ss : List Splice} {cursor k : Nat} {t rest out : Text}

/-- What splices put before the character at a place, if they go by where they start. -/
def insertedBy (ss : List Splice) (k : Nat) : Text := (ss.filter (·.start = k)).flatMap (·.text)

/-- Whether one of the splices makes the character at a place go. -/
def deletedBy (ss : List Splice) (k : Nat) : Bool := ss.any fun s => s.start ≤ k ∧ k < s.stop

theorem insertedBy_eq_nil (h : ∀ s ∈ ss, s.start ≠ k) : insertedBy ss k = [] := by
  rw [insertedBy, List.filter_eq_nil_iff.mpr (by simpa using h), List.flatMap_nil]

theorem deletedBy_eq_false (h : ∀ s ∈ ss, k < s.start) : deletedBy ss k = false := by
  rw [deletedBy, List.any_eq_false]
  intro s hs
  have := h s hs
  simp only [decide_eq_true_eq]
  omega

theorem insertedBy_cons_of_ne (h : s.start ≠ k) : insertedBy (s :: ss) k = insertedBy ss k := by
  rw [insertedBy, List.filter_cons_of_neg (by simpa using h), insertedBy]

theorem insertedBy_cons_self : insertedBy (s :: ss) s.start = s.text ++ insertedBy ss s.start := by
  rw [insertedBy, List.filter_cons_of_pos (by simp), List.flatMap_cons, insertedBy]

theorem deletedBy_cons_of_not (h : ¬ (s.start ≤ k ∧ k < s.stop)) :
    deletedBy (s :: ss) k = deletedBy ss k := by
  simp [deletedBy, h]

theorem deletedBy_cons_of_mem (h : s.start ≤ k ∧ k < s.stop) : deletedBy (s :: ss) k = true := by
  simp [deletedBy, h]

/-- Where the first splice starts, it puts in its text and takes away what it is to replace. -/
theorem revise_cons (hstart : ∀ a ∈ ss, s.stop ≤ a.start) (hlen : s.stop - s.start ≤ t.length)
    (htext : s.start < s.stop → s.text = []) :
    Text.revise (insertedBy (s :: ss)) (deletedBy (s :: ss)) s.start t =
      s.text ++ Text.revise (insertedBy ss) (deletedBy ss) s.stop (t.drop (s.stop - s.start)) := by
  have hle := s.start_le_stop
  by_cases hempty : s.start = s.stop
  · rw [← hempty, Nat.sub_self, List.drop_zero]
    refine Text.revise_insert insertedBy_cons_self ?_ ?_
    · intro i hi
      exact insertedBy_cons_of_ne (by omega)
    · intro i hi
      exact deletedBy_cons_of_not (by omega)
  · have hlt : s.start < s.stop := by omega
    have hstop : s.start + (s.stop - s.start) = s.stop := by omega
    have hins : ∀ i, s.start ≤ i → i < s.start + (s.stop - s.start) →
        insertedBy (s :: ss) i = [] := by
      intro i hi hi'
      have hrest : insertedBy ss i = [] := insertedBy_eq_nil fun a ha => by
        have := hstart a ha
        omega
      by_cases hsame : s.start = i
      · rw [← hsame, insertedBy_cons_self, htext hlt, hsame, hrest, List.append_nil]
      · rw [insertedBy_cons_of_ne hsame, hrest]
    rw [htext hlt, List.nil_append,
      Text.revise_stretch hlen hins fun i hi hi' => deletedBy_cons_of_mem (by omega), hstop]
    refine Text.revise_congr ?_ ?_
    · intro i hi
      exact insertedBy_cons_of_ne (by omega)
    · intro i hi
      exact deletedBy_cons_of_not (by omega)

/-- Weaving puts in what is to be inserted and takes away what is to be deleted, each at its
place. -/
theorem weave_eq_revise (h : weave cursor rest ss = some out)
    (hlen : ∀ s ∈ ss, s.stop ≤ cursor + rest.length)
    (htext : ∀ s ∈ ss, s.start < s.stop → s.text = []) :
    out = Text.revise (insertedBy ss) (deletedBy ss) cursor rest := by
  induction ss generalizing cursor rest out with
  | nil =>
    have hself : Text.revise (insertedBy []) (deletedBy []) cursor rest = rest :=
      Text.revise_self (fun _ _ => rfl) fun _ _ => rfl
    rw [hself]
    simpa [weave, eq_comm] using h
  | cons s ss ih =>
    obtain ⟨hs, tail, ht, rfl⟩ := weave_cons_eq_some.mp h
    have hstarts : ∀ a ∈ ss, s.stop ≤ a.start := (pairwise_of_weave ht).1
    have hstop := hlen s (by simp)
    have hle := s.start_le_stop
    have htail : tail = Text.revise (insertedBy ss) (deletedBy ss) s.stop
        (rest.drop (s.stop - cursor)) := by
      refine ih ht ?_ fun a ha => htext a (List.mem_cons_of_mem s ha)
      intro a ha
      have := hlen a (List.mem_cons_of_mem s ha)
      rw [List.length_drop]
      omega
    have hahead : ∀ a ∈ s :: ss, s.start ≤ a.start := by
      intro a ha
      rcases List.mem_cons.mp ha with rfl | ha
      · exact Nat.le_refl _
      · exact Nat.le_trans hle (hstarts a ha)
    have hdrop : s.start - cursor + (s.stop - s.start) = s.stop - cursor := by omega
    have hnothing : ∀ i, cursor ≤ i → i < cursor + (s.start - cursor) →
        insertedBy (s :: ss) i = [] := by
      intro i hi hi'
      refine insertedBy_eq_nil fun a ha => ?_
      have := hahead a ha
      omega
    have hstays : ∀ i, cursor ≤ i → i < cursor + (s.start - cursor) →
        deletedBy (s :: ss) i = false := by
      intro i hi hi'
      refine deletedBy_eq_false fun a ha => ?_
      have := hahead a ha
      omega
    have hlength : s.start - cursor ≤ rest.length := by omega
    rw [Text.revise_stretch hlength hnothing hstays, Nat.add_sub_cancel' hs,
      revise_cons hstarts (by rw [List.length_drop]; omega) (htext s (by simp)),
      List.drop_drop, hdrop, ← htail, List.append_assoc]
    rfl

/-- The text with one splice made. -/
def apply (s : Splice) (t : Text) : Text := t.take s.start ++ s.text ++ t.drop s.stop

/-- A splice that is made after the ones behind it finds its place where it was. -/
theorem foldr_apply (h : weave cursor (t.drop cursor) ss = some out) (hcursor : cursor ≤ t.length)
    (hlen : ∀ s ∈ ss, s.stop ≤ t.length) : ss.foldr apply t = t.take cursor ++ out := by
  induction ss generalizing cursor out with
  | nil =>
    obtain rfl : t.drop cursor = out := by simpa [weave] using h
    rw [List.foldr_nil, List.take_append_drop]
  | cons s ss ih =>
    obtain ⟨hs, tail, ht, rfl⟩ := weave_cons_eq_some.mp h
    have hstop := hlen s (by simp)
    have hle := s.start_le_stop
    rw [List.drop_drop, Nat.add_sub_cancel' (by omega)] at ht
    have hlength : (t.take s.stop).length = s.stop := by
      rw [List.length_take]
      omega
    rw [List.foldr_cons, ih ht hstop fun a ha => hlen a (List.mem_cons_of_mem s ha), apply,
      List.take_append_of_le_length (by omega), List.take_take, Nat.min_eq_left hle,
      List.drop_left' hlength]
    simp only [← List.append_assoc]
    rw [← List.take_add, Nat.add_sub_cancel' hs]

/-- Each of the two starts before the other has stopped. -/
def Crosses (a b : Splice) : Prop := a.start < b.stop ∧ b.start < a.stop

theorem Crosses.symm (h : a.Crosses b) : b.Crosses a := ⟨h.2, h.1⟩

/-- Of two splices in order, the first has stopped where the second starts unless they cross. Where
they start at one place this takes that the empty one comes first. -/
theorem stop_le_start_iff (h : Splice.le a b) : a.stop ≤ b.start ↔ ¬ a.Crosses b := by
  have ha := a.start_le_stop
  have hb := b.start_le_stop
  rw [le_iff] at h
  unfold Crosses
  omega

theorem exists_weave_iff_of_pairwise (h : ss.Pairwise (Splice.le · ·)) :
    (∃ out, weave 0 rest ss = some out) ↔ ss.Pairwise fun a b => ¬ a.Crosses b := by
  rw [exists_weave_iff]
  constructor
  · rintro ⟨-, hpairs⟩
    exact (h.and hpairs).imp fun hab => (stop_le_start_iff hab.1).mp hab.2
  · intro hpairs
    have hstops := (h.and hpairs).imp fun hab => (stop_le_start_iff hab.1).mpr hab.2
    exact ⟨fun _ _ => Nat.zero_le _, hstops⟩

/-- Weaves by offsets in bytes, as `Text.offsetAt` has them: each part of the text that stays is cut
out of it. The outer result is missing if some part cannot be cut out, the inner one if the splices
are refused. -/
def weaveSlices (t : Text) (cursor : Nat) : List Splice → Option (Option Text)
  | [] => (t.slice? cursor (Text.utf8Length t)).map some
  | s :: ss =>
    let start := Text.utf8Length (t.take s.start)
    if start < cursor then some none
    else do
      let gap ← t.slice? cursor start
      let tail ← weaveSlices t (Text.utf8Length (t.take s.stop)) ss
      some (tail.map fun tail => gap ++ s.text ++ tail)

/-- All that is cut out is there. -/
theorem weaveSlices_eq (hcursor : cursor ≤ t.length) (hlen : ∀ s ∈ ss, s.stop ≤ t.length) :
    weaveSlices t (Text.utf8Length (t.take cursor)) ss =
      some (weave cursor (t.drop cursor) ss) := by
  induction ss generalizing cursor with
  | nil =>
    have hslice := Text.slice?_utf8Length hcursor (Nat.le_refl t.length)
    rw [List.take_length] at hslice
    rw [weaveSlices, hslice]
    rfl
  | cons s ss ih =>
    have hstop := hlen s (by simp)
    have hle := s.start_le_stop
    have hstart : s.start ≤ t.length := by omega
    have htail := ih hstop fun a ha => hlen a (List.mem_cons_of_mem s ha)
    simp only [weaveSlices, weave, Text.utf8Length_take_lt_iff hstart hcursor]
    split
    · rfl
    · next hs =>
      have hcs : cursor ≤ s.start := by omega
      rw [Text.slice?_utf8Length hcs hstart, htail, List.drop_drop,
        Nat.add_sub_cancel' (Nat.le_trans hcs hle), List.drop_take]
      rfl

end Splice

end Waymark
