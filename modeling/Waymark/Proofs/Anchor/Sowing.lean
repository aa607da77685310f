import Mathlib.Logic.Function.Iterate
import Waymark.Proofs.Anchor.Insertion
import Waymark.Proofs.Text.Resolving

/-! What the batch for a board makes of a text, whatever anchors the text holds already: before
each character come as many anchors as there are markers whose origins resolve to it. -/

namespace Waymark.Anchor
open Text
variable {t u before rest : Text} {f g : Nat → Nat} {a n cursor : Nat} {ns : List Nat}
  {uri : String} {board : Board}

/-- A text with `f k` anchors put in before its character `k`. -/
def sow (f : Nat → Nat) : Text → Text
  | [] => []
  | c :: t => List.replicate (f 0) glyph ++ c :: sow (fun k => f (k + 1)) t

/-- A text with `f k` anchors put in before its character `k`, and those at its end too. -/
def sowThrough (f : Nat → Nat) (t : Text) : Text := sow f t ++ List.replicate (f t.length) glyph

theorem sow_append : sow f (t ++ u) = sow f t ++ sow (fun k => f (t.length + k)) u := by
  induction t generalizing f with
  | nil => simp [sow]
  | cons c t ih =>
    have hshift : (fun k => f (t.length + k + 1)) = fun k => f ((c :: t).length + k) := by
      funext k
      congr 1
      rw [List.length_cons]
      omega
    rw [List.cons_append, sow, ih, sow, hshift]
    simp

theorem sowThrough_append :
    sowThrough f (t ++ u) = sow f t ++ sowThrough (fun k => f (t.length + k)) u := by
  rw [sowThrough, sow_append, sowThrough, List.length_append, List.append_assoc]

theorem sowThrough_append_cons {c : Char} : sowThrough f (t ++ c :: u) =
    sowThrough f t ++ c :: sowThrough (fun k => f (t.length + (k + 1))) u := by
  rw [sowThrough_append]
  simp [sowThrough, sow]

theorem sow_eq_self (h : ∀ k < t.length, f k = 0) : sow f t = t := by
  induction t generalizing f with
  | nil => rfl
  | cons c t ih =>
    have hrest : sow (fun k => f (k + 1)) t = t := ih fun k hk => h (k + 1) (by simpa using hk)
    rw [sow, hrest, h 0 (by simp)]
    rfl

theorem strip_replicate (n : Nat) : strip (List.replicate n glyph) = [] := by
  refine strip_eq_nil fun c hc => ?_
  obtain rfl := (List.mem_replicate.mp hc).2
  decide

theorem strip_sow : strip (sow f t) = strip t := by
  induction t generalizing f with
  | nil => rfl
  | cons c t ih =>
    rw [sow, strip_append, strip_replicate, List.nil_append]
    by_cases hc : isGlyph c
    · rw [strip_cons_of_isGlyph hc, strip_cons_of_isGlyph hc, ih]
    · rw [strip_cons_of_not hc, strip_cons_of_not hc, ih]

theorem strip_sowThrough : strip (sowThrough f t) = strip t := by
  rw [sowThrough, strip_append, strip_sow, strip_replicate, List.append_nil]

theorem getLast?_sow : (sow f t).getLast? = t.getLast? := by
  induction t generalizing f with
  | nil => rfl
  | cons c t ih =>
    rw [sow, List.getLast?_append, List.getLast?_cons, ih, List.getLast?_cons, Option.some_or]

/-- What is put in at the start of a text comes first. -/
theorem exists_sowThrough (f : Nat → Nat) (t : Text) :
    ∃ u, sowThrough f t = List.replicate (f 0) glyph ++ u ∧ strip u = strip t := by
  cases t with
  | nil => exact ⟨[], by simp [sowThrough, sow], rfl⟩
  | cons c t =>
    refine ⟨c :: sowThrough (fun k => f (k + 1)) t, by simp [sowThrough, sow], ?_⟩
    by_cases hc : isGlyph c
    · rw [strip_cons_of_isGlyph hc, strip_cons_of_isGlyph hc, strip_sowThrough]
    · rw [strip_cons_of_not hc, strip_cons_of_not hc, strip_sowThrough]

theorem count_append : count (t ++ u) = count t + count u := List.countP_append ..

theorem count_replicate (n : Nat) : count (List.replicate n glyph) = n := by
  rw [count, List.countP_replicate, if_pos (by decide)]

theorem countP_window (a k : Nat) (ns : List Nat) :
    ns.countP (fun n => a ≤ n ∧ n ≤ a + (k + 1)) =
      ns.count a + ns.countP fun n => a + 1 ≤ n ∧ n ≤ a + 1 + k := by
  induction ns with
  | nil => rfl
  | cons n ns ih =>
    rw [List.countP_cons, List.count_cons, List.countP_cons, ih]
    simp only [decide_eq_true_eq, beq_iff_eq]
    by_cases hn : n = a
    · rw [if_pos hn, if_pos (by omega), if_neg (by omega)]
      omega
    · have hsame : (a ≤ n ∧ n ≤ a + (k + 1)) ↔ (a + 1 ≤ n ∧ n ≤ a + 1 + k) := by omega
      simp only [if_neg hn, hsame]
      omega

/-- Every place in the text that is sown gets its anchor. -/
theorem count_sowThrough (a : Nat) (ns : List Nat) (t : Text) :
    count (sowThrough (fun k => ns.count (a + k)) t) =
      count t + ns.countP fun n => a ≤ n ∧ n ≤ a + t.length := by
  induction t generalizing a with
  | nil =>
    have hsame : ns.countP (fun n => decide (a ≤ n ∧ n ≤ a + ([] : Text).length)) = ns.count a := by
      refine List.countP_congr fun n _ => ?_
      simp only [List.length_nil, decide_eq_true_eq, beq_iff_eq]
      omega
    rw [hsame]
    exact (count_replicate (ns.count a)).trans (Nat.zero_add _).symm
  | cons c t ih =>
    have hshift : (fun k => ns.count (a + (k + 1))) = fun k => ns.count (a + 1 + k) := by
      funext k
      congr 1
      omega
    have hcons : sowThrough (fun k => ns.count (a + k)) (c :: t) =
        List.replicate (ns.count a) glyph ++
          ([c] ++ sowThrough (fun k => ns.count (a + 1 + k)) t) := by
      rw [← hshift]
      simp [sowThrough, sow]
    have hcount : count (c :: t) = count [c] + count t := count_append (t := [c])
    rw [hcons, count_append, count_append, count_replicate, ih, hcount, List.length_cons,
      countP_window]
    omega

/-- Anchors that are woven in where they go in order are sown. -/
theorem weave_pins (hsorted : ns.Pairwise (· ≤ ·)) (hfrom : ∀ n ∈ ns, cursor ≤ n)
    (hto : ∀ n ∈ ns, n ≤ cursor + t.length) :
    Splice.weave cursor t (ns.map pin) = some (sowThrough (fun k => ns.count (cursor + k)) t) := by
  induction ns generalizing cursor t with
  | nil =>
    have hnone : sow (fun k => ([] : List Nat).count (cursor + k)) t = t :=
      sow_eq_self fun _ _ => rfl
    rw [sowThrough, hnone, List.count_nil, List.replicate_zero, List.append_nil]
    rfl
  | cons n ns ih =>
    obtain ⟨hbehind, hsorted⟩ := List.pairwise_cons.mp hsorted
    have hn : cursor ≤ n := hfrom n List.mem_cons_self
    have hlength : n ≤ cursor + t.length := hto n List.mem_cons_self
    obtain ⟨before, rest, rfl, hcut⟩ : ∃ before rest, t = before ++ rest ∧
        before.length = n - cursor :=
      ⟨t.take (n - cursor), t.drop (n - cursor), (List.take_append_drop ..).symm, by
        rw [List.length_take]
        omega⟩
    have htail : Splice.weave n rest (ns.map pin) =
        some (sowThrough (fun k => ns.count (n + k)) rest) := by
      refine ih hsorted hbehind fun k hk => ?_
      have hle := hto k (List.mem_cons_of_mem n hk)
      rw [List.length_append] at hle
      omega
    -- Nothing goes in before character `n`, and one more goes in there than the rest is sown with.
    have hbefore : sow (fun k => (n :: ns).count (cursor + k)) before = before := by
      refine sow_eq_self fun k hk => List.count_eq_zero.mpr fun hmem => ?_
      rcases List.mem_cons.mp hmem with heq | hmem
      · omega
      · have hle := hbehind _ hmem
        omega
    have hrest : sowThrough (fun k => (n :: ns).count (cursor + (before.length + k))) rest =
        glyph :: sowThrough (fun k => ns.count (n + k)) rest := by
      have hfirst : (n :: ns).count (cursor + (before.length + 0)) = ns.count n + 1 := by
        rw [show cursor + (before.length + 0) = n by omega, List.count_cons_self]
      have hlater : (fun k => (n :: ns).count (cursor + (before.length + (k + 1)))) =
          fun k => ns.count (n + (k + 1)) := by
        funext k
        rw [show cursor + (before.length + (k + 1)) = n + (k + 1) by omega,
          List.count_cons_of_ne (by omega)]
      cases rest with
      | nil =>
        simp only [sowThrough, sow, List.length_nil, hfirst]
        rfl
      | cons c rest =>
        have hend := congrFun hlater rest.length
        simp only [sowThrough, sow, List.length_cons, hfirst, hlater, hend]
        rfl
    rw [List.map_cons, Splice.weave_cons_eq_some]
    simp only [pin]
    rw [← hcut, List.take_left, List.drop_left, sowThrough_append, hbefore, hrest]
    exact ⟨hn, _, htail, by simp⟩

/-- A text with the anchors of a board put in. -/
def sown (board : Board) (t : Text) : Text := sowThrough (fun k => (places t board).count k) t

/-- The batch for a board can be made in every text. -/
theorem result?_insertions_eq_sown (uri : String) (board : Board) (t : Text) :
    (insertions uri board).result? t = some (sown board t) := by
  let sorted := Order.sort (fun a b => decide (a ≤ b)) (places t board)
  have hmap : Order.sort Splice.le ((places t board).map pin) = sorted.map pin := by
    refine (Order.map_sort fun a b => ?_).symm
    rw [Bool.eq_iff_iff, Splice.le_iff]
    simp only [pin, decide_eq_true_eq]
    omega
  have hsorted : sorted.Pairwise (· ≤ ·) := by
    refine (Order.pairwise_sort (fun a b => ?_) fun a b c => ?_).imp fun h => of_decide_eq_true h
    · simp only [decide_eq_true_eq]
      omega
    · simp only [decide_eq_true_eq]
      omega
  have hto : ∀ n ∈ sorted, n ≤ 0 + t.length := by
    intro n hn
    obtain ⟨m, -, rfl⟩ := List.mem_map.mp (Order.mem_sort.mp hn)
    have hle := indexAt_le_length t m.origin
    omega
  rw [result?_insertions, hmap, weave_pins hsorted (fun n _ => Nat.zero_le n) hto]
  have hcount : ∀ k, sorted.count (0 + k) = (places t board).count k := by
    intro k
    rw [Nat.zero_add]
    exact Order.sort_perm.count_eq k
  rw [sown]
  simp only [hcount]

theorem sown_perm (board : Board) (t : Text) :
    (sown board t).Perm (List.replicate board.size glyph ++ t) :=
  perm_of_insertions (result?_insertions_eq_sown "" board t)

theorem sown_of_isEmpty (h : board.isEmpty = true) (t : Text) : sown board t = t := by
  have hnone : places t board = [] := by
    rw [places, List.isEmpty_iff.mp h]
    rfl
  have hsow : sow (fun k => ([] : List Nat).count k) t = t := sow_eq_self fun _ _ => rfl
  rw [sown, hnone, sowThrough, hsow, List.count_nil, List.replicate_zero, List.append_nil]

/-- However often the anchors of a board go in, nothing else comes into the text. -/
theorem iterate_sown (board : Board) (hfree : ∀ c ∈ t, ¬ isGlyph c) (n : Nat) :
    strip ((sown board)^[n] t) = t ∧ ((sown board)^[n] t).count glyph = n * board.size ∧
      ∀ c ∈ (sown board)^[n] t, isGlyph c → c = glyph := by
  induction n with
  | zero =>
    refine ⟨strip_eq_self hfree, ?_, fun c hc hglyph => absurd hglyph (hfree c hc)⟩
    rw [Function.iterate_zero_apply, Nat.zero_mul, List.count_eq_zero]
    exact fun hmem => hfree glyph hmem (by decide)
  | succ n ih =>
    obtain ⟨hstrip, hcount, honly⟩ := ih
    rw [Function.iterate_succ_apply']
    have hperm := sown_perm board ((sown board)^[n] t)
    refine ⟨?_, ?_, ?_⟩
    · rw [sown, strip_sowThrough, hstrip]
    · rw [hperm.count_eq, List.count_append, List.count_replicate_self, hcount, Nat.succ_mul]
      omega
    · intro c hc hglyph
      rcases List.mem_append.mp (hperm.mem_iff.mp hc) with hnew | hold
      · exact (List.mem_replicate.mp hnew).2
      · exact honly c hold hglyph

end Waymark.Anchor
