import Waymark.Text.Basic

/-! Cutting a text at offsets in bytes: offsets that come from places between characters can be cut
at, and are as far apart as the places. -/

namespace Waymark.Text
variable {t : Text} {k l : Nat}

/-- How many characters stand before an offset in bytes, if the offset is between two characters
or at an end. -/
def boundary? : Text → Nat → Option Nat
  | _, 0 => some 0
  | [], _ + 1 => none
  | c :: cs, n + 1 =>
    if c.utf8Size ≤ n + 1 then (boundary? cs (n + 1 - c.utf8Size)).map (· + 1) else none

/-- The part of a text between two offsets in bytes. There is none if one of them is inside a
character or past the end, or if they are the wrong way round. -/
def slice? (t : Text) (start stop : Nat) : Option Text := do
  let k ← t.boundary? start
  let l ← t.boundary? stop
  if k ≤ l then some ((t.take l).drop k) else none

theorem boundary?_utf8Length (h : k ≤ t.length) : boundary? t (utf8Length (t.take k)) = some k := by
  induction k generalizing t with
  | zero => cases t <;> rfl
  | succ k ih =>
    cases t with
    | nil => simp at h
    | cons c cs =>
      have htail : boundary? cs (utf8Length (cs.take k)) = some k := ih (by simpa using h)
      obtain ⟨n, hn⟩ := Nat.exists_eq_succ_of_ne_zero (Nat.ne_of_gt c.utf8Size_pos)
      have hrest : n + utf8Length (cs.take k) + 1 - n.succ = utf8Length (cs.take k) := by omega
      rw [List.take_succ_cons, utf8Length_cons, hn, Nat.succ_add, boundary?, hn,
        if_pos (by omega), hrest, htail]
      rfl

/-- An offset that is between two characters or at an end is the length of what is before it. -/
theorem utf8Length_of_boundary? {n : Nat} (h : t.boundary? n = some k) :
    utf8Length (t.take k) = n ∧ k ≤ t.length := by
  induction t generalizing n k with
  | nil =>
    cases n with
    | zero => cases h; exact ⟨rfl, Nat.le_refl _⟩
    | succ n => cases h
  | cons c cs ih =>
    cases n with
    | zero => cases h; exact ⟨rfl, Nat.zero_le _⟩
    | succ n =>
      rw [boundary?] at h
      split at h
      · next hsize =>
        obtain ⟨l, hl, rfl⟩ := Option.map_eq_some_iff.mp h
        obtain ⟨hlength, hle⟩ := ih hl
        rw [List.take_succ_cons, utf8Length_cons, hlength, List.length_cons]
        omega
      · cases h

theorem slice?_utf8Length (hkl : k ≤ l) (hl : l ≤ t.length) :
    t.slice? (utf8Length (t.take k)) (utf8Length (t.take l)) = some ((t.take l).drop k) := by
  rw [slice?, boundary?_utf8Length (Nat.le_trans hkl hl), boundary?_utf8Length hl]
  exact if_pos hkl

theorem utf8Length_take_le (hkl : k ≤ l) : utf8Length (t.take k) ≤ utf8Length (t.take l) := by
  rw [← List.take_append_drop k (t.take l), List.take_take, Nat.min_eq_left hkl,
    utf8Length_append]
  omega

theorem utf8Length_take_lt_iff (hk : k ≤ t.length) (hl : l ≤ t.length) :
    utf8Length (t.take k) < utf8Length (t.take l) ↔ k < l := by
  constructor
  · intro h
    refine Nat.lt_of_not_le fun hlk => ?_
    have hle : utf8Length (t.take l) ≤ utf8Length (t.take k) := utf8Length_take_le hlk
    omega
  · intro h
    refine Nat.lt_of_le_of_ne (utf8Length_take_le (Nat.le_of_lt h)) fun heq => ?_
    have hsame := boundary?_utf8Length hk
    rw [heq, boundary?_utf8Length hl, Option.some.injEq] at hsame
    omega

end Waymark.Text
