import Mathlib.Data.List.Induction
import Waymark.Proofs.Text.Resolving
import Waymark.Proofs.Text.Slices

/-! Positions as offsets in bytes. Resolving has a result for every position, keeps the order of
positions, and leads back to where a position was counted. -/

namespace Waymark.Text
variable {c : Char} {t : Text} {n k : Nat}

/-! ### Bytes and characters -/

theorem dropBytes_utf8Length (n : Nat) (t : Text) :
    t.dropBytes (utf8Length (t.take n)) = t.drop n := by
  induction n generalizing t with
  | zero => cases t <;> rfl
  | succ n ih =>
    cases t with
    | nil => rfl
    | cons c t =>
      obtain ⟨m, hm⟩ := Nat.exists_eq_succ_of_ne_zero (Nat.ne_of_gt c.utf8Size_pos)
      have hrest : m + utf8Length (t.take n) + 1 - (m + 1) = utf8Length (t.take n) := by omega
      rw [List.take_succ_cons, utf8Length_cons, List.drop_succ_cons, hm, Nat.succ_add, dropBytes,
        hm, hrest, ih]

theorem lineOffset_eq (n : Nat) (t : Text) :
    lineOffset n t = (lineStart n t).map fun k => utf8Length (t.take k) := by
  fun_induction lineStart n t with
  | case1 t => simp [lineOffset]
  | case2 n => rfl
  | case3 n c t ih =>
    rw [lineOffset, ih, Option.map_map, Option.map_map]
    rfl

theorem columnOffset_eq (k : Nat) (t : Text) :
    columnOffset k t = utf8Length (t.take (columnIndex k t)) := by
  fun_induction columnIndex k t with
  | case1 t => simp [columnOffset]
  | case2 k => rfl
  | case3 k c t ih => rw [columnOffset, ih, List.take_succ_cons, utf8Length_cons]

theorem columnIndex_le_length (k : Nat) (t : Text) : columnIndex k t ≤ t.length := by
  fun_induction columnIndex k t with
  | case1 t => exact Nat.zero_le _
  | case2 k => exact Nat.zero_le _
  | case3 k c t ih => exact Nat.succ_le_succ ih

/-- Counting bytes on the way to a position comes to the length of what is before it. -/
theorem offsetAt_eq (t : Text) (p : Position) :
    t.offsetAt p = utf8Length (t.take (t.indexAt p)) := by
  unfold offsetAt indexAt
  rw [lineOffset_eq]
  cases lineStart p.line t with
  | none => simp
  | some n =>
    obtain ⟨rest, hrest⟩ : withoutReturn (firstLine (t.drop n)) <+: t.drop n :=
      withoutReturn_prefix.trans (List.takeWhile_prefix _)
    have hcolumn : columnIndex p.character (withoutReturn (firstLine (t.drop n))) ≤ _ :=
      columnIndex_le_length _ _
    simp only [Option.map_some, dropBytes_utf8Length, columnOffset_eq]
    rw [List.take_add, utf8Length_append, ← List.take_append_of_le_length hcolumn, hrest]

/-! ### Where positions are resolved to -/

/-- A character takes no more columns than bytes. -/
theorem utf16Width_le_utf8Size : utf16Width c ≤ c.utf8Size := by
  have hpos : 0 < c.utf8Size := c.utf8Size_pos
  unfold utf16Width
  split
  · exact hpos
  · next hwide =>
    have hne : c.utf8Size ≠ 1 := by
      intro hone
      have hle : c.toNat ≤ 127 := UInt32.le_iff_toNat_le.mp (Char.utf8Size_eq_one_iff.mp hone)
      omega
    omega

theorem extent_le_utf8Length (t : Text) :
    (extent t).line + (extent t).character ≤ utf8Length t := by
  induction t using List.reverseRecOn with
  | nil => exact Nat.le_refl _
  | append_singleton t c ih =>
    have hwidth : utf16Width c ≤ c.utf8Size := utf16Width_le_utf8Size
    have hsize : 0 < c.utf8Size := c.utf8Size_pos
    rw [extent_concat, Position.after, utf8Length_append, utf8Length_cons, utf8Length_nil]
    split <;> dsimp only <;> omega

theorem boundary?_offsetAt (t : Text) (p : Position) :
    t.boundary? (t.offsetAt p) = some (t.indexAt p) := by
  rw [offsetAt_eq]
  exact boundary?_utf8Length (indexAt_le_length t p)

theorem offsetAt_le_utf8Length (t : Text) (p : Position) : t.offsetAt p ≤ utf8Length t := by
  have hle : utf8Length (t.take (t.indexAt p)) ≤ utf8Length (t.take t.length) :=
    utf8Length_take_le (indexAt_le_length t p)
  rwa [List.take_length, ← offsetAt_eq] at hle

/-- Resolving the position behind the first `n` characters leads behind them, or else before the
return that ends the line there. -/
theorem offsetAt_extent_iff (hn : n ≤ t.length) :
    t.offsetAt (extent (t.take n)) = utf8Length (t.take n) ↔
      ¬ BehindReturn (t.take n) (t.drop n) := by
  have hsplit : t = t.take n ++ t.drop n := (List.take_append_drop n t).symm
  have hlength : (t.take n).length = n := List.length_take_of_le hn
  rw [offsetAt_eq]
  constructor
  · intro hoffset hreturn
    have hlt : t.indexAt (extent (t.take n)) < n := by
      have hlt := indexAt_extent_lt hreturn
      rwa [← hsplit, hlength] at hlt
    have hshort : utf8Length (t.take (t.indexAt (extent (t.take n)))) < utf8Length (t.take n) :=
      (utf8Length_take_lt_iff (indexAt_le_length t _) hn).mpr hlt
    exact Nat.ne_of_lt hshort hoffset
  · intro hreturn
    have hindex : t.indexAt (extent (t.take n)) = n := by
      have hindex := indexAt_extent hreturn
      rwa [← hsplit, hlength] at hindex
    rw [hindex]

/-- Every position resolves to an offset between two characters or at an end of the text, and a
later one to no lesser offset. From an offset, counting line feeds and UTF-16 units gives a position
that resolves back to it, just if the offset is not behind a return that ends its line; and neither
count is above the offset. -/
theorem positions_resolve (t : Text) :
    (∀ p, t.boundary? (t.offsetAt p) = some (t.indexAt p) ∧ t.offsetAt p ≤ utf8Length t) ∧
    (∀ p q, Position.le p q → t.offsetAt p ≤ t.offsetAt q) ∧
    ∀ k n, t.boundary? k = some n →
      (t.offsetAt (extent (t.take n)) = k ↔ ¬ BehindReturn (t.take n) (t.drop n)) ∧
      (extent (t.take n)).line + (extent (t.take n)).character ≤ k := by
  refine ⟨?_, ?_, ?_⟩
  · exact fun p => ⟨boundary?_offsetAt t p, offsetAt_le_utf8Length t p⟩
  · intro p q h
    rw [offsetAt_eq, offsetAt_eq]
    exact utf8Length_take_le (indexAt_mono t (Position.le_iff.mp h))
  · intro k n h
    obtain ⟨rfl, hn⟩ := utf8Length_of_boundary? h
    exact ⟨offsetAt_extent_iff hn, extent_le_utf8Length _⟩

/-- In "a", CR, LF, "😀" no position resolves behind the return, one past the end of the first line
falls before it, and one inside of the pair falls behind the pair. -/
theorem positions_resolve_of_pair :
    let t : Text := ['a', '\r', '\n', '😀']
    (t.boundary? 2 = some 2 ∧ t.offsetAt (extent (t.take 2)) ≠ 2) ∧
    (t.boundary? 3 = some 3 ∧ t.offsetAt (extent (t.take 3)) = 3) ∧
    Position.le ⟨0, 9⟩ ⟨1, 1⟩ ∧ t.offsetAt ⟨0, 9⟩ ≤ t.offsetAt ⟨1, 1⟩ ∧
    t.offsetAt ⟨0, 9⟩ = 1 ∧ t.offsetAt ⟨1, 1⟩ = 7 := by
  intro t
  obtain ⟨-, horder, hback⟩ := positions_resolve t
  have hreturn : t.boundary? 2 = some 2 := by decide
  have hfeed : t.boundary? 3 = some 3 := by decide
  have hle : Position.le ⟨0, 9⟩ ⟨1, 1⟩ := by decide
  refine ⟨⟨hreturn, ?_⟩, ⟨hfeed, ?_⟩, hle, horder _ _ hle, by decide, by decide⟩
  · intro hoffset
    exact (hback 2 2 hreturn).1.mp hoffset ⟨rfl, .inr rfl⟩
  · apply (hback 3 3 hfeed).1.mpr
    rintro ⟨hlast, -⟩
    exact absurd hlast (by decide)

end Waymark.Text
