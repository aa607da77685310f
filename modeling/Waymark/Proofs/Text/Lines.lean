import Waymark.Proofs.Text.Extent

/-! The places that positions name: on a line that there is, between two characters of it, and not
past its end. -/

namespace Waymark

open Text in
/-- Whether a position is that of a place in a text: its line is there, and its column is the width
of some beginning of the line. A return at the line's end is no part of the line. -/
def Position.IsIn (p : Position) (t : Text) : Prop :=
  ∃ line, (t.splitAt '\n')[p.line]? = some line ∧
    ∃ beginning, beginning <+: withoutReturn line ∧ utf16Length beginning = p.character

open Text in
instance (p : Position) (t : Text) : Decidable (p.IsIn t) :=
  match h : (t.splitAt '\n')[p.line]? with
  | none => isFalse (by simp [Position.IsIn, h])
  | some line =>
    let columns := (List.range (withoutReturn line).length.succ).map fun n =>
      utf16Length ((withoutReturn line).take n)
    decidable_of_iff (p.character ∈ columns) (by
      simp only [Position.IsIn, h, Option.some.injEq, exists_eq_left', columns, List.mem_map,
        List.mem_range, Nat.lt_succ_iff]
      constructor
      · rintro ⟨n, -, hn⟩
        exact ⟨_, List.take_prefix n _, hn⟩
      · rintro ⟨beginning, hprefix, hwidth⟩
        refine ⟨beginning.length, hprefix.length_le, ?_⟩
        rw [← List.prefix_iff_eq_take.mp hprefix, hwidth])

namespace Text
variable {c sep : Char} {t u pre post line : Text} {p : Position} {n : Nat}

theorem splitAt_ne_nil (sep : Char) (t : Text) : splitAt sep t ≠ [] := by
  cases t with
  | nil => simp [splitAt]
  | cons c t =>
    rw [splitAt]
    split
    · simp
    · split <;> simp

theorem splitAt_cons_of_ne (h : c ≠ sep) :
    ∃ part parts, splitAt sep t = part :: parts ∧ splitAt sep (c :: t) = (c :: part) :: parts := by
  obtain ⟨part, parts, ht⟩ := List.exists_cons_of_ne_nil (splitAt_ne_nil sep t)
  exact ⟨part, parts, ht, by simp [splitAt, h, ht]⟩

theorem splitAt_feed_zero : (splitAt '\n' t)[0]? = some (firstLine t) := by
  induction t with
  | nil => rfl
  | cons c t ih =>
    by_cases hc : c = '\n'
    · simp [splitAt, firstLine, hc]
    · obtain ⟨part, parts, ht, hcons⟩ := splitAt_cons_of_ne (t := t) hc
      simp only [ht, List.getElem?_cons_zero, Option.some.injEq] at ih
      simp [hcons, ih, firstLine, hc]

theorem withoutReturn_prefix : withoutReturn t <+: t := by
  induction t with
  | nil => exact List.prefix_refl _
  | cons c t ih =>
    by_cases h : c = '\r' ∧ t = []
    · obtain ⟨rfl, rfl⟩ := h
      simp [withoutReturn]
    · rw [withoutReturn_cons h]
      exact List.cons_prefix_cons.mpr ⟨rfl, ih⟩

theorem withoutReturn_concat : withoutReturn (t ++ ['\r']) = t := by
  induction t with
  | nil => rfl
  | cons c t ih => rw [List.cons_append, withoutReturn_cons (by simp), ih]

theorem firstLine_append (h : '\n' ∉ pre) : firstLine (pre ++ post) = pre ++ firstLine post := by
  rw [firstLine, List.takeWhile_append_of_pos]
  · rfl
  · intro c hc
    have hne : c ≠ '\n' := by
      rintro rfl
      exact h hc
    simpa using hne

theorem noFeed_of_prefix_firstLine (h : pre <+: firstLine t) : '\n' ∉ pre := by
  intro hmem
  have hall := List.all_takeWhile (p := (· ≠ '\n')) (l := t)
  simpa using List.all_eq_true.mp hall '\n' (h.subset hmem)

theorem not_behindReturn_of_prefix (h : pre <+: withoutReturn (firstLine (pre ++ post)))
    (hfeed : '\n' ∉ pre) : ¬ BehindReturn pre post := by
  rintro ⟨hlast, hpost⟩
  obtain ⟨init, rfl⟩ : ∃ init, pre = init ++ ['\r'] := by
    rcases List.eq_nil_or_concat pre with rfl | ⟨init, c, rfl⟩
    · simp at hlast
    · exact ⟨init, by simpa using hlast⟩
  rw [firstLine_append hfeed, firstLine_eq_nil_iff.mpr hpost, List.append_nil,
    withoutReturn_concat] at h
  have hlength := h.length_le
  rw [List.length_append, List.length_singleton] at hlength
  omega

theorem behindReturn_cons (h : BehindReturn (c :: pre) post) (hne : c ≠ '\r') :
    BehindReturn pre post := by
  cases pre with
  | nil => simp [BehindReturn, hne] at h
  | cons d pre => simpa [BehindReturn] using h

/-- A position that is in a text ends a beginning of it. -/
theorem exists_prefix_of_isIn (h : p.IsIn t) :
    ∃ pre post, t = pre ++ post ∧ extent pre = p ∧ ¬ BehindReturn pre post := by
  obtain ⟨n, k⟩ := p
  induction t generalizing n with
  | nil =>
    obtain ⟨line, hline, pre, hpre, rfl⟩ := h
    cases n with
    | zero =>
      obtain rfl : line = [] := by simpa [splitAt, eq_comm] using hline
      obtain rfl : pre = [] := by simpa [withoutReturn] using hpre
      exact ⟨[], [], rfl, rfl, by simp [BehindReturn]⟩
    | succ n => simp [splitAt] at hline
  | cons c t ih =>
    obtain ⟨line, hline, pre, hpre, rfl⟩ := h
    cases n with
    | zero =>
      rw [splitAt_feed_zero, Option.some.injEq] at hline
      subst hline
      have hfirst := hpre.trans withoutReturn_prefix
      have hfeed := noFeed_of_prefix_firstLine hfirst
      obtain ⟨post, hpost⟩ := hfirst.trans (List.takeWhile_prefix _)
      refine ⟨pre, post, hpost.symm, extent_of_noFeed hfeed, ?_⟩
      exact not_behindReturn_of_prefix (hpost ▸ hpre) hfeed
    | succ n =>
      by_cases hc : c = '\n'
      · subst hc
        have htail : (splitAt '\n' t)[n]? = some line := by simpa [splitAt] using hline
        obtain ⟨pre', post, rfl, hext, hreturn⟩ := ih n ⟨line, htail, pre, hpre, rfl⟩
        refine ⟨'\n' :: pre', post, rfl, ?_, fun h => hreturn (behindReturn_cons h (by decide))⟩
        rw [extent_cons, hext, extent_singleton]
        simp [Position.add_def, Nat.add_comm]
      · obtain ⟨part, parts, ht, hcons⟩ := splitAt_cons_of_ne (t := t) hc
        have htail : (splitAt '\n' t)[n + 1]? = some line := by simpa [hcons, ht] using hline
        obtain ⟨pre', post, rfl, hext, hreturn⟩ := ih (n + 1) ⟨line, htail, pre, hpre, rfl⟩
        refine ⟨c :: pre', post, rfl, ?_, ?_⟩
        · rw [extent_cons, hext, extent_singleton, if_neg hc]
          simp [Position.add_def]
        · intro h
          cases pre' with
          | nil => simp at hext
          | cons d pre' => exact hreturn (by simpa [BehindReturn] using h)

end Text

end Waymark
