import Waymark.Proofs.Text.Lines

/-! Bounds on where positions resolve to. Resolving goes through the text one character at a time,
and a later position goes on at least as long. A position that a beginning of the text reaches
resolves to a place in it, and one that goes on from the end of a beginning resolves behind it. -/

namespace Waymark

theorem Position.exists_add {p q : Position} (h : ¬ q < p) : ∃ d, q = p + d := by
  by_cases hline : q.line = p.line
  · refine ⟨⟨0, q.character - p.character⟩, ?_⟩
    simp only [Position.lt_def] at h
    ext
    · simpa using hline
    · simp only [Position.add_def, if_true]
      omega
  · refine ⟨⟨q.line - p.line, q.character⟩, ?_⟩
    simp only [Position.lt_def] at h
    ext
    · rw [Position.add_line]
      dsimp only
      omega
    · rw [Position.add_def, if_neg (by dsimp only; omega)]

namespace Text
variable {c : Char} {t pre post : Text} {p p' q r : Position} {k : Nat}

theorem not_extent_lt_of_prefix (h : pre <+: t) : ¬ extent t < extent pre := by
  obtain ⟨post, rfl⟩ := h
  intro hlt
  by_cases hpost : post = []
  · rw [hpost, List.append_nil] at hlt
    exact Position.lt_irrefl hlt
  · exact Position.lt_irrefl (Position.lt_trans hlt (extent_lt_append hpost))

/-- Of two beginnings of a text, the one that does not reach as far is the shorter one. -/
theorem prefix_of_extent_lt {pre' : Text} (h : pre <+: t) (h' : pre' <+: t)
    (hlt : extent pre < extent pre') : pre <+: pre' ∧ pre.length < pre'.length := by
  have hshorter : pre.length < pre'.length := by
    refine Nat.lt_of_not_le fun hle => ?_
    have hbegins : pre' <+: pre := List.prefix_of_prefix_length_le h' h hle
    exact not_extent_lt_of_prefix hbegins hlt
  exact ⟨List.prefix_of_prefix_length_le h h' (by omega), hshorter⟩

/-- Where a position is behind the first character, if resolving goes on behind it. It does not if
the position is at the start or its line is over. -/
def behind? (c : Char) (t : Text) : Position → Option Position
  | ⟨0, k⟩ =>
    if k = 0 ∨ c = '\n' ∨ c = '\r' ∧ firstLine t = [] then none
    else some ⟨0, k - utf16Width c⟩
  | ⟨n + 1, k⟩ => some (if c = '\n' then ⟨n, k⟩ else ⟨n + 1, k⟩)

theorem indexAt_cons (c : Char) (t : Text) (p : Position) :
    indexAt (c :: t) p = (behind? c t p).elim 0 (indexAt t · + 1) := by
  obtain ⟨line, k⟩ := p
  cases line with
  | zero =>
    rw [behind?]
    split
    · next hstop =>
      rcases hstop with rfl | hover
      · exact indexAt_start _
      · exact indexAt_cons_top hover
    · next hgo =>
      simp only [not_or] at hgo
      exact indexAt_cons_beside hgo.2.1 hgo.2.2 hgo.1
  | succ n =>
    by_cases hc : c = '\n'
    · subst hc
      exact indexAt_feed_cons
    · rw [behind?, if_neg hc]
      exact indexAt_cons_below hc

/-- What is not as far as a position behind the first character is not as far as it was before. -/
theorem add_lt_of_behind? (h : behind? c t p = some q) (hr : r < q) : extent [c] + r < p := by
  obtain ⟨line, k⟩ := p
  rw [extent_singleton]
  cases line with
  | zero =>
    rw [behind?] at h
    split at h
    · cases h
    · next hgo =>
      simp only [not_or] at hgo
      obtain rfl := Option.some.inj h
      simp only [if_neg hgo.2.1, Position.add_def, Position.lt_def] at hr ⊢
      split <;> omega
  | succ n =>
    obtain rfl := Option.some.inj h
    by_cases hc : c = '\n' <;>
      simp only [hc, if_true, if_false, Position.add_def, Position.lt_def] at hr ⊢ <;>
      split <;> omega

/-- Where resolving goes on for a position, it goes on for a later one, which stays the later. -/
theorem exists_behind?_of_not_lt (h : ¬ q < p) (hp : behind? c t p = some p') :
    ∃ q', behind? c t q = some q' ∧ ¬ q' < p' := by
  obtain ⟨line, k⟩ := p
  obtain ⟨line', k'⟩ := q
  simp only [Position.lt_def] at h
  cases line with
  | zero =>
    rw [behind?] at hp
    split at hp
    · cases hp
    · next hgo =>
      obtain ⟨hk, hover⟩ := not_or.mp hgo
      obtain rfl := Option.some.inj hp
      cases line' with
      | zero =>
        refine ⟨⟨0, k' - utf16Width c⟩, ?_, ?_⟩
        · rw [behind?, if_neg (not_or.mpr ⟨by omega, hover⟩)]
        · simp only [Position.lt_def]
          omega
      | succ n =>
        refine ⟨⟨n + 1, k'⟩, ?_, ?_⟩
        · rw [behind?, if_neg (not_or.mp hover).1]
        · simp only [Position.lt_def]
          omega
  | succ n =>
    obtain ⟨n', rfl⟩ : ∃ n', line' = n' + 1 := ⟨line' - 1, by omega⟩
    obtain rfl := Option.some.inj hp
    refine ⟨_, rfl, ?_⟩
    split <;> simp only [Position.lt_def] <;> omega

theorem indexAt_le_length (t : Text) (p : Position) : t.indexAt p ≤ t.length := by
  induction t generalizing p with
  | nil =>
    obtain ⟨line, character⟩ := p
    cases line <;> cases character <;> simp [indexAt, lineStart, firstLine, withoutReturn,
      columnIndex]
  | cons c t ih =>
    rw [indexAt_cons]
    cases behind? c t p with
    | none => exact Nat.zero_le _
    | some q => exact Nat.succ_le_succ (ih q)

/-- A later position resolves no nearer to the start. -/
theorem indexAt_mono (t : Text) (h : ¬ q < p) : t.indexAt p ≤ t.indexAt q := by
  induction t generalizing p q with
  | nil => exact Nat.le_trans (indexAt_le_length [] p) (Nat.zero_le _)
  | cons c t ih =>
    rw [indexAt_cons, indexAt_cons]
    cases hp : behind? c t p with
    | none => exact Nat.zero_le _
    | some p' =>
      obtain ⟨q', hq, hle⟩ := exists_behind?_of_not_lt h hp
      rw [hq]
      exact Nat.succ_le_succ (ih hle)

/-- A position that the first `k` characters reach is among them. -/
theorem indexAt_le_of_not_lt (h : ¬ extent (t.take k) < p) : t.indexAt p ≤ k := by
  induction t generalizing p k with
  | nil => exact Nat.le_trans (indexAt_le_length [] p) (Nat.zero_le k)
  | cons c t ih =>
    cases k with
    | zero =>
      obtain ⟨line, character⟩ := p
      simp only [List.take_zero, extent_nil, Position.lt_def] at h
      obtain ⟨rfl, rfl⟩ : line = 0 ∧ character = 0 := by omega
      exact Nat.le_of_eq (indexAt_start _)
    | succ k =>
      rw [List.take_succ_cons, extent_cons] at h
      rw [indexAt_cons]
      cases hp : behind? c t p with
      | none => exact Nat.zero_le _
      | some q =>
        have hle : indexAt t q ≤ k := ih fun hlt => h (add_lt_of_behind? hp hlt)
        exact Nat.succ_le_succ hle

/-- A position that the beginning of a text does not go past is behind it. -/
theorem le_indexAt_of_not_lt (h : ¬ p < extent pre) (hreturn : ¬ BehindReturn pre post) :
    pre.length ≤ indexAt (pre ++ post) p := by
  obtain ⟨d, rfl⟩ := Position.exists_add h
  rw [indexAt_append_add fun _ => hreturn]
  exact Nat.le_add_right ..

end Text

end Waymark
