import Waymark.Text.Position

/-! How far texts reach. The extent of a text is the position behind it; extents add up, and
resolving the extent of a text's beginning leads back to that beginning. -/

namespace Waymark

attribute [ext] Position

namespace Position
variable {p q r : Position} {c : Char} {t : Text}

/-- Goes on from `p` as far as `q` is from the start: columns add up within a line only. -/
instance : Add Position :=
  ⟨fun p q => ⟨p.line + q.line, if q.line = 0 then p.character + q.character else q.character⟩⟩

/-- Positions are read line first. -/
instance : LT Position :=
  ⟨fun p q => p.line < q.line ∨ p.line = q.line ∧ p.character < q.character⟩

theorem add_def : p + q =
    ⟨p.line + q.line, if q.line = 0 then p.character + q.character else q.character⟩ := rfl

theorem lt_def : p < q ↔ p.line < q.line ∨ p.line = q.line ∧ p.character < q.character := .rfl

theorem le_iff : p.le q = true ↔ ¬ q < p := by
  simp only [Position.le, Bool.or_eq_true, Bool.and_eq_true, decide_eq_true_eq, beq_iff_eq, lt_def]
  omega

@[simp] theorem add_line : (p + q).line = p.line + q.line := rfl

@[simp] theorem add_start : p + ⟨0, 0⟩ = p := rfl

@[simp] theorem start_add : ⟨0, 0⟩ + p = p := by
  simp [add_def]

theorem add_assoc : p + q + r = p + (q + r) := by
  simp only [add_def, Position.mk.injEq]
  refine ⟨Nat.add_assoc .., ?_⟩
  by_cases hr : r.line = 0
  · by_cases hq : q.line = 0 <;> simp [hr, hq, Nat.add_assoc]
  · simp [hr]

theorem lt_irrefl : ¬ p < p := by
  simp [lt_def]

theorem lt_trans (h : p < q) (h' : q < r) : p < r := by
  simp only [lt_def] at *
  omega

theorem ne_of_lt (h : p < q) : p ≠ q := by
  rintro rfl
  exact lt_irrefl h

theorem lt_add (h : q ≠ ⟨0, 0⟩) : p < p + q := by
  by_cases hq : q.line = 0
  · have hc : q.character ≠ 0 := fun hc => h (by cases q; simp_all)
    simp only [lt_def, add_def, hq, if_true]
    omega
  · simp only [lt_def, add_line]
    omega

theorem after_eq_add : p.after c = p + after ⟨0, 0⟩ c := by
  by_cases hc : c = '\n' <;> simp [after, add_def, hc]

end Position

namespace Text
variable {c : Char} {t u pre post : Text} {p : Position} {k n : Nat}

/-- The position behind a text that starts at the start. -/
def extent (t : Text) : Position := Position.advance ⟨0, 0⟩ t

/-- How many UTF-16 units a text takes. -/
def utf16Length : Text → Nat
  | [] => 0
  | c :: t => utf16Width c + utf16Length t

@[simp] theorem extent_nil : extent [] = ⟨0, 0⟩ := rfl

theorem extent_singleton : extent [c] = if c = '\n' then ⟨1, 0⟩ else ⟨0, utf16Width c⟩ := by
  by_cases hc : c = '\n' <;> simp [extent, Position.after, hc]

theorem advance_eq_add (p : Position) : p.advance t = p + extent t := by
  induction t generalizing p with
  | nil => simp
  | cons c t ih =>
    calc p.advance (c :: t) = p.after c + extent t := by rw [Position.advance_cons, ih]
      _ = p + (Position.after ⟨0, 0⟩ c + extent t) := by
        rw [Position.after_eq_add, Position.add_assoc]
      _ = p + extent (c :: t) := by rw [← ih, extent, Position.advance_cons]

theorem extent_cons : extent (c :: t) = extent [c] + extent t := by
  rw [extent, Position.advance_cons, advance_eq_add]
  rfl

theorem extent_append : extent (t ++ u) = extent t + extent u := by
  rw [extent, Position.advance, List.foldl_append]
  exact advance_eq_add _

theorem extent_concat : extent (t ++ [c]) = (extent t).after c := by
  rw [extent_append, Position.after_eq_add]
  rfl

theorem extent_ne_start (h : t ≠ []) : extent t ≠ ⟨0, 0⟩ := by
  cases t with
  | nil => exact absurd rfl h
  | cons c t =>
    have hw : utf16Width c ≠ 0 := Nat.ne_of_gt utf16Width_pos
    rw [extent_cons, extent_singleton]
    by_cases hc : c = '\n'
    · simp [hc, Position.add_def]
    · by_cases hl : (extent t).line = 0 <;> simp [hc, hl, hw, Position.add_def]

theorem extent_lt_append (h : u ≠ []) : extent t < extent (t ++ u) := by
  rw [extent_append]
  exact Position.lt_add (extent_ne_start h)

/-- Without line feeds, a text reaches as far along the line as it is wide. -/
theorem extent_of_noFeed (h : '\n' ∉ t) : extent t = ⟨0, utf16Length t⟩ := by
  induction t with
  | nil => rfl
  | cons c t ih =>
    simp only [List.mem_cons, not_or] at h
    rw [extent_cons, extent_singleton, if_neg (Ne.symm h.1), ih h.2]
    simp [Position.add_def, utf16Length]

/-- The place between `pre` and `post` is behind a return that ends its line. Editors count such a
return to the end of the line, so that they have no name for the place. -/
def BehindReturn (pre post : Text) : Prop :=
  pre.getLast? = some '\r' ∧ (post = [] ∨ post.head? = some '\n')

theorem indexAt_top : t.indexAt ⟨0, k⟩ = columnIndex k (withoutReturn (firstLine t)) := by
  simp [indexAt, lineStart]

theorem indexAt_feed_cons : indexAt ('\n' :: t) ⟨n + 1, k⟩ = indexAt t ⟨n, k⟩ + 1 := by
  simp only [indexAt, lineStart, if_true]
  cases lineStart n t with
  | none => simp
  | some m => simp [Nat.add_right_comm]

theorem indexAt_cons_below (h : c ≠ '\n') :
    indexAt (c :: t) ⟨n + 1, k⟩ = indexAt t ⟨n + 1, k⟩ + 1 := by
  simp only [indexAt, lineStart, if_neg h]
  cases lineStart (n + 1) t with
  | none => simp
  | some m => simp [Nat.add_right_comm]

theorem withoutReturn_cons (h : ¬ (c = '\r' ∧ t = [])) :
    withoutReturn (c :: t) = c :: withoutReturn t := by
  cases t with
  | nil =>
    have hc : c ≠ '\r' := fun hc => h ⟨hc, rfl⟩
    simp [withoutReturn, hc]
  | cons d t => simp [withoutReturn]

theorem firstLine_eq_nil_iff : firstLine t = [] ↔ t = [] ∨ t.head? = some '\n' := by
  cases t with
  | nil => simp [firstLine]
  | cons c t => by_cases hc : c = '\n' <;> simp [firstLine, hc]

/-- On its first line, a text goes on behind a beginning of it. -/
theorem firstLine_append_ne_nil (h : pre ≠ []) (hline : (extent pre).line = 0) :
    firstLine (pre ++ post) ≠ [] := by
  intro hfirst
  cases pre with
  | nil => exact h rfl
  | cons c pre =>
    have hc : c = '\n' := by simpa using firstLine_eq_nil_iff.mp hfirst
    subst hc
    simp [extent_cons (t := pre), extent_singleton] at hline

/-- On a line that is over at its first character, every column falls on the start. -/
theorem indexAt_cons_top (h : c = '\n' ∨ c = '\r' ∧ firstLine t = []) :
    indexAt (c :: t) ⟨0, k⟩ = 0 := by
  have hline : withoutReturn (firstLine (c :: t)) = [] := by
    rcases h with rfl | ⟨rfl, hfirst⟩
    · rfl
    · have hreturn : firstLine ('\r' :: t) = '\r' :: firstLine t := rfl
      rw [hreturn, hfirst]
      rfl
  rw [indexAt_top, hline]
  cases k <;> rfl

/-- Along a line, resolving goes on behind a character before the column. -/
theorem indexAt_cons_beside (hc : c ≠ '\n') (hr : ¬ (c = '\r' ∧ firstLine t = [])) (hk : k ≠ 0) :
    indexAt (c :: t) ⟨0, k⟩ = indexAt t ⟨0, k - utf16Width c⟩ + 1 := by
  have hf : firstLine (c :: t) = c :: firstLine t := by simp [firstLine, hc]
  obtain ⟨k, rfl⟩ := Nat.exists_eq_succ_of_ne_zero hk
  rw [indexAt_top, indexAt_top, hf, withoutReturn_cons hr, columnIndex]

/-- Resolving goes through a text from the front, past one character at a time. -/
theorem indexAt_cons_add (h : c = '\r' → p.line = 0 → firstLine t ≠ []) :
    indexAt (c :: t) (extent [c] + p) = indexAt t p + 1 := by
  obtain ⟨line, character⟩ := p
  rw [extent_singleton]
  by_cases hc : c = '\n'
  · subst hc
    simp only [if_true, Position.add_def]
    cases line with
    | zero => simpa using indexAt_feed_cons
    | succ n => simpa [Nat.add_comm 1] using indexAt_feed_cons
  · simp only [if_neg hc, Position.add_def, Nat.zero_add]
    cases line with
    | zero =>
      have hw : 0 < utf16Width c := utf16Width_pos
      have hr : ¬ (c = '\r' ∧ firstLine t = []) := fun hr => h hr.1 rfl hr.2
      rw [if_pos rfl, indexAt_cons_beside hc hr (by omega), Nat.add_sub_cancel_left]
    | succ n => simpa using indexAt_cons_below hc

theorem indexAt_start (t : Text) : t.indexAt ⟨0, 0⟩ = 0 := by
  rw [indexAt_top, columnIndex]

/-- Resolving goes through the beginning of a text and on behind it. -/
theorem indexAt_append_add (h : p.line = 0 → ¬ BehindReturn pre post) :
    indexAt (pre ++ post) (extent pre + p) = pre.length + indexAt post p := by
  induction pre with
  | nil => simp
  | cons c pre ih =>
    have htail : p.line = 0 → ¬ BehindReturn pre post := by
      intro hline ht
      apply h hline
      cases pre with
      | nil => simp [BehindReturn] at ht
      | cons d pre => simpa [BehindReturn] using ht
    rw [List.cons_append, extent_cons, Position.add_assoc, indexAt_cons_add, ih htail,
      List.length_cons]
    · omega
    · rintro rfl hline hfirst
      have hextent : (extent pre).line = 0 ∧ p.line = 0 := by
        rw [Position.add_line] at hline
        omega
      by_cases hpre : pre = []
      · subst hpre
        exact h hextent.2 ⟨rfl, by simpa using firstLine_eq_nil_iff.mp hfirst⟩
      · exact firstLine_append_ne_nil hpre hextent.1 hfirst

/-- Resolving the position behind the beginning of a text leads back there. -/
theorem indexAt_extent (h : ¬ BehindReturn pre post) :
    indexAt (pre ++ post) (extent pre) = pre.length := by
  have happend := indexAt_append_add (p := ⟨0, 0⟩) fun _ => h
  rwa [Position.add_start, indexAt_start, Nat.add_zero] at happend

/-- Resolving the position behind a return that ends its line leads before the return. -/
theorem indexAt_extent_lt (h : BehindReturn pre post) :
    indexAt (pre ++ post) (extent pre) < pre.length := by
  induction pre with
  | nil => simp [BehindReturn] at h
  | cons c pre ih =>
    cases pre with
    | nil =>
      obtain ⟨hlast, hpost⟩ := h
      obtain rfl : c = '\r' := by simpa using hlast
      rw [extent_singleton, if_neg (by decide), List.singleton_append,
        indexAt_cons_top (.inr ⟨rfl, firstLine_eq_nil_iff.mpr hpost⟩)]
      exact Nat.zero_lt_one
    | cons d pre =>
      have htail : BehindReturn (d :: pre) post := by simpa [BehindReturn] using h
      rw [List.cons_append, extent_cons, indexAt_cons_add, List.length_cons]
      · exact Nat.succ_lt_succ (ih htail)
      · exact fun _ hline => firstLine_append_ne_nil (by simp) hline

end Text

end Waymark
