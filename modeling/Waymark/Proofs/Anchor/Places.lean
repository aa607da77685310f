import Mathlib.Data.List.Induction
import Waymark.Proofs.Anchor.Runs
import Waymark.Proofs.Text.Resolving

/-! Where a place of a text has come to be once there are anchors in the text. Positions do not
count the anchors, and so they fall short by as many columns as anchors are before the place on its
line. -/

namespace Waymark

namespace Text
variable {t : Text}

/-- What follows on the text begins a line. -/
def EndsLine (t : Text) : Prop := ∀ c ∈ t.getLast?, c = '\n'

theorem endsLine_concat (t : Text) : EndsLine (t ++ ['\n']) := by
  intro c hc
  rw [List.getLast?_concat] at hc
  exact (Option.some.inj hc).symm

theorem exists_concat_of_endsLine (h : EndsLine t) (hne : t ≠ []) : ∃ init, t = init ++ ['\n'] := by
  rcases List.eq_nil_or_concat t with hnil | ⟨init, c, rfl⟩
  · exact absurd hnil hne
  · obtain rfl := h c (by simp)
    exact ⟨init, by simp⟩

/-- A text is some whole lines and the beginning of one more. -/
theorem exists_endsLine (t : Text) :
    ∃ head line, t = head ++ line ∧ EndsLine head ∧ '\n' ∉ line := by
  induction t using List.reverseRecOn with
  | nil => exact ⟨[], [], rfl, by simp [EndsLine], by simp⟩
  | append_singleton t c ih =>
    by_cases hc : c = '\n'
    · subst hc
      exact ⟨t ++ ['\n'], [], by simp, endsLine_concat t, by simp⟩
    · obtain ⟨head, line, rfl, hhead, hline⟩ := ih
      refine ⟨head, line ++ [c], by simp, hhead, ?_⟩
      simp [hline, Ne.symm hc]

theorem not_behindReturn_of_endsLine (h : EndsLine t) (post : Text) : ¬ BehindReturn t post := by
  rintro ⟨hlast, -⟩
  exact absurd (h '\r' hlast) (by decide)

end Text

namespace Anchor
open Text
variable {s t pre post head line A R : Text} {p : Position}

theorem line_extent_strip (t : Text) : (extent (strip t)).line = (extent t).line := by
  induction t with
  | nil => rfl
  | cons c t ih =>
    by_cases hc : isGlyph c
    · have hline : (extent [c]).line = 0 := by
        rw [extent_singleton, if_neg (ne_feed_of_isGlyph hc)]
      rw [strip_cons_of_isGlyph hc, extent_cons, Position.add_line, hline, ih, Nat.zero_add]
    · rw [strip_cons_of_not hc, extent_cons, extent_cons (t := t), Position.add_line,
        Position.add_line, ih]

/-- Anchors take room. -/
theorem not_extent_lt_strip (t : Text) : ¬ extent t < extent (strip t) := by
  have hle : (extent (strip t)).character ≤ (extent t).character := by
    induction t using List.reverseRecOn with
    | nil => exact Nat.le_refl _
    | append_singleton t c ih =>
      by_cases hc : isGlyph c
      · rw [strip_append, strip_cons_of_isGlyph hc, extent_concat, Position.after,
          if_neg (ne_feed_of_isGlyph hc)]
        simp only [strip, List.filter_nil, List.append_nil]
        exact Nat.le_add_right_of_le ih
      · rw [strip_append, strip_cons_of_not hc, extent_concat]
        simp only [strip, List.filter_nil]
        rw [extent_concat, Position.after, Position.after]
        split
        · exact Nat.le_refl _
        · exact Nat.add_le_add_right ih _
  have hline := line_extent_strip t
  rw [Position.lt_def]
  omega

theorem extent_of_endsLine (h : EndsLine t) : extent t = ⟨(extent (strip t)).line, 0⟩ := by
  rw [line_extent_strip]
  by_cases hne : t = []
  · rw [hne]
    rfl
  · obtain ⟨init, rfl⟩ := exists_concat_of_endsLine h hne
    rw [extent_concat]
    rfl

theorem behindReturn_strip (h : BehindReturn pre post) : BehindReturn (strip pre) (strip post) := by
  obtain ⟨hlast, hpost⟩ := h
  constructor
  · obtain ⟨init, rfl⟩ := List.getLast?_eq_some_iff.mp hlast
    rw [strip_append, strip_cons_of_not (by decide)]
    simp [strip]
  · rcases hpost with rfl | hhead
    · exact .inl rfl
    · obtain ⟨rest, rfl⟩ := List.head?_eq_some_iff.mp hhead
      right
      rw [strip_cons_of_not (by decide), List.head?_cons]

theorem utf16Length_concat (t : Text) (c : Char) :
    utf16Length (t ++ [c]) = utf16Length t + utf16Width c := by
  induction t with
  | nil => exact Nat.add_comm ..
  | cons d t ih =>
    rw [List.cons_append, utf16Length, ih, utf16Length, Nat.add_assoc]

theorem utf16Length_eq_add_count (t : Text) :
    utf16Length t = utf16Length (strip t) + count t := by
  induction t with
  | nil => rfl
  | cons c t ih =>
    by_cases hc : isGlyph c
    · have hwidth : utf16Width c = 1 := by
        rcases Bool.or_eq_true _ _ |>.mp hc with h | h <;>
          rw [eq_of_beq h] <;> decide
      rw [strip_cons_of_isGlyph hc, utf16Length, ih, hwidth, count, count, List.countP_cons,
        if_pos hc]
      omega
    · rw [strip_cons_of_not hc, utf16Length, utf16Length, ih, count, count, List.countP_cons,
        if_neg hc]
      omega

/-- Of two beginnings of a text, the one with more in it besides anchors is the longer one. -/
theorem length_lt_of_strip {pre' : Text} (h : pre <+: t) (h' : pre' <+: t)
    (hlt : (strip pre).length < (strip pre').length) : pre.length < pre'.length := by
  refine Nat.lt_of_not_le fun hle => ?_
  obtain ⟨rest, rfl⟩ := List.prefix_of_prefix_length_le h' h hle
  rw [strip_append, List.length_append] at hlt
  omega

/-- The place of a position in a text: some whole lines, the line as far as the place, and what is
behind it. -/
structure IsPlace (s : Text) (p : Position) (head line post : Text) : Prop where
  text : s = head ++ line ++ post
  whole : EndsLine head
  feedless : '\n' ∉ line
  reaches : extent (head ++ line) = p
  nameable : ¬ BehindReturn (head ++ line) post

theorem exists_isPlace (h : p.IsIn s) : ∃ head line post, IsPlace s p head line post := by
  obtain ⟨pre, post, htext, hextent, hreturn⟩ := exists_prefix_of_isIn h
  obtain ⟨head, line, rfl, hhead, hline⟩ := exists_endsLine pre
  exact ⟨head, line, post, htext, hhead, hline, hextent, hreturn⟩

/-- In a text with anchors, the position behind a beginning of the text without them resolves to no
more of it than holds that beginning. -/
theorem indexAt_le_of_prefix (h : pre <+: strip A) (B : Text) :
    indexAt (A ++ B) (extent pre) ≤ A.length := by
  refine indexAt_le_of_not_lt ?_
  rw [List.take_left]
  intro hlt
  obtain ⟨rest, hrest⟩ := h
  by_cases hnil : rest = []
  · rw [hnil, List.append_nil] at hrest
    exact not_extent_lt_strip A (hrest ▸ hlt)
  · have hlonger := Position.lt_trans hlt (extent_lt_append hnil)
    exact not_extent_lt_strip A (hrest ▸ hlonger)

namespace IsPlace
variable (h : IsPlace s p head line post)
include h

/-- The column of a place is the width of its line before it. -/
theorem position_eq : p = ⟨(extent head).line, utf16Length line⟩ := by
  rw [← h.reaches, extent_append, extent_of_noFeed h.feedless, extent_of_endsLine h.whole]
  simp [Position.add_def, line_extent_strip]

/-- In a text without anchors, none are around the place. -/
theorem strip_eq (hfree : ∀ c ∈ s, ¬ isGlyph c) :
    strip head = head ∧ strip line = line ∧ strip post = post := by
  have hwhole : ∀ c ∈ head ++ line ++ post, ¬ isGlyph c := by rwa [← h.text]
  refine ⟨strip_eq_self ?_, strip_eq_self ?_, strip_eq_self ?_⟩ <;> intro c hc
  · exact hwhole c (by simp [hc])
  · exact hwhole c (by simp [hc])
  · exact hwhole c (by simp [hc])

theorem indexAt_eq : s.indexAt p = (head ++ line).length := by
  rw [h.text, ← h.reaches, indexAt_extent h.nameable]

theorem extent_eq (hA : EndsLine A) (hhead : strip A = head) : extent A = ⟨p.line, 0⟩ := by
  rw [extent_of_endsLine hA, hhead, h.position_eq]

/-- The anchors of the lines before go in before the line of the place. -/
theorem indexAt_lt {q : Position} (hq : q.IsIn s) (hline : q.line < p.line) (hA : EndsLine A)
    (hhead : strip A = head) (B : Text) : indexAt (A ++ B) q < A.length := by
  obtain ⟨pre, rest, hpre, rfl, -⟩ := exists_prefix_of_isIn hq
  have hlt : extent pre < extent head := by
    rw [h.position_eq] at hline
    exact .inl hline
  obtain ⟨hbegins, hshorter⟩ := prefix_of_extent_lt ⟨rest, hpre.symm⟩
    ⟨line ++ post, by rw [h.text, List.append_assoc]⟩ hlt
  have hne : A ≠ [] := by
    rintro rfl
    rw [← hhead] at hshorter
    simp [strip] at hshorter
  obtain ⟨init, rfl⟩ := exists_concat_of_endsLine hA hne
  have hinit : pre <+: strip init := by
    have hlast : strip (init ++ ['\n']) = strip init ++ ['\n'] := by
      rw [strip_append, strip_cons_of_not (by decide)]
      rfl
    rw [← hhead, hlast] at hbegins hshorter
    refine List.prefix_of_prefix_length_le hbegins (List.prefix_append ..) ?_
    rw [List.length_append, List.length_singleton] at hshorter
    omega
  have hle := indexAt_le_of_prefix hinit ('\n' :: B)
  rw [List.append_assoc, List.singleton_append, List.length_append, List.length_singleton]
  omega

/-- While no anchors are before it on its line, a place keeps its position. -/
theorem extent_append_line (hA : EndsLine A) (hhead : strip A = head) :
    extent (A ++ line) = p := by
  rw [extent_append, h.extent_eq hA hhead, extent_of_noFeed h.feedless, h.position_eq]
  simp [Position.add_def]

theorem not_behindReturn (hfree : strip line = line) (hhead : strip A = head)
    (hR : strip R = post) : ¬ BehindReturn (A ++ line) R := by
  intro hreturn
  have hstripped := behindReturn_strip hreturn
  rw [strip_append, hhead, hR, hfree] at hstripped
  exact h.nameable hstripped

end IsPlace

end Anchor

end Waymark
