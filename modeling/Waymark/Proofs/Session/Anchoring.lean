import Waymark.Proofs.Anchor.Attempt
import Waymark.Proofs.Anchor.Insertion
import Waymark.Session.Pinning

/-! A session's calls to its anchors, in an editor that may refuse an edit, fail at it or fail to
save at any time. Text, board and guard stay in step with each other through all of it. -/

namespace Waymark

namespace Anchor
variable {ε : Type} [Editor ε] {op : Operation} {guard : Guard} {board : Board} {e : ε}

/-- An operation at the anchors, once the guard has let it in. -/
def carryOut (op : Operation) (board : Board) (e : ε) : Attempt ε :=
  match op with
  | .add => insert board e
  | .remove => delete board e

theorem attempt_of_idle : attempt op .idle board e = (.idle, carryOut op board e) := by
  cases op <;> rfl

theorem attempt_of_isBusy (h : guard.isBusy = true) :
    attempt op guard board e = (guard, ⟨.ok .busy, board, e⟩) := by
  simp [attempt, Guard.begin?, h]

end Anchor

/-- A call that a session makes about its anchors. -/
inductive Session.Call
  | addMarkers
  | removeMarkers
  | showStates
deriving DecidableEq, Repr

namespace Session
variable {ε : Type} [Editor ε] {op : Anchor.Operation} {s : Session} {e : ε}

/-- Makes one call. -/
def perform (s : Session) (e : ε) : Call → Attempt ε
  | .addMarkers => s.addMarkers e
  | .removeMarkers => s.removeMarkers e
  | .showStates => s.showStates e

/-- Makes calls one after the other. -/
def performAll (s : Session) (e : ε) : List Call → Session × ε
  | [] => (s, e)
  | c :: calls => performAll (s.perform e c).session (s.perform e c).editor calls

theorem attempt_of_idle (own : Editor.uri e = s.uri) (idle : s.guard = .idle) : s.attempt op e =
    ⟨(Anchor.carryOut op s.board e).outcome,
      { s with board := (Anchor.carryOut op s.board e).board },
      (Anchor.carryOut op s.board e).editor⟩ := by
  obtain ⟨uri, board, selection, ids, guard, heaps, info, shown⟩ := s
  obtain rfl : guard = .idle := idle
  simp only [attempt, own, if_true, Anchor.attempt_of_idle]

theorem attempt_of_isBusy (op : Anchor.Operation) (own : Editor.uri e = s.uri)
    (busy : s.guard.isBusy = true) :
    s.attempt op e = ⟨.ok .busy, s, e⟩ := by
  simp only [attempt, own, if_true, Anchor.attempt_of_isBusy busy]

/-- Whoever holds the guard keeps every call away from the text and the board. -/
theorem perform_of_isBusy (own : Editor.uri e = s.uri) (busy : s.guard.isBusy = true)
    (c : Call) : s.perform e c = ⟨.ok .busy, s, e⟩ := by
  have hattempt := fun op => attempt_of_isBusy op own busy
  cases c with
  | addMarkers => exact hattempt .add
  | removeMarkers => exact hattempt .remove
  | showStates => simp only [perform, showStates, removeMarkers, hattempt]

end Session

/-- An editor whose answers to edits are noted down, the latest first. -/
structure Watched (ε : Type) where
  editor : ε
  answers : List (Except Error Bool)

namespace Watched
variable {ε : Type} [Editor ε] {op : Anchor.Operation} {batch : EditBatch} {board : Board}

instance : Editor (Watched ε) where
  uri w := Editor.uri w.editor
  text w := Editor.text w.editor
  apply w batch :=
    let (answer, editor) := Editor.apply w.editor batch
    (answer, ⟨editor, answer :: w.answers⟩)
  save w :=
    let (answer, editor) := Editor.save w.editor
    (answer, { w with editor })

instance [LawfulEditor ε] : LawfulEditor (Watched ε) where
  uri_apply w := LawfulEditor.uri_apply w.editor
  uri_save w := LawfulEditor.uri_save w.editor
  text_save w := LawfulEditor.text_save w.editor
  text_apply w := LawfulEditor.text_apply w.editor
  text_apply_of_ne w := LawfulEditor.text_apply_of_ne w.editor

theorem answers_edit (w : Watched ε) : (Anchor.edit op batch board w).editor.answers =
    (Editor.apply w batch).1 :: w.answers := by
  by_cases h : (Editor.apply w batch).1 = .ok true
  · rw [(Anchor.edit_of_applied op board h).2.1]
    rfl
  · rw [(Anchor.edit_of_ne op board h).2.1]
    rfl

end Watched

/-- What becomes of one thing that an editor is asked for. -/
inductive Mood
  | willing
  | unwilling
  | failing (error : Error)

/-- A document that meets each thing it is asked for in the next of its moods. -/
structure MoodyDocument where
  document : TextDocument
  moods : List Mood

namespace MoodyDocument

instance : Editor MoodyDocument where
  uri d := d.document.uri
  text d := d.document.text
  apply d batch :=
    match d.moods with
    | .unwilling :: moods => (.ok false, { d with moods })
    | .failing error :: moods => (.error error, { d with moods })
    | moods => ((d.document.apply batch).1, ⟨(d.document.apply batch).2, moods.tail⟩)
  save d :=
    match d.moods with
    | .failing error :: moods => (.error error, { d with moods })
    | moods => (.ok (), { d with moods := moods.tail })

instance : LawfulEditor MoodyDocument where
  uri_apply d batch := by
    simp only [Editor.apply, Editor.uri]
    split
    · rfl
    · rfl
    · exact TextDocument.uri_apply
  uri_save d := by
    simp only [Editor.save, Editor.uri]
    split <;> rfl
  text_save d := by
    simp only [Editor.save, Editor.text]
    split <;> rfl
  text_apply d batch := by
    simp only [Editor.apply, Editor.text]
    split
    · simp
    · simp
    · exact TextDocument.text_apply
  text_apply_of_ne d batch := by
    simp only [Editor.apply, Editor.text]
    split
    · simp
    · simp
    · exact TextDocument.text_apply_of_ne

end MoodyDocument

namespace Session
variable {ε : Type} [Editor ε] {op : Anchor.Operation} {batch : EditBatch} {original : Text}
  {s s' s'' : Session} {w w' w'' : Watched ε} {given given' : List (Except Error Bool)}

/-- What holds between calls: only anchors have come into the text, and the board and the guard
say of them what is the case. -/
structure Kept (original : Text) (s : Session) (w : Watched ε) : Prop where
  text : Anchor.strip (Editor.text w) = original
  anchored : s.board.anchored = true ↔ ∃ c ∈ Editor.text w, Anchor.isGlyph c
  idle : s.guard = .idle
  own : Editor.uri w = s.uri

/-- What a call may do, `given` being what the editor answered to the edits of the call. -/
structure Effect (original : Text) (s : Session) (w : Watched ε)
    (given : List (Except Error Bool)) (s' : Session) (w' : Watched ε) : Prop where
  kept : Kept original s' w'
  answers : w'.answers = given ++ w.answers
  unmoved : (∀ a ∈ given, a ≠ .ok true) →
    Editor.text w' = Editor.text w ∧ s'.board = s.board

theorem Effect.refl (h : Kept original s w) : Effect original s w [] s w where
  kept := h
  answers := rfl
  unmoved _ := ⟨rfl, rfl⟩

theorem Effect.trans (h : Effect original s w given s' w')
    (h' : Effect original s' w' given' s'' w'') :
    Effect original s w (given' ++ given) s'' w'' where
  kept := h'.kept
  answers := by rw [h'.answers, h.answers, List.append_assoc]
  unmoved := by
    intro hgiven
    have hfirst := h.unmoved fun a ha => hgiven a (List.mem_append_right _ ha)
    have hsecond := h'.unmoved fun a ha => hgiven a (List.mem_append_left _ ha)
    exact ⟨hsecond.1.trans hfirst.1, hsecond.2.trans hfirst.2⟩

theorem Effect.show (h : Effect original s w given s' w') :
    Effect original s w given { s' with shown := true } w' where
  kept := ⟨h.kept.text, h.kept.anchored, h.kept.idle, h.kept.own⟩
  answers := h.answers
  unmoved := h.unmoved

variable [LawfulEditor ε]

/-- A batch does what it does if it is made, and nothing if it is not. -/
theorem effect_edit (h : Kept original s w)
    (made : (Editor.apply w batch).1 = .ok true →
      Anchor.strip (Editor.text (Anchor.edit op batch s.board w).editor) = original ∧
      (op = .add ↔ ∃ c ∈ Editor.text (Anchor.edit op batch s.board w).editor,
        Anchor.isGlyph c)) :
    Effect original s w [(Editor.apply w batch).1]
      { s with board := (Anchor.edit op batch s.board w).board }
      (Anchor.edit op batch s.board w).editor := by
  have hown : Editor.uri (Anchor.edit op batch s.board w).editor = s.uri :=
    Anchor.uri_edit.trans h.own
  by_cases haccept : (Editor.apply w batch).1 = .ok true
  · obtain ⟨htext, hglyph⟩ := made haccept
    refine ⟨⟨htext, ?_, h.idle, hown⟩, Watched.answers_edit w, ?_⟩
    · rw [← hglyph, (Anchor.edit_of_applied op s.board haccept).1, Board.anchored_setAnchored,
        decide_eq_true_iff]
    · intro hrefused
      exact absurd haccept (hrefused _ (by simp))
  · have htext := Anchor.text_edit_of_ne op s.board haccept
    have hboard := (Anchor.edit_of_ne op s.board haccept).1
    refine ⟨⟨?_, ?_, h.idle, hown⟩, Watched.answers_edit w, fun _ => ⟨htext, hboard⟩⟩
    · rw [htext, h.text]
    · rw [htext, ← h.anchored, hboard]

theorem effect_insert (h : Kept original s w) : ∃ given,
    Effect original s w given { s with board := (Anchor.insert s.board w).board }
      (Anchor.insert s.board w).editor := by
  by_cases hempty : s.board.isEmpty
  · rw [Anchor.insert_of_isEmpty hempty]
    exact ⟨[], .refl h⟩
  · have hboard : s.board.isEmpty = false := by simpa using hempty
    rw [Anchor.insert_of_not_isEmpty hboard]
    refine ⟨_, effect_edit h ?_⟩
    intro haccept
    have hresult := Anchor.text_edit_of_applied .add s.board haccept
    refine ⟨(Anchor.strip_of_insertions hresult).trans h.text, ?_⟩
    have hmem := Anchor.glyph_mem_of_insertions hresult hboard
    exact ⟨fun _ => ⟨_, hmem, by decide⟩, fun _ => rfl⟩

/-- Unless its edit is refused or fails, a removal leaves the text as it was at first. -/
theorem effect_delete (h : Kept original s w) : ∃ given,
    Effect original s w given { s with board := (Anchor.delete s.board w).board }
      (Anchor.delete s.board w).editor ∧
    ((∀ a ∈ given, a = .ok true) → Editor.text (Anchor.delete s.board w).editor = original) := by
  by_cases hruns : Anchor.runs (Editor.text w) = []
  · have hfree := Anchor.runs_eq_nil_iff.mp hruns
    have hanchored : s.board.anchored = false := by
      rw [Bool.eq_false_iff, Ne, h.anchored]
      rintro ⟨c, hc, hglyph⟩
      exact hfree c hc hglyph
    rw [Anchor.delete_of_runs_eq_nil hruns]
    simp only [Board.setAnchored_eq_self hanchored]
    exact ⟨[], .refl h, fun _ => (Anchor.strip_eq_self hfree).symm.trans h.text⟩
  · rw [Anchor.delete_of_runs_ne_nil hruns]
    have htext := Anchor.text_edit_deletions .remove s.board (Editor.uri w) w
    refine ⟨_, effect_edit h ?_, ?_⟩
    · intro haccept
      rw [htext haccept, Anchor.strip_strip]
      refine ⟨h.text, by simp, ?_⟩
      rintro ⟨c, hc, hglyph⟩
      exact absurd hglyph (Anchor.not_isGlyph_of_mem_strip hc)
    · intro haccept
      rw [htext (haccept _ (by simp)), h.text]

theorem effect_addMarkers (h : Kept original s w) : ∃ given,
    Effect original s w given (s.addMarkers w).session (s.addMarkers w).editor := by
  rw [addMarkers, attempt_of_idle h.own h.idle]
  exact effect_insert h

theorem effect_removeMarkers (h : Kept original s w) : ∃ given,
    Effect original s w given (s.removeMarkers w).session (s.removeMarkers w).editor ∧
    ((∀ a ∈ given, a = .ok true) → Editor.text (s.removeMarkers w).editor = original) := by
  rw [removeMarkers, attempt_of_idle h.own h.idle]
  exact effect_delete h

/-- Showing the states is a removal, and an addition unless the removal failed. -/
theorem effect_showStates (h : Kept original s w) : ∃ given,
    Effect original s w given (s.showStates w).session (s.showStates w).editor := by
  obtain ⟨given, hremove, -⟩ := effect_removeMarkers h
  unfold showStates
  split
  · next heq => exact ⟨given, by simpa [heq] using hremove⟩
  · next heq => exact ⟨given, by simpa [heq] using hremove⟩
  · next outcome t x _ heq =>
    simp only [heq] at hremove
    obtain ⟨given', hadd⟩ := effect_addMarkers hremove.kept
    split
    · next heq' =>
      simp only [heq'] at hadd
      exact ⟨given' ++ given, hremove.trans hadd⟩
    · next heq' =>
      simp only [heq'] at hadd
      exact ⟨given' ++ given, (hremove.trans hadd).show⟩

theorem effect_perform (h : Kept original s w) (c : Call) : ∃ given,
    Effect original s w given (s.perform w c).session (s.perform w c).editor ∧
    (c = .removeMarkers → (∀ a ∈ given, a = .ok true) →
      Editor.text (s.perform w c).editor = original) := by
  cases c with
  | addMarkers =>
    obtain ⟨given, heffect⟩ := effect_addMarkers h
    exact ⟨given, heffect, by simp⟩
  | removeMarkers =>
    obtain ⟨given, heffect, htext⟩ := effect_removeMarkers h
    exact ⟨given, heffect, fun _ => htext⟩
  | showStates =>
    obtain ⟨given, heffect⟩ := effect_showStates h
    exact ⟨given, heffect, by simp⟩

theorem kept_performAll (h : Kept original s w) (calls : List Call) :
    Kept original (s.performAll w calls).1 (s.performAll w calls).2 := by
  induction calls generalizing s w with
  | nil => exact h
  | cons c calls ih =>
    obtain ⟨given, heffect, -⟩ := effect_perform h c
    exact ih heffect.kept

/-- After any calls, whatever became of their edits and of saving: the text is the one from the
start with anchors in it at most, the board knows whether it has any, and the guard is free. A call
whose edits were all turned down changed nothing, and a removal whose edit was not turned down has
brought the first text back. While somebody else holds the guard, a call does nothing at all. -/
theorem calls_keep_text (s : Session) (w : Watched ε)
    (glyphFree : ∀ c ∈ Editor.text w, ¬ Anchor.isGlyph c) (unanchored : s.board.anchored = false)
    (idle : s.guard = .idle) (own : Editor.uri w = s.uri) (calls : List Call) (c : Call) :
    let before := s.performAll w calls
    let after := before.1.perform before.2 c
    Anchor.strip (Editor.text after.editor) = Editor.text w ∧
    (after.session.board.anchored = true ↔ ∃ c ∈ Editor.text after.editor, Anchor.isGlyph c) ∧
    after.session.guard = .idle ∧
    (∃ given, after.editor.answers = given ++ before.2.answers ∧
      ((∀ a ∈ given, a ≠ .ok true) →
        Editor.text after.editor = Editor.text before.2 ∧
        after.session.board = before.1.board) ∧
      (c = .removeMarkers → (∀ a ∈ given, a = .ok true) →
        Editor.text after.editor = Editor.text w)) ∧
    ∀ op, { before.1 with guard := ⟨some op⟩ }.perform before.2 c =
      ⟨.ok .busy, { before.1 with guard := ⟨some op⟩ }, before.2⟩ := by
  intro before after
  have hstart : Kept (Editor.text w) s w := by
    refine ⟨Anchor.strip_eq_self glyphFree, ?_, idle, own⟩
    rw [unanchored]
    simpa using glyphFree
  have hbefore : Kept (Editor.text w) before.1 before.2 := kept_performAll hstart calls
  obtain ⟨given, heffect, hremoved⟩ := effect_perform hbefore c
  refine ⟨heffect.kept.text, heffect.kept.anchored, heffect.kept.idle,
    ⟨given, heffect.answers, heffect.unmoved, hremoved⟩, ?_⟩
  intro op
  exact perform_of_isBusy (s := { before.1 with guard := ⟨some op⟩ }) hbefore.own rfl c

/-- A session with a marker behind a surrogate pair's first half and one past its document's end. -/
def strayMarkers : Session :=
  { ofUri "d" with board := .ofMarkers [.plain 0 ⟨0, 2⟩, .plain 1 ⟨7, 0⟩] }

/-- A document that is refused an edit and fails at another one and at being saved. -/
def moodySample : Watched MoodyDocument :=
  ⟨⟨.ofText "d" ['a', '😀', '\r', '\n', 'b'],
    [.unwilling, .willing, .failing (.file .readOnly), .failing (.file .readOnly), .willing,
      .failing (.file .readOnly)]⟩, []⟩

/-- One addition is refused and one made but not saved, showing the states fails at its first edit,
and a removal that is not saved either still brings the text back. -/
theorem calls_keep_text_of_moody :
    let before := strayMarkers.performAll moodySample [.addMarkers, .addMarkers, .showStates]
    let after := before.1.perform before.2 .removeMarkers
    Editor.text before.2 = ['a', '😀', Anchor.glyph, '\r', '\n', 'b', Anchor.glyph] ∧
    before.1.board.anchored = true ∧ after.session.board.anchored = false ∧
    Editor.text after.editor = Editor.text moodySample := by
  intro before after
  obtain ⟨-, -, -, ⟨given, hanswers, -, hremoved⟩, -⟩ :=
    calls_keep_text strayMarkers moodySample (Anchor.runs_eq_nil_iff.mp rfl) rfl rfl rfl
      [.addMarkers, .addMarkers, .showStates] .removeMarkers
  have hafter : after.editor.answers = [.ok true] ++ before.2.answers := by rfl
  have hgiven : given = [.ok true] := List.append_cancel_right (hanswers.symm.trans hafter)
  refine ⟨by decide, by decide, by decide, hremoved rfl ?_⟩
  simp [hgiven]

end Session

end Waymark
