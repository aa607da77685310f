import Waymark.Proofs.Anchor.Runs

/-! What an attempt at the anchors does to the text and the board, in any editor that makes the
edits it says it makes. -/

namespace Waymark

/-- An editor that makes just the edits it says it makes. It may refuse any batch, fail at it, or
fail to save; its text stays as it is then. -/
class LawfulEditor (ε : Type) [Editor ε] : Prop where
  uri_apply (e : ε) (batch : EditBatch) : Editor.uri (Editor.apply e batch).2 = Editor.uri e
  uri_save (e : ε) : Editor.uri (Editor.save e).2 = Editor.uri e
  text_save (e : ε) : Editor.text (Editor.save e).2 = Editor.text e
  text_apply (e : ε) (batch : EditBatch) : (Editor.apply e batch).1 = .ok true →
    batch.result? (Editor.text e) = some (Editor.text (Editor.apply e batch).2)
  text_apply_of_ne (e : ε) (batch : EditBatch) : (Editor.apply e batch).1 ≠ .ok true →
    Editor.text (Editor.apply e batch).2 = Editor.text e

namespace TextDocument
variable {doc : TextDocument} {batch : EditBatch}

theorem uri_apply : (doc.apply batch).2.uri = doc.uri := by
  unfold apply
  split
  · split <;> rfl
  · rfl

theorem text_apply (h : (doc.apply batch).1 = .ok true) :
    batch.result? doc.text = some (doc.apply batch).2.text := by
  unfold apply at h ⊢
  split at h
  · split at h <;> simp_all [setText]
  · simp at h

theorem text_apply_of_ne (h : (doc.apply batch).1 ≠ .ok true) :
    (doc.apply batch).2.text = doc.text := by
  unfold apply at h ⊢
  split at h
  · split at h <;> simp_all
  · simp_all

end TextDocument

namespace Buffer

/-- A batch that is meant for the document and has a result is made. -/
theorem apply_of_result? {b : Buffer} {batch : EditBatch} {t : Text}
    (huri : batch.uri = b.document.uri) (hresult : batch.result? b.document.text = some t) :
    Editor.apply b batch = (.ok true, { b with document := b.document.setText t }) := by
  simp only [Editor.apply, TextDocument.apply, if_pos huri, hresult]

/-- A document that is in a file is saved by writing the file. -/
theorem save_of_path {b : Buffer} {p : Path} (hp : b.document.path = some p) : Editor.save b =
    match b.disk.write p b.document.text.toBytes with
    | .ok disk => (.ok (), { b with disk })
    | .error fault => (.error (.file fault), b) := by
  simp only [Editor.save, TextDocument.save, hp]
  cases b.disk.write p b.document.text.toBytes <;> rfl

theorem document_save (b : Buffer) : (Editor.save b).2.document = b.document := by
  simp only [Editor.save]
  split <;> rfl

instance : LawfulEditor Buffer where
  uri_apply _ _ := TextDocument.uri_apply
  uri_save b := congrArg TextDocument.uri b.document_save
  text_save b := congrArg TextDocument.text b.document_save
  text_apply _ _ := TextDocument.text_apply
  text_apply_of_ne _ _ := TextDocument.text_apply_of_ne

end Buffer

namespace Board
variable {b : Board} {anchored : Bool}

@[simp] theorem layOut_eq_nil {ms : List Marker} : layOut anchored ms = [] ↔ ms = [] := by
  rw [← List.length_eq_zero_iff, length_layOut, List.length_eq_zero_iff]

@[simp] theorem isEmpty_setAnchored : (b.setAnchored anchored).isEmpty = b.isEmpty := by
  unfold setAnchored
  split
  · rfl
  · rw [isEmpty, isEmpty, Bool.eq_iff_iff, List.isEmpty_iff, List.isEmpty_iff, layOut_eq_nil]

theorem setAnchored_eq_self (h : b.anchored = anchored) : b.setAnchored anchored = b := by
  simp [setAnchored, h]

end Board

namespace Anchor
variable {ε : Type} [Editor ε] {op : Operation} {batch : EditBatch} {board : Board} {e : ε}
  {o : Outcome}

theorem edit_of_ne (op : Operation) (board : Board) (h : (Editor.apply e batch).1 ≠ .ok true) :
    (edit op batch board e).board = board ∧
    (edit op batch board e).editor = (Editor.apply e batch).2 ∧
    ∃ error, (edit op batch board e).outcome = .error error := by
  unfold edit
  split
  · next he => simp [he]
  · next he => simp [he]
  · next he => simp [he] at h

theorem edit_of_applied (op : Operation) (board : Board)
    (h : (Editor.apply e batch).1 = .ok true) :
    (edit op batch board e).board = board.setAnchored (op = .add) ∧
    (edit op batch board e).editor = (Editor.save (Editor.apply e batch).2).2 ∧
    (edit op batch board e).outcome =
      (Editor.save (Editor.apply e batch).2).1.map fun _ => .applied batch.size := by
  unfold edit
  split
  · next he => simp [he] at h
  · next he => simp [he] at h
  · next he =>
    simp only [he]
    split <;> next hs => simp [hs, Except.map]

/-- An attempt succeeds only if the edits are made and saved. -/
theorem edit_of_ok (h : (edit op batch board e).outcome = .ok o) :
    (Editor.apply e batch).1 = .ok true ∧
    (Editor.save (Editor.apply e batch).2).1 = .ok () ∧ o = .applied batch.size := by
  by_cases haccept : (Editor.apply e batch).1 = .ok true
  · rw [(edit_of_applied op board haccept).2.2] at h
    cases hsave : (Editor.save (Editor.apply e batch).2).1 with
    | error error => simp [hsave, Except.map] at h
    | ok =>
      simp only [hsave, Except.map, Except.ok.injEq] at h
      exact ⟨haccept, rfl, h.symm⟩
  · obtain ⟨error, herror⟩ := (edit_of_ne op board haccept).2.2
    rw [herror] at h
    cases h

theorem delete_of_runs_eq_nil (h : runs (Editor.text e) = []) :
    delete board e = ⟨.ok .unchanged, board.setAnchored false, e⟩ := by
  simp [delete, h]

theorem delete_of_runs_ne_nil (h : runs (Editor.text e) ≠ []) : delete board e =
    edit .remove (deletions (Editor.uri e) (Editor.text e)) board e := by
  simp [delete, h]

theorem insert_of_isEmpty (h : board.isEmpty = true) :
    insert board e = ⟨.ok .unchanged, board, e⟩ := by
  simp [insert, h]

theorem insert_of_not_isEmpty (h : board.isEmpty = false) :
    insert board e = edit .add (insertions (Editor.uri e) board) board e := by
  simp [insert, h]

variable [LawfulEditor ε]

theorem uri_edit : Editor.uri (edit op batch board e).editor = Editor.uri e := by
  by_cases h : (Editor.apply e batch).1 = .ok true
  · rw [(edit_of_applied op board h).2.1, LawfulEditor.uri_save, LawfulEditor.uri_apply]
  · rw [(edit_of_ne op board h).2.1, LawfulEditor.uri_apply]

theorem text_edit_of_ne (op : Operation) (board : Board)
    (h : (Editor.apply e batch).1 ≠ .ok true) :
    Editor.text (edit op batch board e).editor = Editor.text e := by
  rw [(edit_of_ne op board h).2.1, LawfulEditor.text_apply_of_ne _ _ h]

theorem text_edit_of_applied (op : Operation) (board : Board)
    (h : (Editor.apply e batch).1 = .ok true) :
    batch.result? (Editor.text e) = some (Editor.text (edit op batch board e).editor) := by
  rw [(edit_of_applied op board h).2.1, LawfulEditor.text_save]
  exact LawfulEditor.text_apply _ _ h

/-- Deletions that are made leave nothing of the anchors. -/
theorem text_edit_deletions (op : Operation) (board : Board) (uri : String) (e : ε)
    (h : (Editor.apply e (deletions uri (Editor.text e))).1 = .ok true) :
    Editor.text (edit op (deletions uri (Editor.text e)) board e).editor =
      strip (Editor.text e) := by
  have hresult := text_edit_of_applied op board h
  rw [result?_deletions] at hresult
  exact (Option.some.inj hresult).symm

theorem uri_delete : Editor.uri (delete board e).editor = Editor.uri e := by
  by_cases hruns : runs (Editor.text e) = []
  · rw [delete_of_runs_eq_nil hruns]
  · rw [delete_of_runs_ne_nil hruns, uri_edit]

theorem uri_insert : Editor.uri (insert board e).editor = Editor.uri e := by
  cases hb : board.isEmpty with
  | true => rw [insert_of_isEmpty hb]
  | false => rw [insert_of_not_isEmpty hb, uri_edit]

theorem delete_of_ok (h : (delete board e).outcome = .ok o) : o ≠ .busy ∧
    (delete board e).board = board.setAnchored false ∧
    Editor.text (delete board e).editor = strip (Editor.text e) := by
  by_cases hruns : runs (Editor.text e) = []
  · rw [delete_of_runs_eq_nil hruns] at h ⊢
    obtain rfl := Except.ok.inj h
    exact ⟨by simp, rfl, (strip_eq_self (runs_eq_nil_iff.mp hruns)).symm⟩
  · rw [delete_of_runs_ne_nil hruns] at h ⊢
    obtain ⟨haccept, -, rfl⟩ := edit_of_ok h
    exact ⟨by simp, (edit_of_applied .remove board haccept).1,
      text_edit_deletions .remove board _ e haccept⟩

theorem insert_of_ok (hb : board.isEmpty = false) (h : (insert board e).outcome = .ok o) :
    o = .applied board.size ∧ (insert board e).board = board.setAnchored true ∧
    (insertions (Editor.uri e) board).result? (Editor.text e) =
      some (Editor.text (insert board e).editor) := by
  rw [insert_of_not_isEmpty hb] at h ⊢
  obtain ⟨haccept, -, rfl⟩ := edit_of_ok h
  refine ⟨?_, (edit_of_applied .add board haccept).1, text_edit_of_applied .add board haccept⟩
  simp [EditBatch.size, insertions, Board.size]

end Anchor

end Waymark
