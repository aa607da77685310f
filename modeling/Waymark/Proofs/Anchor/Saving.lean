import Waymark.Proofs.Anchor.Attempt
import Waymark.Proofs.Files.Rewriting

/-! Attempts that cannot fail: those of a document that its file can take. -/

namespace Waymark

namespace Buffer
variable {b : Buffer}

/-- The file of the document, if it has one, can be written. -/
def Savable (b : Buffer) : Prop :=
  ∀ p ∈ b.document.path, ∀ contents, ∃ disk, b.disk.write p contents = .ok disk

theorem save_of_savable (h : b.Savable) : (Editor.save b).1 = .ok () := by
  cases hp : b.document.path with
  | none => simp [Editor.save, TextDocument.save, hp]
  | some p =>
    obtain ⟨disk, hwrite⟩ := h p hp b.document.text.toBytes
    rw [save_of_path hp, hwrite]

theorem savable_apply (batch : EditBatch) (h : b.Savable) : (Editor.apply b batch).2.Savable := by
  have hpath : (b.document.apply batch).2.path = b.document.path := by
    unfold TextDocument.apply
    split
    · split <;> rfl
    · rfl
  simpa [Savable, Editor.apply, hpath] using h

/-- What has been saved once can be saved again. -/
theorem savable_save (h : (Editor.save b).1 = .ok ()) : (Editor.save b).2.Savable := by
  intro p hp contents
  rw [document_save] at hp
  rw [save_of_path hp] at h ⊢
  cases hwrite : b.disk.write p b.document.text.toBytes with
  | error fault => simp [hwrite] at h
  | ok disk => exact Disk.write_again hwrite contents

end Buffer

namespace Anchor
variable {batch : EditBatch} {board : Board} {b : Buffer} {t : Text} {o : Outcome}

theorem edit_of_savable (op : Operation) (board : Board) (h : b.Savable)
    (huri : batch.uri = Editor.uri b) (hresult : batch.result? (Editor.text b) = some t) :
    (edit op batch board b).outcome = .ok (.applied batch.size) ∧
    (edit op batch board b).editor.Savable := by
  have haccept : (Editor.apply b batch).1 = .ok true :=
    congrArg Prod.fst (Buffer.apply_of_result? huri hresult)
  have hsave := Buffer.save_of_savable (Buffer.savable_apply batch h)
  obtain ⟨-, heditor, houtcome⟩ := edit_of_applied op board haccept
  rw [houtcome, heditor, hsave]
  exact ⟨rfl, Buffer.savable_save hsave⟩

theorem delete_of_savable (board : Board) (h : b.Savable) :
    (∃ o, (delete board b).outcome = .ok o) ∧ (delete board b).editor.Savable := by
  by_cases hruns : runs (Editor.text b) = []
  · rw [delete_of_runs_eq_nil hruns]
    exact ⟨⟨_, rfl⟩, h⟩
  · rw [delete_of_runs_ne_nil hruns]
    obtain ⟨houtcome, hsavable⟩ :=
      edit_of_savable .remove board h rfl (result?_deletions (Editor.uri b) (Editor.text b))
    exact ⟨⟨_, houtcome⟩, hsavable⟩

theorem savable_insert (hb : board.isEmpty = false) (h : (insert board b).outcome = .ok o) :
    (insert board b).editor.Savable := by
  rw [insert_of_not_isEmpty hb] at h ⊢
  obtain ⟨haccept, hsave, -⟩ := edit_of_ok h
  rw [(edit_of_applied .add board haccept).2.1]
  exact Buffer.savable_save hsave

end Anchor

end Waymark
