import Waymark.Proofs.Anchor.Insertion
import Waymark.Proofs.Anchor.Removal
import Waymark.Proofs.Files.Separation
import Waymark.Proofs.Session.Anchoring
import Waymark.Proofs.Text.Utf8

/-! A document and its file. Whatever is done to the anchors of a document is written to its file at
once, and to no other. -/

namespace Waymark

namespace Buffer
variable {b : Buffer} {batch : EditBatch}

/-- A batch is made, or the buffer stays as it is. -/
theorem apply_cases (b : Buffer) (batch : EditBatch) :
    (∃ t, batch.result? b.document.text = some t ∧
      Editor.apply b batch = (.ok true, { b with document := b.document.setText t })) ∨
    (Editor.apply b batch).1 ≠ .ok true ∧ (Editor.apply b batch).2 = b := by
  simp only [Editor.apply, TextDocument.apply]
  split
  · split
    · next t ht => exact .inl ⟨t, ht, rfl⟩
    · exact .inr ⟨by simp, rfl⟩
  · exact .inr ⟨by simp, rfl⟩

end Buffer

namespace Anchor
variable {op : Operation} {batch : EditBatch} {board : Board} {b : Buffer}

/-- An edit changes nothing, or the text is replaced and saved. -/
theorem editor_edit_cases (op : Operation) (batch : EditBatch) (board : Board) (b : Buffer) :
    (edit op batch board b).editor = b ∨
    ∃ t, batch.result? b.document.text = some t ∧ (edit op batch board b).editor =
      (Editor.save { b with document := b.document.setText t }).2 := by
  obtain ⟨t, ht, happly⟩ | ⟨hne, happly⟩ := Buffer.apply_cases b batch
  · refine .inr ⟨t, ht, ?_⟩
    rw [(edit_of_applied op board (congrArg Prod.fst happly)).2.1, happly]
  · exact .inl ((edit_of_ne op board hne).2.1.trans happly)

/-- Nothing refuses to take anchors out of a document in memory. -/
theorem text_delete (board : Board) (b : Buffer) :
    (delete board b).editor.document.text = strip b.document.text := by
  by_cases hruns : runs (Editor.text b) = []
  · rw [delete_of_runs_eq_nil hruns]
    exact (strip_eq_self (runs_eq_nil_iff.mp hruns)).symm
  · rw [delete_of_runs_ne_nil hruns]
    exact text_edit_deletions .remove board _ b (congrArg Prod.fst apply_deletions)

/-- What holds of a buffer and still does when anchors were put in or taken out. -/
structure Invariant (P : Buffer → Prop) : Prop where
  insert : ∀ board b, P b → P (insert board b).editor
  delete : ∀ board b, P b → P (delete board b).editor

/-- It is enough to look at edits whose result is the text with other anchors. -/
theorem Invariant.of_edit {P : Buffer → Prop}
    (h : ∀ b t, P b → strip t = strip b.document.text →
      P (Editor.save { b with document := b.document.setText t }).2) : Invariant P where
  insert board b hb := by
    cases hempty : board.isEmpty with
    | true => rwa [insert_of_isEmpty hempty]
    | false =>
      rw [insert_of_not_isEmpty hempty]
      obtain heq | ⟨t, ht, heq⟩ := editor_edit_cases .add (insertions (Editor.uri b) board) board b
      · rwa [heq]
      · rw [heq]
        exact h b t hb (strip_of_insertions ht)
  delete board b hb := by
    by_cases hruns : runs (Editor.text b) = []
    · rwa [delete_of_runs_eq_nil hruns]
    · rw [delete_of_runs_ne_nil hruns]
      obtain heq | ⟨t, ht, heq⟩ := editor_edit_cases .remove
        (deletions (Editor.uri b) (Editor.text b)) board b
      · rwa [heq]
      · rw [heq]
        obtain rfl : strip (Editor.text b) = t :=
          Option.some.inj ((result?_deletions _ _).symm.trans ht)
        exact h b _ hb strip_strip

theorem Invariant.attempt {P : Buffer → Prop} (h : Invariant P) (op : Operation) (guard : Guard)
    (board : Board) (hb : P b) : P (attempt op guard board b).2.editor := by
  unfold Anchor.attempt
  split
  · exact hb
  · cases op with
    | add => exact h.insert board b hb
    | remove => exact h.delete board b hb

end Anchor

namespace Session
variable {P : Buffer → Prop} {b : Buffer}

theorem invariant_attempt (h : Anchor.Invariant P) (op : Anchor.Operation) (s : Session)
    (hb : P b) : P (s.attempt op b).editor := by
  unfold attempt
  split
  · exact h.attempt op s.guard s.board hb
  · exact hb

theorem invariant_showStates (h : Anchor.Invariant P) (s : Session) (hb : P b) :
    P (s.showStates b).editor := by
  have hremove : P (s.removeMarkers b).editor := invariant_attempt h .remove s hb
  unfold showStates
  split
  · next heq => rwa [heq] at hremove
  · next heq => rwa [heq] at hremove
  · next s' b' _ heq =>
    rw [heq] at hremove
    have hadd : P (s'.addMarkers b').editor := invariant_attempt h .add s' hremove
    split
    · next heq' => rwa [heq'] at hadd
    · next heq' => rwa [heq'] at hadd

/-- A session takes all anchors out of its own document once nobody else is at them. -/
theorem text_removeMarkers {s : Session} (own : b.document.uri = s.uri) (idle : s.guard = .idle) :
    (s.removeMarkers b).editor.document.text = Anchor.strip b.document.text := by
  rw [removeMarkers, attempt_of_idle own idle]
  exact Anchor.text_delete s.board b

end Session

namespace Buffer
variable {uri : String} {p q : Path} {wd : Place} {original : Text} {b : Buffer} {d : Disk}

/-- Nothing else than the text of a document and its file is touched. -/
theorem invariant_origin (uri : String) (path : Option Path) :
    Anchor.Invariant fun b => b.document.uri = uri ∧ b.document.path = path :=
  .of_edit fun b t hb _ => by rwa [document_save]

/-- A document that is in its file as it is, and has kept its text but for anchors. -/
structure Stored (p : Path) (original : Text) (b : Buffer) : Prop where
  path : b.document.path = some p
  file : b.disk.read p = .ok b.document.text.toBytes
  text : Anchor.strip b.document.text = original

theorem invariant_stored (p : Path) (wd : Place) (original : Text) :
    Anchor.Invariant fun b => Stored p original b ∧ b.disk.wd = wd :=
  .of_edit fun b t hb ht => by
    obtain ⟨hstored, hwd⟩ := hb
    obtain ⟨disk, hwrite, hwd', hread⟩ := Disk.read_write_self hstored.file t.toBytes
    rw [save_of_path (b := { b with document := b.document.setText t }) hstored.path]
    simp only [TextDocument.setText, hwrite]
    exact ⟨⟨hstored.path, hread, ht.trans hstored.text⟩, hwd'.trans hwd⟩

/-- A document that is in another file, if it is in one, leaves the file at `p` alone. -/
theorem invariant_spares (p : Path) (d : Disk) : Anchor.Invariant fun b =>
    (∀ q ∈ b.document.path, p.Apart d.wd q) ∧ Disk.Spares p d b.disk :=
  .of_edit fun b t hb _ => by
    obtain ⟨hapart, hspares⟩ := hb
    refine ⟨by rwa [document_save], ?_⟩
    cases hpath : b.document.path with
    | none => simpa only [Editor.save, TextDocument.save, TextDocument.setText, hpath] using hspares
    | some q =>
      rw [save_of_path (b := { b with document := b.document.setText t }) hpath]
      cases hwrite : b.disk.write q t.toBytes with
      | error fault => simpa only [TextDocument.setText, hwrite] using hspares
      | ok disk =>
        have hq := hapart q hpath
        rw [← hspares.wd] at hq
        simpa only [TextDocument.setText, hwrite] using
          hspares.trans (Disk.spares_write hq hwrite)

end Buffer

namespace Anchor
variable {d : Disk} {p q : Path} {t : Text}

/-- Taking the anchors out of a closed file works whenever the file can be read. -/
theorem stripFile_of_read (h : d.read p = .ok t.toBytes) :
    (∃ o, (stripFile d p).1 = .ok o) ∧ (stripFile d p).2.wd = d.wd ∧
      (stripFile d p).2.read p = .ok (strip t).toBytes := by
  simp only [stripFile, h, Utf8.decode_toBytes]
  by_cases hruns : runs t = []
  · have hfree := runs_eq_nil_iff.mp hruns
    rw [strip?_eq_none_iff.mpr hfree, strip_eq_self hfree]
    exact ⟨⟨_, rfl⟩, rfl, h⟩
  · obtain ⟨disk, hwrite, hwd, hread⟩ := Disk.read_write_self h (strip t).toBytes
    simp only [strip?_of_runs hruns, hwrite]
    exact ⟨⟨_, rfl⟩, hwd, hread⟩

theorem spares_stripFile (hapart : p.Apart d.wd q) : Disk.Spares p d (stripFile d q).2 := by
  unfold stripFile
  split
  · exact .refl p d
  · split
    · exact .refl p d
    · split
      · exact .refl p d
      · split
        · exact .refl p d
        · next hwrite => exact Disk.spares_write hapart hwrite

theorem disk_attemptClosed (board : Board) (d : Disk) (p : Path) :
    (attemptClosed .idle board d p).2.disk = (stripFile d p).2 := by
  have hbegin : Guard.begin? .idle .remove = some ⟨some .remove⟩ := rfl
  simp only [attemptClosed, hbegin]
  split <;> next heq => rw [heq]

end Anchor

namespace Session
variable {s : Session}

theorem disk_removeFromClosed (idle : s.guard = .idle) (d : Disk) (p : Path) :
    (s.removeFromClosed d p).2.2 = (Anchor.stripFile d p).2 := by
  simp only [removeFromClosed, idle, Anchor.disk_attemptClosed]

end Session

end Waymark
