import Waymark.Proofs.Anchor.Attempt

/-! The two ways to take anchors out, by edits to an open document and by rewriting a closed file,
leave the same text. -/

namespace Waymark.Anchor
variable {t : Text} {p : Path} {d : Disk} {b : Buffer}

theorem apply_deletions : Editor.apply b (deletions (Editor.uri b) (Editor.text b)) =
    (.ok true, { b with document := b.document.setText (strip (Editor.text b)) }) :=
  Buffer.apply_of_result? rfl (result?_deletions _ _)

/-- Removal from an open document, whether or not the disk lets it be saved. -/
theorem delete_buffer (board : Board) (hp : b.document.path = some p) :
    Editor.text (delete board b).editor = strip (Editor.text b) ∧
    (delete board b).editor.disk =
      if runs (Editor.text b) = [] then b.disk
      else match b.disk.write p (strip (Editor.text b)).toBytes with
        | .error _ => b.disk
        | .ok disk => disk := by
  by_cases hruns : runs (Editor.text b) = []
  · rw [delete_of_runs_eq_nil hruns, strip_eq_self (runs_eq_nil_iff.mp hruns)]
    simp [hruns]
  · have haccept := congrArg Prod.fst (apply_deletions (b := b))
    rw [delete_of_runs_ne_nil hruns, if_neg hruns]
    refine ⟨text_edit_deletions .remove board _ b haccept, ?_⟩
    rw [(edit_of_applied .remove board haccept).2.1, apply_deletions, Buffer.save_of_path
      (b := { b with document := b.document.setText (strip (Editor.text b)) }) hp]
    simp only [TextDocument.setText]
    cases b.disk.write p (strip (Editor.text b)).toBytes <;> rfl

theorem read_of_readText (h : d.readText p = .ok t) :
    ∃ bytes, d.read p = .ok bytes ∧ Utf8.decode bytes = .ok t := by
  unfold Disk.readText at h
  split at h
  · cases h
  · next bytes hread =>
    cases hd : Utf8.decode bytes with
    | error fault =>
      rw [hd] at h
      cases h
    | ok u =>
      rw [hd] at h
      cases h
      exact ⟨bytes, hread, hd⟩

/-- Removal from a closed file. -/
theorem stripFile_disk (h : d.readText p = .ok t) :
    (stripFile d p).2 =
      if runs t = [] then d
      else match d.write p (strip t).toBytes with
        | .error _ => d
        | .ok disk => disk := by
  obtain ⟨bytes, hread, hdecode⟩ := read_of_readText h
  by_cases hruns : runs t = []
  · have hnone : strip? t = none := strip?_eq_none_iff.mpr (runs_eq_nil_iff.mp hruns)
    simp [stripFile, hread, hdecode, hnone, hruns]
  · simp only [stripFile, hread, hdecode, strip?_of_runs hruns, hruns, if_false]
    cases d.write p (strip t).toBytes <;> simp

/-- The edits for the runs of a text take away all anchors and nothing else, and so does rewriting
the file of the text. -/
theorem removals_agree (uri : String) (t : Text) :
    (deletions uri t).result? t = some (t.filter fun c => c ≠ '\u200B' ∧ c ≠ '\u29BF') ∧
    (∀ u, strip? t = some u → (deletions uri t).result? t = some u) ∧
    (strip? t = none ↔ runs t = []) ∧
    (∀ r, r ∈ runs t ↔ IsRun t r) ∧
    (∀ r ∈ runs t, r.start < r.stop) ∧
    (runs t).Pairwise (fun a b => a.stop < b.start) ∧
    ∀ (board : Board) (b : Buffer) (p : Path),
      b.document.text = t → b.document.path = some p → b.disk.readText p = .ok t →
      Editor.text (delete board b).editor = strip t ∧
      (delete board b).editor.disk = (stripFile b.disk p).2 := by
  have hstrip : strip t = t.filter fun c => c ≠ '\u200B' ∧ c ≠ '\u29BF' := by
    apply List.filter_congr
    intro c _
    rw [Bool.eq_iff_iff]
    simp [isGlyph, glyph, legacyGlyph]
  refine ⟨hstrip ▸ result?_deletions uri t, ?_, ?_, fun _ => mem_runs_iff,
    fun _ => start_lt_stop_of_mem, pairwise_runsBehind (runs_runsBehind t) (.inl (by simp)), ?_⟩
  · intro u hu
    have hne : runs t ≠ [] := by
      intro hnil
      simp [strip?_eq_none_iff.mpr (runs_eq_nil_iff.mp hnil)] at hu
    rw [← hu, strip?_of_runs hne]
    exact result?_deletions uri t
  · rw [strip?_eq_none_iff, runs_eq_nil_iff]
  · rintro board b p rfl hp hread
    obtain ⟨htext, hdisk⟩ := delete_buffer board hp
    exact ⟨htext, hdisk.trans (stripFile_disk hread).symm⟩

/-- A text with anchors around a return, in a file. -/
def anchoredBuffer : Buffer :=
  let text := ['a', glyph, '\r', legacyGlyph, glyph, '\n', '😀', glyph]
  ⟨⟨"d", some ⟨[47, 102]⟩, text, 0⟩, ⟨⟨[([[102]], .file (Text.toBytes text) false)]⟩, []⟩⟩

theorem removals_agree_of_anchored :
    (runs anchoredBuffer.document.text).length = 3 ∧
    Editor.text (delete .empty anchoredBuffer).editor = ['a', '\r', '\n', '😀'] ∧
    (delete .empty anchoredBuffer).editor.disk =
      (stripFile anchoredBuffer.disk ⟨[47, 102]⟩).2 := by
  obtain ⟨-, -, -, -, -, -, hremoved⟩ := removals_agree "d" anchoredBuffer.document.text
  obtain ⟨htext, hdisk⟩ := hremoved .empty anchoredBuffer ⟨[47, 102]⟩ rfl rfl rfl
  exact ⟨by decide, htext, hdisk⟩

end Waymark.Anchor
