import Waymark.Proofs.Anchor.Attempt

/-! Why an attempt at the anchors of a document fails: its editor refuses the edits, or there is
something wrong with its file. -/

namespace Waymark

namespace Buffer
variable {b : Buffer} {batch : EditBatch} {e : Error}

/-- A batch that is meant for the document is not turned away as one for another. -/
theorem apply_ne_error (h : batch.uri = b.document.uri) : (Editor.apply b batch).1 ≠ .error e := by
  simp only [Editor.apply, TextDocument.apply, if_pos h]
  split <;> simp

theorem save_eq_error (h : (Editor.save b).1 = .error e) : ∃ fault, e = .file fault := by
  cases hp : b.document.path with
  | none => simp [Editor.save, TextDocument.save, hp] at h
  | some p =>
    rw [save_of_path hp] at h
    split at h
    · cases h
    · next fault _ => exact ⟨fault, (Except.error.inj h).symm⟩

end Buffer

namespace Anchor
variable {op : Operation} {guard : Guard} {batch : EditBatch} {board : Board} {b : Buffer}
  {d : Disk} {p : Path} {e : Error}

/-- What an attempt at the anchors of an open document fails for. -/
inductive Failing (uri : String) (op : Operation) : Error → Prop
  | refused : Failing uri op (.editRejected uri op)
  | file (fault : FileFault) : Failing uri op (.file fault)

theorem failing_edit (hbatch : batch.uri = b.document.uri)
    (h : (edit op batch board b).outcome = .error e) : Failing b.document.uri op e := by
  unfold edit at h
  split at h
  · next heq => exact absurd (congrArg Prod.fst heq) (Buffer.apply_ne_error hbatch)
  · next edited heq =>
    have huri : Editor.uri edited = b.document.uri :=
      (congrArg (Editor.uri ·.2) heq).symm.trans (LawfulEditor.uri_apply b batch)
    obtain rfl := Except.error.inj h
    rw [huri]
    exact .refused
  · dsimp only at h
    split at h
    · next heq =>
      obtain rfl := Except.error.inj h
      obtain ⟨fault, rfl⟩ := Buffer.save_eq_error (congrArg Prod.fst heq)
      exact .file fault
    · cases h

theorem failing_attempt (h : (attempt op guard board b).2.outcome = .error e) :
    Failing b.document.uri op e := by
  unfold attempt at h
  split at h
  · cases h
  · cases op with
    | add =>
      dsimp only [insert] at h
      split at h
      · cases h
      · exact failing_edit rfl h
    | remove =>
      dsimp only [delete] at h
      split at h
      · cases h
      · exact failing_edit rfl h

/-- What taking the anchors out of a file fails for: it is not there, or has a fault. -/
theorem stripFile_eq_error (h : (stripFile d p).1 = .error e) :
    e = .missingFile p ∨ ∃ fault, e = .file fault := by
  unfold stripFile at h
  split at h
  · next fault _ =>
    obtain rfl := Except.error.inj h
    cases fault with
    | notFound => exact .inl rfl
    | _ => exact .inr ⟨_, rfl⟩
  · split at h
    · exact .inr ⟨_, (Except.error.inj h).symm⟩
    · split at h
      · cases h
      · split at h
        · exact .inr ⟨_, (Except.error.inj h).symm⟩
        · cases h

theorem attemptClosed_eq_error (h : (attemptClosed guard board d p).2.outcome = .error e) :
    e = .missingFile p ∨ ∃ fault, e = .file fault := by
  unfold attemptClosed at h
  split at h
  · cases h
  · dsimp only at h
    split at h
    · cases h
    · next heq =>
      obtain rfl := Except.error.inj h
      exact stripFile_eq_error (congrArg Prod.fst heq)

end Anchor

end Waymark
