import Waymark.Error
import Waymark.Heap.Slots
import Waymark.Proofs.Text.Utf8

/-! Paths that are text, and so can be written. -/

namespace Waymark.Path
variable {p : Path} {s : String}

/-- A path that a string spells. -/
def IsText (p : Path) : Prop := ∃ s, p = ofString s

theorem text?_ofString (s : String) : (ofString s).text? = some s.toList := by
  simp [text?, ofString, ofText, Utf8.decode_toBytes, Except.toOption]

/-- What is written for a path spells it. -/
theorem written_eq_ok : p.written = .ok s ↔ p = ofString s := by
  constructor
  · intro h
    unfold written text? at h
    cases hdecode : Utf8.decode p.bytes with
    | error fault => simp [hdecode, Except.toOption] at h
    | ok t =>
      simp only [hdecode, Except.toOption, Except.ok.injEq] at h
      subst h
      rw [ofString, ofText, String.toList_ofList, Utf8.toBytes_of_decode hdecode]
  · rintro rfl
    simp [written, text?_ofString]

theorem written_eq_error {e : Error} (h : p.written = .error e) :
    e = .json .pathNotText ∧ ¬ p.IsText := by
  constructor
  · unfold written at h
    split at h <;> cases h
    rfl
  · rintro ⟨s, rfl⟩
    rw [written_eq_ok.mpr rfl] at h
    cases h

/-- A name goes behind a path that is text, and the whole is text. -/
theorem IsText.join (h : p.IsText) (name : String) : (p.join name).IsText := by
  obtain ⟨s, rfl⟩ := h
  have hslash : Text.toBytes ['/'] = [slash] := by decide
  unfold Path.join
  split
  · exact ⟨s ++ name, by simp [ofString, ofText]⟩
  · refine ⟨s ++ "/" ++ name, ?_⟩
    simp only [ofString, ofText, String.toList_append, Text.toBytes_append]
    rw [show "/".toList = ['/'] from rfl, hslash, List.append_assoc, List.singleton_append]

end Waymark.Path

namespace Waymark.HeapSlots

theorem isText_svgPath {dir : Path} (h : dir.IsText) (slot : Nat) : (svgPath dir slot).IsText :=
  h.join _

end Waymark.HeapSlots
