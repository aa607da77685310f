import Waymark.Exchange.Event
import Waymark.Proofs.Files.Spelling

/-! Events that can be written. Only the path of an image can get in the way. -/

namespace Waymark.Event
variable {event : Event} {e : Error}

/-- An event whose image, if it tells of one, is at a path that is text. -/
def IsText : Event → Prop
  | heapGraph _ _ svg _ => svg.IsText
  | _ => True

theorem body_eq_error (h : event.body = .error e) : e = .json .pathNotText ∧ ¬ event.IsText := by
  cases event with
  | setDecorations uri markers => cases h
  | heapGraph uri state svg method =>
    cases hwritten : svg.written with
    | error e' =>
      simp only [body, hwritten, Except.error.injEq] at h
      subst h
      exact Path.written_eq_error hwritten
    | ok s => simp [body, hwritten] at h
  | hint message => cases h

end Waymark.Event
