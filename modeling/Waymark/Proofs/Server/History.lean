import Waymark.Proofs.Server.Reaching

/-! Histories: the requests that have led to a world, each with the world that it found. -/

namespace Waymark.World
variable {α : Type} {quiet : Host → Host → Prop} {settings : Settings} {host : Host} {w w' : World}

/-- A request that was carried out, and the world that it found. -/
structure Occurrence where
  before : World
  request : Request

/-- The requests carried out since the server was started, the latest first. In between messages are
sent, and others do `quiet` things on the machine. -/
inductive History (quiet : Host → Host → Prop) (settings : Settings) (host : Host) :
    List Occurrence → World → Prop
  | start : History quiet settings host [] ⟨.ofSettings settings, host⟩
  | request {log : List Occurrence} {w : World} (request : Request) :
      History quiet settings host log w →
      History quiet settings host (⟨w, request⟩ :: log) (w.dispatch request).2
  | sent {log : List Occurrence} {w : World} (seq : Nat) : History quiet settings host log w →
      History quiet settings host log (w.withServer { w.server with seq })
  | machine {log : List Occurrence} {w : World} {h : Host} : History quiet settings host log w →
      quiet w.host h → History quiet settings host log { w with host := h }

namespace Occurrence

/-- What the request was answered. -/
def reply (o : Occurrence) : Except Error Reply := (o.before.dispatch o.request).1

/-- The world that the request left. -/
def after (o : Occurrence) : World := (o.before.dispatch o.request).2

end Occurrence

theorem History.reached {log : List Occurrence} (h : History quiet settings host log w) :
    w.Reached := by
  induction h with
  | start => exact .start settings host
  | request request _ ih => exact ih.dispatch request
  | sent seq _ ih => exact ih.next (.sent seq)
  | machine _ _ ih => exact ih.next (.machine _)

/-- What an occurrence of a history has left of what is viewed has stayed as it is since then. -/
def StaysSince (view : World → α) (o : Occurrence) (log : List Occurrence) (w : World) : Prop :=
  ∃ later earlier, log = later ++ o :: earlier ∧ view w = view o.after ∧
    ∀ o' ∈ later, view o'.before = view o.after ∧ view o'.after = view o.after

namespace StaysSince
variable {view : World → α} {o : Occurrence} {log : List Occurrence}

theorem start (o : Occurrence) (log : List Occurrence) : StaysSince view o (o :: log) o.after :=
  ⟨[], log, rfl, rfl, fun _ h => nomatch h⟩

theorem kept (h : StaysSince view o log w) (hsame : view w' = view w) :
    StaysSince view o log w' := by
  obtain ⟨later, earlier, hlog, hview, hlater⟩ := h
  exact ⟨later, earlier, hlog, hsame.trans hview, hlater⟩

theorem request (h : StaysSince view o log w) {request : Request}
    (hsame : view (w.dispatch request).2 = view w) :
    StaysSince view o (⟨w, request⟩ :: log) (w.dispatch request).2 := by
  obtain ⟨later, earlier, rfl, hview, hlater⟩ := h
  refine ⟨⟨w, request⟩ :: later, earlier, rfl, hsame.trans hview, ?_⟩
  exact List.forall_mem_cons.mpr ⟨⟨hview, hsame.trans hview⟩, hlater⟩

end StaysSince

/-- The history of requests that are carried out one after the other. -/
def occurrences (w : World) (log : List Occurrence) : List Request → List Occurrence
  | [] => log
  | request :: requests => (w.dispatch request).2.occurrences (⟨w, request⟩ :: log) requests

theorem History.dispatchAll {log : List Occurrence} (h : History quiet settings host log w)
    (requests : List Request) :
    History quiet settings host (w.occurrences log requests) (w.dispatchAll requests) := by
  induction requests generalizing w log with
  | nil => exact h
  | cons request requests ih => exact ih (h.request request)

end Waymark.World
