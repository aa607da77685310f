import Waymark.Proofs.Server.Retention

/-! Documents side by side. A request that names one document leaves the others alone, whatever
comes of it. -/

namespace Waymark.World
variable {w w' w'' : World} {uri named other : String} {request : Request}

/-- To a document the worlds are the same. It is open in both or in neither, with one session and
one editor, and its run is walked in the same way. -/
structure Alike (uri : String) (w w' : World) : Prop where
  document : w'.server.documents.get? uri = w.server.documents.get? uri
  run : w'.server.runs.get? uri = w.server.runs.get? uri
  mode : w'.server.settings.mode = w.server.settings.mode

theorem Alike.refl (uri : String) (w : World) : Alike uri w w := ⟨rfl, rfl, rfl⟩

theorem Alike.trans (h : Alike uri w w') (h' : Alike uri w' w'') : Alike uri w w'' :=
  ⟨h'.document.trans h.document, h'.run.trans h.run, h'.mode.trans h.mode⟩

/-- A trace is answered from the run and the mode alone. -/
theorem Alike.trace (h : Alike uri w w') (id state : Nat) :
    (w'.dispatch (.getTrace ⟨id, uri, state⟩)).1 = (w.dispatch (.getTrace ⟨id, uri, state⟩)).1 := by
  simp only [dispatch, getTrace, Runs.trace, h.run, h.mode]

theorem alike_sendAll (uri : String) (w : World) (contents : List Content) :
    Alike uri w (w.sendAll contents).2 := by
  rw [world_sendAll]
  exact ⟨rfl, rfl, rfl⟩

theorem alike_respond (uri : String) (w : World) (contents : List (Except Error Content)) :
    Alike uri w (w.respond contents).world := alike_sendAll uri w _

theorem uri?_of_fares {before after : Option OpenDocument} (h : Fares request uri before after) :
    request.uri? = some uri := by
  cases h with
  | turn editor hnamed hturn => exact hnamed
  | opened editor hrequest huri =>
    subst hrequest huri
    rfl
  | closed hrequest =>
    subst hrequest
    rfl

/-- The entry of a document that no request names takes no turn. -/
theorem document_of_faring (hfaring : Faring request w w') (hother : request.uri? ≠ some other) :
    w'.server.documents.get? other = w.server.documents.get? other := by
  have hturns := hfaring other
  generalize w'.server.documents.get? other = after at hturns ⊢
  induction hturns with
  | refl => rfl
  | tail _ hturn _ => exact absurd (uri?_of_fares hturn) hother

theorem alike_dispatch (horderly : w.Orderly) (hnamed : request.uri? = some named)
    (hne : other ≠ named) : Alike other w (w.dispatch request).2 := by
  have hother : request.uri? ≠ some other := by
    intro heq
    exact hne (Option.some.inj (heq.symm.trans hnamed))
  have hconfigure : ∀ value, request ≠ .configure value := by
    rintro value rfl
    cases hnamed
  have hstore : ∀ snapshot, request = .storeRun snapshot → snapshot.uri ≠ other := by
    rintro snapshot rfl rfl
    exact hother rfl
  have hclose : request ≠ .close other := by
    rintro rfl
    exact hother rfl
  have hstop : request ≠ .stop other := by
    rintro rfl
    exact hother rfl
  constructor
  · exact document_of_faring (faring_dispatch horderly request) hother
  · exact runs_dispatch w hstore hclose hstop
  · obtain ⟨documents, runs, flag, hserver⟩ := server_dispatch hconfigure w
    rw [hserver]
    rfl

/-- What comes for one document leaves every other document alone, be it refused, met or failed.
The other document is open after it if it was before, with the same session in the same editor, its
run is the same, and every trace of it is answered as before. -/
theorem handle_leaves_others (h : w.Reached) (seq : Nat) (command : String)
    (arguments : Option Json)
    (hnamed : ∀ request, Request.parse command arguments = .ok request →
      request.uri? = some named)
    (hne : other ≠ named) :
    let after := (w.handle seq command arguments).world
    after.server.documents.get? other = w.server.documents.get? other ∧
    after.server.runs.get? other = w.server.runs.get? other ∧
    ∀ id state, (after.dispatch (.getTrace ⟨id, other, state⟩)).1 =
      (w.dispatch (.getTrace ⟨id, other, state⟩)).1 := by
  intro after
  have halike : Alike other w after := by
    dsimp only [after]
    unfold handle
    split
    · exact alike_sendAll other w _
    · next hparse => cases hnamed _ hparse
    · next request _ hparse =>
      have hdispatch := alike_dispatch h.orderly (hnamed request hparse) hne
      split <;> next heq =>
        rw [heq] at hdispatch
        exact hdispatch.trans (alike_respond other _ _)
  exact ⟨halike.document, halike.run, halike.trace⟩

/-- Two documents with runs of two states. -/
def twoDocuments : World :=
  dispatchAll ⟨.ofSettings (drawing true), drawingHost⟩
    [.storeRun twoStates, .storeRun { twoStates with uri := "e" }, .showHeap ⟨0, "e", 0⟩]

/-- While a heap of the one is on display, the other is closed. -/
theorem handle_leaves_others_of_close :
    let arguments : Json := .object [("uri", .string "d")]
    let after := (twoDocuments.handle 4 "closeDocument" (some arguments)).world
    after.server.documents.get? "d" = none ∧
    ((after.server.documents.get? "e").bind (·.session.heaps.focused)).isSome = true ∧
    (after.dispatch (.getTrace ⟨0, "e", 1⟩)).1 =
      (twoDocuments.dispatch (.getTrace ⟨0, "e", 1⟩)).1 := by
  intro arguments after
  have hreached : twoDocuments.Reached := (Reached.start _ _).dispatchAll _
  have hnamed : ∀ request, Request.parse "closeDocument" (some arguments) = .ok request →
      request.uri? = some "d" := by
    have hparse : Request.parse "closeDocument" (some arguments) = .ok (.close "d") := rfl
    intro request hrequest
    obtain rfl := Except.ok.inj (hparse.symm.trans hrequest)
    rfl
  have hne : "e" ≠ "d" := by decide
  obtain ⟨hdocument, -, htrace⟩ :=
    handle_leaves_others hreached 4 "closeDocument" (some arguments) hnamed hne
  refine ⟨by decide +kernel, ?_, htrace 0 1⟩
  rw [hdocument]
  decide +kernel

end Waymark.World
