import Waymark.Proofs.Anchor.Failing
import Waymark.Proofs.Server.Answering
import Waymark.Proofs.Server.Redisplay

/-! Requests that are refused. One that cannot be read, brings settings that do not fit or is about
a document that is not open changes nothing, but for the two that show and hide states. These set
what holds for all documents before they look for their own. -/

namespace Waymark

/-- Whether states are to be shown from now on, if the request says so. -/
def Request.flag? : Request → Option Bool
  | .showStates _ => some true
  | .hideStates _ => some false
  | _ => none

/-- It did not come out that a document is not open. -/
def Found {α : Type} (outcome : Except Error α) : Prop :=
  ∀ uri, outcome ≠ .error (.unknownDocument uri)

section Found
variable {α β : Type} {outcome : Except Error α}

theorem found_ok (a : α) : Found (.ok a : Except Error α) := fun _ h => nomatch h

theorem found_error {e : Error} :
    Found (.error e : Except Error α) ↔ ∀ uri, e ≠ .unknownDocument uri := by
  simp [Found]

theorem Found.passed {e : Error} (h : Found outcome) (he : outcome = .error e) :
    Found (.error e : Except Error β) := by
  subst he
  exact found_error.mpr (found_error.mp h)

theorem Found.map (h : Found outcome) (f : α → β) : Found (outcome.map f) := by
  cases outcome with
  | ok a => exact found_ok _
  | error e => exact h.passed rfl

theorem found_mapError_file {outcome : Except FileFault α} :
    Found (outcome.mapError Error.file) := by
  cases outcome <;> simp [Found, Except.mapError]

theorem found_ofRead (p : Path) (fault : FileFault) :
    Found (.error (.ofRead p fault) : Except Error α) := by
  cases fault <;> simp [Found, Error.ofRead]

end Found

namespace Session
variable {s : Session}

theorem found_attempt (op : Anchor.Operation) (s : Session) (b : Buffer) :
    Found (s.attempt op b).outcome := by
  unfold attempt
  split
  · exact fun _ h => by cases Anchor.failing_attempt h
  · simp [Found]

theorem found_showStates (s : Session) (b : Buffer) : Found (s.showStates b).outcome := by
  have hremove := found_attempt .remove s b
  unfold showStates
  split
  · next heq => exact hremove.passed (congrArg (·.outcome) heq)
  · exact found_ok _
  · next s' b' _ _ =>
    have hadd := found_attempt .add s' b'
    split
    · next heq => exact hadd.passed (congrArg (·.outcome) heq)
    · exact found_ok _

theorem found_acceptHeap (s : Session) (graph : HeapGraph) (settings : Settings) (r : Renderer)
    (h : Host) : Found (s.acceptHeap graph settings r h).1 := by
  have hrender : ∀ (dir : Path) (slot : Nat),
      Found (r.writeAndRender h dir slot graph.heap).1 := by
    intro dir slot
    unfold Renderer.writeAndRender
    split
    · simp [Found]
    · dsimp only
      split
      · simp [Found]
      · next disk _ =>
        have hstart : Found (r.render { h with disk } (HeapSlots.dotPath dir slot)
            (HeapSlots.svgPath dir slot)) := by
          unfold Renderer.render
          split
          · exact found_mapError_file
          · simp [Found]
        split
        · next heq => exact hstart.passed heq
        · exact found_ok _
  unfold acceptHeap
  split
  · split
    · exact found_ok _
    · next slot _ =>
      split
      · next heq => exact (hrender _ slot.index).passed (congrArg Prod.fst heq)
      · exact found_ok _
  · simp [Found]

end Session

/-- Settings fail to go over others for what they are, or because the others cannot be written. -/
theorem Settings.merge_eq_error {s : Settings} {value : Json} {e : Error}
    (h : s.merge value = .error e) : (∃ m, e = .ofMisfit m) ∨
      (∃ v, e = .protocol (.settingsNotObject v)) ∨ e = .json .pathNotText := by
  unfold merge at h
  split at h
  · split at h
    · next e' hentries =>
      obtain rfl := Except.error.inj h
      unfold entries at hentries
      cases hwritten : s.heapDirectory.written with
      | ok spelled => simp [hwritten, Except.map] at hentries
      | error e'' =>
        rw [hwritten] at hentries
        obtain rfl := Except.error.inj hentries
        exact .inr (.inr (Path.written_eq_error hwritten).1)
    · next written _ =>
      generalize s.record.decodeObject (Table.overlay written _) = decoded at h
      cases decoded <;> cases h
      exact .inl ⟨_, rfl⟩
  · cases h
    exact .inr (.inl ⟨_, rfl⟩)

namespace World
variable {w : World} {request : Request} {uri command : String} {arguments : Option Json}
  {e : Error}

/-- The document that a request looks for among those that are open. Clicks and heaps are passed
over while states are hidden. -/
def sought? (w : World) (request : Request) : Option String :=
  match request with
  | .showHeap wanted => if w.server.settings.showStates then some wanted.uri else none
  | .point p => if w.server.settings.showStates then some p.uri else none
  | .showStates uri => some uri
  | .hideStates uri => some uri
  | .addMarkers uri => some uri
  | .removeMarkers uri => some uri
  | .close uri => some uri
  | _ => none

/-- The world once a request has set whether states are shown. -/
def flagged (w : World) (request : Request) : World :=
  w.setShowStates (request.flag?.getD w.server.settings.showStates)

theorem dispatch_of_sought (hsought : w.sought? request = some uri)
    (hclosed : w.server.documents.get? uri = none) :
    w.dispatch request = (.error (.unknownDocument uri), w.flagged request) := by
  cases request with
  | showHeap wanted =>
    obtain ⟨hshow, huri⟩ := Option.ite_none_right_eq_some.mp hsought
    obtain rfl := Option.some.inj huri
    simp only [dispatch, showHeap, hshow, Server.document, hclosed]
    rfl
  | point p =>
    obtain ⟨hshow, huri⟩ := Option.ite_none_right_eq_some.mp hsought
    obtain rfl := Option.some.inj huri
    simp only [dispatch, point, hshow, Server.document, hclosed]
    rfl
  | showStates named =>
    obtain rfl := Option.some.inj hsought
    have hclosed : (w.setShowStates true).server.documents.get? named = none := hclosed
    simp only [dispatch, showStates, Server.document, hclosed]
    rfl
  | hideStates named =>
    obtain rfl := Option.some.inj hsought
    have hclosed : (w.setShowStates false).server.documents.get? named = none := hclosed
    simp only [dispatch, hideStates, Server.document, hclosed]
    rfl
  | addMarkers named =>
    obtain rfl := Option.some.inj hsought
    simp only [dispatch, pin, Server.document, hclosed]
    rfl
  | removeMarkers named =>
    obtain rfl := Option.some.inj hsought
    simp only [dispatch, pin, Server.document, hclosed]
    rfl
  | close named =>
    obtain rfl := Option.some.inj hsought
    simp only [dispatch, close, Server.document, hclosed]
    rfl
  | _ => cases hsought

theorem found_document (h : (w.server.documents.get? uri).isSome = true) :
    Found (w.server.document uri) := by
  obtain ⟨doc, hdoc⟩ := Option.isSome_iff_exists.mp h
  rw [Server.document_eq_ok.mpr hdoc]
  exact found_ok doc

theorem found_configure (w : World) (value : Json) : Found (w.configure value).1 := by
  unfold configure
  split
  · next heq =>
    obtain ⟨m, rfl⟩ | ⟨v, rfl⟩ | rfl := Settings.merge_eq_error heq <;> exact fun _ => nofun
  · exact found_ok _

theorem found_openEditor (w : World) (snapshot : Snapshot) : Found (w.openEditor snapshot) := by
  unfold openEditor
  split
  · exact found_ok _
  · split
    · next path heq =>
      unfold Uri.documentPath at heq
      split at heq <;> cases heq <;> simp [Found]
    · unfold TextDocument.read
      split
      · exact found_ofRead _ _
      · exact found_ok _

theorem found_showStatesOf (w : World) (uri : String) (doc : OpenDocument) :
    Found (w.showStatesOf uri doc).1 :=
  Session.found_showStates doc.session (w.buffer doc)

theorem found_storeRun (w : World) (snapshot : Snapshot) : Found (w.storeRun snapshot).1 := by
  unfold storeRun
  dsimp only
  split
  · next heq => exact (found_openEditor w snapshot).passed heq
  · split
    · next heq =>
      unfold Session.storeSnapshot at heq
      split at heq <;> cases heq
      simp [Found]
    · split
      · split
        · next heq => exact (found_showStatesOf _ _ _).passed (congrArg Prod.fst heq)
        · exact found_ok _
      · exact found_ok _

/-- A heap is asked for in the name of a document that is open. -/
theorem found_answerHeap {wanted : HeapRequest}
    (h : (w.server.documents.get? wanted.uri).isSome = true) :
    Found (w.answerHeap wanted).1 := by
  unfold answerHeap
  split
  · exact found_ok _
  · next graph _ =>
    dsimp only
    split
    · next heq =>
      unfold Renderer.ofSettings at heq
      split at heq
      · cases heq
        simp [Found]
      · split at heq <;> cases heq
        simp [Found]
    · next r _ =>
      split
      · next heq => exact (found_document h).passed heq
      · next doc _ =>
        split
        · next heq =>
          exact (Session.found_acceptHeap doc.session graph _ r w.host).passed
            (congrArg Prod.fst heq)
        · exact found_ok _
        · exact found_ok _

/-- A session asks in the name of its own document. -/
theorem found_answerHeap_of_asked (doc : OpenDocument) (s : Session) {wanted : HeapRequest}
    (huri : wanted.uri = uri) :
    Found ((w.setDocument uri { doc with session := s }).answerHeap wanted).1 := by
  refine found_answerHeap ?_
  rw [huri, get?_setDocument_self]
  rfl

theorem found_showHeap (horderly : w.Orderly) (wanted : HeapRequest)
    (hopen : ∀ uri, w.sought? (.showHeap wanted) = some uri →
      (w.server.documents.get? uri).isSome = true) : Found (w.showHeap wanted).1 := by
  unfold showHeap
  split
  · next hshow =>
    split
    · next heq => exact (found_document (hopen _ (if_pos hshow))).passed heq
    · next doc hdoc =>
      split
      · exact found_answerHeap_of_asked doc _ (horderly _ doc (Server.document_eq_ok.mp hdoc)).1
      · simp [Found]
  · exact found_ok _

theorem found_point (horderly : w.Orderly) (p : Pointing)
    (hopen : ∀ uri, w.sought? (.point p) = some uri →
      (w.server.documents.get? uri).isSome = true) : Found (w.point p).1 := by
  unfold point
  split
  · next hshow =>
    split
    · next heq => exact (found_document (hopen _ (if_pos hshow))).passed heq
    · next doc hdoc =>
      dsimp only
      split
      · exact found_ok _
      · exact found_ok _
      · next wanted haction =>
        have hanswer := found_answerHeap_of_asked (w := w) doc
          (doc.session.onPosition p.position w.server.settings.mode).2
          ((uri_of_onPosition haction).trans (horderly _ doc (Server.document_eq_ok.mp hdoc)).1)
        split
        · next heq => exact hanswer.passed (congrArg Prod.fst heq)
        · exact found_ok _
  · exact found_ok _

theorem found_showStates (w : World) (hopen : (w.server.documents.get? uri).isSome = true) :
    Found (w.showStates uri).1 := by
  unfold showStates
  dsimp only
  split
  · next heq => exact (found_document (w := w.setShowStates true) hopen).passed heq
  · split
    · next heq => exact (found_showStatesOf _ _ _).passed (congrArg Prod.fst heq)
    · exact found_ok _

theorem found_hideStates (w : World) (hopen : (w.server.documents.get? uri).isSome = true) :
    Found (w.hideStates uri).1 := by
  unfold hideStates
  dsimp only
  split
  · next heq => exact (found_document (w := w.setShowStates false) hopen).passed heq
  · exact found_ok _

theorem found_pin (op : Anchor.Operation) (hopen : (w.server.documents.get? uri).isSome = true) :
    Found (w.pin op uri).1 := by
  unfold pin
  split
  · next heq => exact (found_document hopen).passed heq
  · next doc _ => exact (Session.found_attempt op doc.session (w.buffer doc)).map _

theorem found_closeEditor (w : World) (doc : OpenDocument) : Found (w.closeEditor doc).1 := by
  unfold closeEditor
  split
  · intro uri h
    obtain heq | ⟨_, heq⟩ := Anchor.attemptClosed_eq_error h <;> cases heq
  · exact Session.found_attempt .remove doc.session (w.buffer doc)

theorem found_close (hopen : (w.server.documents.get? uri).isSome = true) :
    Found (w.close uri).1 := by
  unfold close
  split
  · next heq => exact (found_document hopen).passed heq
  · dsimp only
    split
    · next heq => exact (found_closeEditor _ _).passed (congrArg Prod.fst heq)
    · exact found_ok _

theorem found_dispatch (horderly : w.Orderly) (request : Request)
    (hopen : ∀ uri, w.sought? request = some uri →
      (w.server.documents.get? uri).isSome = true) : Found (w.dispatch request).1 := by
  cases request with
  | configure value => exact found_configure w value
  | storeRun snapshot => exact found_storeRun w snapshot
  | getTrace request => exact found_ok _
  | showHeap wanted => exact found_showHeap horderly wanted hopen
  | point p => exact found_point horderly p hopen
  | showStates uri => exact found_showStates w (hopen uri rfl)
  | hideStates uri => exact found_hideStates w (hopen uri rfl)
  | addMarkers uri => exact found_pin .add (hopen uri rfl)
  | removeMarkers uri => exact found_pin .remove (hopen uri rfl)
  | close uri => exact found_close (hopen uri rfl)
  | stop uri => exact found_ok _
  | disconnect => exact found_ok _

/-- That a document is not open is answered exactly where the request looks for one that is not. -/
theorem dispatch_eq_unknownDocument_iff (horderly : w.Orderly) (request : Request) (uri : String) :
    (w.dispatch request).1 = .error (.unknownDocument uri) ↔
      w.sought? request = some uri ∧ w.server.documents.get? uri = none := by
  constructor
  · intro hunknown
    by_cases hopen : ∀ uri, w.sought? request = some uri →
        (w.server.documents.get? uri).isSome = true
    · exact absurd hunknown (found_dispatch horderly request hopen uri)
    · simp only [not_forall, Bool.not_eq_true, Option.isSome_eq_false_iff,
        Option.isNone_iff_eq_none] at hopen
      obtain ⟨named, hsought, hclosed⟩ := hopen
      rw [dispatch_of_sought hsought hclosed] at hunknown
      cases hunknown
      exact ⟨hsought, hclosed⟩
  · rintro ⟨hsought, hclosed⟩
    rw [dispatch_of_sought hsought hclosed]

/-- A request is refused for what it says, or because the document it is about is not open. -/
inductive Refused (w : World) (command : String) (arguments : Option Json) : Error → Prop
  /-- Its command is not known, or what it is given does not convert. -/
  | misread {e : Error} : Request.parse command arguments = .error e → Refused w command arguments e
  /-- It brings settings that do not go with those that hold. -/
  | misfit {value : Json} {e : Error} : Request.parse command arguments = .ok (.configure value) →
      w.server.settings.merge value = .error e → Refused w command arguments e
  | unopened {request : Request} {uri : String} : Request.parse command arguments = .ok request →
      (w.dispatch request).1 = .error (.unknownDocument uri) →
      Refused w command arguments (.unknownDocument uri)

theorem dispatch_of_misfit {value : Json} (h : w.server.settings.merge value = .error e) :
    w.dispatch (.configure value) = (.error e, w) := by
  simp only [dispatch, configure, h]

/-- Errors other than that of a missing program are answered in one message. -/
theorem handle_of_error {seq : Nat} {w' : World}
    (hparse : Request.parse command arguments = .ok request)
    (hdispatch : w.dispatch request = (.error e, w')) (hprogram : ∀ path, e ≠ .missingTool path) :
    w.handle seq command arguments =
      ⟨[⟨w'.server.seq + 1, "response", .response seq false command (some e.message) none⟩],
        .ok true, w'.withServer { w'.server with seq := w'.server.seq + 1 }⟩ := by
  have hfailure : failure seq command e =
      [.ok (.response seq false command (some e.message) none)] := by
    cases e with
    | missingTool path => exact absurd rfl (hprogram path)
    | _ => rfl
  have hstays : request ≠ .disconnect := by
    rintro rfl
    cases hdispatch
  unfold handle
  rw [hparse]
  split
  · next heq => cases heq
  · next heq => exact absurd (Except.ok.inj heq) hstays
  · next heq =>
    obtain rfl := Except.ok.inj heq
    rw [hdispatch]
    dsimp only
    rw [hfailure]
    rfl

/-- A request is told that a document is not open exactly if it needs one that is not. A request
that is refused for this, or because it cannot be read or its settings do not fit, is answered in
one message. All else is as before the request, runs and documents with their sessions and texts,
the machine and the settings. Only requests to show or to hide states have set whether states are
shown, whichever document they named. -/
theorem refused_keeps (h : w.Reached) :
    (∀ request uri, (w.dispatch request).1 = .error (.unknownDocument uri) ↔
      w.sought? request = some uri ∧ w.server.documents.get? uri = none) ∧
    ∀ seq command arguments e, w.Refused command arguments e →
      w.handle seq command arguments =
        ⟨[⟨w.server.seq + 1, "response", .response seq false command (some e.message) none⟩],
          .ok true, w.withServer { w.server with
            seq := w.server.seq + 1
            settings := { w.server.settings with
              showStates := ((Request.parse command arguments).toOption.bind Request.flag?).getD
                w.server.settings.showStates } }⟩ := by
  refine ⟨dispatch_eq_unknownDocument_iff h.orderly, fun seq command arguments e hrefused => ?_⟩
  cases hrefused with
  | misread hparse => simp only [handle, hparse]; rfl
  | @misfit value _ hparse hmerge =>
    have hdispatch := dispatch_of_misfit hmerge
    have hprogram : ∀ path, e ≠ .missingTool path := by
      obtain ⟨m, rfl⟩ | ⟨v, rfl⟩ | rfl := Settings.merge_eq_error hmerge <;> rintro path ⟨⟩
    rw [handle_of_error hparse hdispatch hprogram, hparse]
    rfl
  | @unopened request uri hparse hunknown =>
    obtain ⟨hsought, hclosed⟩ := (dispatch_eq_unknownDocument_iff h.orderly request uri).mp hunknown
    have hprogram : ∀ path, Error.unknownDocument uri ≠ .missingTool path := by rintro path ⟨⟩
    rw [handle_of_error hparse (dispatch_of_sought hsought hclosed) hprogram, hparse]
    rfl

/-- A request to close a document that is not open changes nothing. -/
theorem refused_keeps_of_close :
    let w := twoStatesShown true
    let arguments := some (Json.object [("uri", .string "x")])
    w.Refused "closeDocument" arguments (.unknownDocument "x") ∧
      w.handle 7 "closeDocument" arguments =
        ⟨[⟨w.server.seq + 1, "response",
            .response 7 false "closeDocument" (some "no session for document x") none⟩], .ok true,
          w.withServer { w.server with seq := w.server.seq + 1 }⟩ := by
  intro w arguments
  have hparse : Request.parse "closeDocument" arguments = .ok (.close "x") := rfl
  obtain ⟨hunknown, hkeeps⟩ := refused_keeps (reached_twoStatesShown true)
  have hrefused : w.Refused "closeDocument" arguments (.unknownDocument "x") :=
    .unopened hparse ((hunknown (.close "x") "x").mpr ⟨rfl, rfl⟩)
  refine ⟨hrefused, ?_⟩
  rw [hkeeps 7 "closeDocument" arguments _ hrefused, hparse]
  rfl

/-- A request to show the states of a document that is not open is refused, and from now on states
are shown. -/
theorem refused_show_sets_flag :
    let arguments := some (Json.object [("uri", .string "x")])
    emptyWorld.Reached ∧ emptyWorld.Refused "showStates" arguments (.unknownDocument "x") ∧
      emptyWorld.server.settings.showStates = false ∧
      (emptyWorld.handle 1 "showStates" arguments).world.server.settings.showStates = true := by
  intro arguments
  have hparse : Request.parse "showStates" arguments = .ok (.showStates "x") := rfl
  exact ⟨.start _ _, .unopened hparse rfl, rfl, rfl⟩

end World

end Waymark
