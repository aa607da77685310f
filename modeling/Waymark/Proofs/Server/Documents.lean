import Waymark.Proofs.Server.Leaving

/-! What a request does to the documents. It goes on with the session of the document it is about,
in turns of a few kinds, and leaves every other document as it is. -/

namespace Waymark

/-- The document that a request is about, if it is about one. -/
def Request.uri? : Request → Option String
  | .configure _ => none
  | .storeRun snapshot => some snapshot.uri
  | .getTrace request => some request.uri
  | .showHeap request => some request.uri
  | .point pointing => some pointing.uri
  | .showStates uri => some uri
  | .hideStates uri => some uri
  | .addMarkers uri => some uri
  | .removeMarkers uri => some uri
  | .close uri => some uri
  | .stop uri => some uri
  | .disconnect => none

namespace Session

/-- A session after a heap graph has come for it. If the graph was taken, the trace of its state has
been taken too. -/
def answer (s : Session) (runs : Runs) (graph : HeapGraph) (settings : Settings) (r : Renderer)
    (h : Host) : Session :=
  match s.acceptHeap graph settings r h with
  | (.ok (some request), s, _) => (s.applyTrace (runs.trace request settings.mode)).2
  | (_, s, _) => s

/-- One turn of a session while a request is carried out. -/
inductive Turn (request : Request) : Session → Session → Prop
  | stored {s s' : Session} {snapshot : Snapshot} : request = .storeRun snapshot →
      s.storeSnapshot snapshot = .ok s' → Turn request s s'
  /-- Anchors are added or removed, or the markers are shown or hidden. -/
  | placed {s : Session} {board : Board} {shown : Bool} :
      board.markers.map Board.unplaced = s.board.markers.map Board.unplaced →
      Turn request s { s with board, shown }
  | asked {s : Session} (state : Nat) : Turn request s (s.requestHeap state).2
  | pointed {s : Session} {p : Pointing} (mode : Mode) : request = .point p →
      Turn request s (s.onPosition p.position mode).2
  | answered {s : Session} {runs : Runs} {wanted : HeapRequest} {graph : HeapGraph}
      {settings : Settings} {r : Renderer} {h : Host} : runs.heapGraph? wanted = some graph →
      Turn request s (s.answer runs graph settings r h)

theorem turn_attempt {ε : Type} [Editor ε] {request : Request} (op : Anchor.Operation) (s : Session)
    (e : ε) : Turn request s (s.attempt op e).session := by
  obtain ⟨board, hsession, hboard⟩ := session_attempt op s e
  rw [hsession]
  exact .placed hboard

theorem turn_showStates {ε : Type} [Editor ε] {request : Request} (s : Session) (e : ε) :
    Turn request s (s.showStates e).session := by
  obtain ⟨board, shown, hsession, hboard⟩ := session_showStates s e
  rw [hsession]
  exact .placed hboard

end Session

namespace World
variable {w w' w'' : World} {request : Request} {uri named : String} {doc : OpenDocument}
  {s : Session}

/-- One turn of the entry for a document while a request is carried out. -/
inductive Fares (request : Request) (uri : String) :
    Option OpenDocument → Option OpenDocument → Prop
  | turn {doc : OpenDocument} {s : Session} (editor : TextDocument) : request.uri? = some uri →
      doc.session.Turn request s → Fares request uri (some doc) (some ⟨s, editor⟩)
  | opened {snapshot : Snapshot} (editor : TextDocument) : request = .storeRun snapshot →
      snapshot.uri = uri → Fares request uri none (some ⟨.ofUri uri, editor⟩)
  | closed {doc : OpenDocument} : request = .close uri → Fares request uri (some doc) none

/-- Whatever becomes of the documents between two worlds, a request does it in turns. -/
def Faring (request : Request) (w w' : World) : Prop :=
  ∀ uri, Relation.ReflTransGen (Fares request uri) (w.server.documents.get? uri)
    (w'.server.documents.get? uri)

theorem Faring.of_documents (h : w'.server.documents = w.server.documents) :
    Faring request w w' := by
  intro uri
  rw [h]

theorem Faring.refl (w : World) : Faring request w w := .of_documents rfl

theorem Faring.trans (h : Faring request w w') (h' : Faring request w' w'') :
    Faring request w w'' :=
  fun uri => (h uri).trans (h' uri)

/-- A change of one entry by turns is a change by turns. -/
theorem Faring.of_entry (named : String) (hothers : ∀ uri, uri ≠ named →
      w'.server.documents.get? uri = w.server.documents.get? uri)
    (hnamed : Relation.ReflTransGen (Fares request named) (w.server.documents.get? named)
      (w'.server.documents.get? named)) : Faring request w w' := by
  intro uri
  by_cases heq : uri = named
  · subst heq
    exact hnamed
  · rw [hothers uri heq]

theorem get?_setDocument_of_ne (h : uri ≠ named) (doc : OpenDocument) :
    (w.setDocument named doc).server.documents.get? uri = w.server.documents.get? uri := by
  rw [get?_setDocument, if_neg h]

theorem get?_setDocument_self (w : World) (uri : String) (doc : OpenDocument) :
    (w.setDocument uri doc).server.documents.get? uri = some doc := by
  rw [get?_setDocument, if_pos rfl]

/-- The session of an open document goes on. -/
theorem Faring.turn (hdoc : w.server.documents.get? named = some doc)
    (hnamed : request.uri? = some named) (hturn : doc.session.Turn request s)
    (editor : TextDocument) : Faring request w (w.setDocument named ⟨s, editor⟩) := by
  refine .of_entry named (fun uri hne => get?_setDocument_of_ne hne _) ?_
  rw [hdoc, get?_setDocument_self]
  exact .single (.turn editor hnamed hturn)

theorem faring_showStatesOf (hdoc : w.server.documents.get? named = some doc)
    (hnamed : request.uri? = some named) :
    Faring request w (w.showStatesOf named doc).2.2 :=
  Faring.turn hdoc hnamed (Session.turn_showStates doc.session (w.buffer doc)) _

theorem faring_answerHeap {wanted : HeapRequest} (hnamed : request.uri? = some wanted.uri) :
    Faring request w (w.answerHeap wanted).2 := by
  unfold answerHeap
  split
  · exact .refl w
  · next graph hgraph =>
    dsimp only
    split
    · exact .refl w
    · next r _ =>
      split
      · exact .refl w
      · next doc hdoc =>
        have hturn : doc.session.Turn request
            (doc.session.answer w.server.runs graph w.server.settings r w.host) :=
          .answered hgraph
        have hfaring := Faring.turn (Server.document_eq_ok.mp hdoc) hnamed hturn doc.editor
        unfold Session.answer at hfaring
        split <;> next heq =>
          rw [heq] at hfaring
          exact hfaring

theorem faring_storeRun (w : World) (snapshot : Snapshot) :
    Faring (.storeRun snapshot) w (w.storeRun snapshot).2 := by
  unfold storeRun
  dsimp only
  split
  · exact .refl w
  · next editor _ =>
    -- The document is there from now on, with its old session or with a new one.
    generalize hruns : w.withServer { w.server with
      runs := w.server.runs.store snapshot.uri snapshot.steps } = w₁
    have hdocuments : w₁.server.documents = w.server.documents := hruns ▸ rfl
    generalize hsession : ((w₁.server.documents.get? snapshot.uri).map (·.session)).getD
      (.ofUri snapshot.uri) = session
    have hopened : Faring (.storeRun snapshot) w
        (w₁.setDocument snapshot.uri ⟨session, editor⟩) := by
      refine .of_entry snapshot.uri (fun uri hne => ?_) ?_
      · rw [get?_setDocument_of_ne hne, hdocuments]
      · rw [get?_setDocument_self, ← hsession, hdocuments]
        cases w.server.documents.get? snapshot.uri with
        | none => exact .single (.opened editor rfl rfl)
        | some doc => exact .single (.turn editor rfl (.placed rfl))
    split
    · exact hopened
    · next stored hstored =>
      have hfresh : Faring (.storeRun snapshot) w
          (w₁.setDocument snapshot.uri ⟨stored, editor⟩) := by
        refine .of_entry snapshot.uri (fun uri hne => ?_) ?_
        · rw [get?_setDocument_of_ne hne, hdocuments]
        · have hentry := hopened snapshot.uri
          rw [get?_setDocument_self] at hentry ⊢
          exact hentry.tail (.turn editor rfl (.stored rfl hstored))
      split
      · have hshown := hfresh.trans (faring_showStatesOf (get?_setDocument_self _ _ _) rfl)
        split <;> next heq => exact congrArg (·.2.2) heq ▸ hshown
      · exact hfresh

theorem faring_showHeap (horderly : w.Orderly) (wanted : HeapRequest) :
    Faring (.showHeap wanted) w (w.showHeap wanted).2 := by
  unfold showHeap
  split
  · split
    · exact .refl w
    · next doc hdoc =>
      have hdoc := Server.document_eq_ok.mp hdoc
      split
      · have hasked : Faring (.showHeap wanted) w _ :=
          .turn hdoc rfl (.asked wanted.state) doc.editor
        have huri : doc.session.uri = wanted.uri := (horderly _ doc hdoc).1
        exact hasked.trans (faring_answerHeap (congrArg some huri.symm))
      · exact .refl w
  · exact .refl w

/-- What the cursor asks for, it asks for in the name of the session's own document. -/
theorem uri_of_onPosition {p : Position} {mode : Mode} {wanted : HeapRequest}
    (h : (s.onPosition p mode).1 = .requestHeap wanted) : wanted.uri = s.uri := by
  unfold Session.onPosition at h
  split at h
  · split at h
    · cases h
    · unfold Session.onMarker at h
      split at h <;> split at h <;> cases h <;> rfl
  · cases h

theorem faring_point (horderly : w.Orderly) (p : Pointing) :
    Faring (.point p) w (w.point p).2 := by
  unfold point
  split
  · split
    · exact .refl w
    · next doc hdoc =>
      have hdoc := Server.document_eq_ok.mp hdoc
      have hpointed : Faring (.point p) w _ :=
        .turn hdoc rfl (.pointed w.server.settings.mode rfl) doc.editor
      dsimp only
      split
      · exact hpointed
      · exact hpointed
      · next wanted haction =>
        have huri : wanted.uri = p.uri :=
          (uri_of_onPosition haction).trans (horderly _ doc hdoc).1
        have hanswered := hpointed.trans (faring_answerHeap (congrArg some huri.symm))
        split <;> next heq => exact congrArg (·.2) heq ▸ hanswered
  · exact .refl w

theorem faring_showStates (w : World) (uri : String) :
    Faring (.showStates uri) w (w.showStates uri).2 := by
  have hflag : Faring (.showStates uri) w (w.setShowStates true) := .of_documents rfl
  unfold showStates
  dsimp only
  split
  · exact hflag
  · next doc hdoc =>
    have hshown := hflag.trans (faring_showStatesOf (Server.document_eq_ok.mp hdoc) rfl)
    split <;> next heq => exact congrArg (·.2.2) heq ▸ hshown

theorem faring_hideStates (w : World) (uri : String) :
    Faring (.hideStates uri) w (w.hideStates uri).2 := by
  have hflag : Faring (.hideStates uri) w (w.setShowStates false) := .of_documents rfl
  unfold hideStates
  dsimp only
  split
  · exact hflag
  · next doc hdoc =>
    exact hflag.trans (Faring.turn (Server.document_eq_ok.mp hdoc) rfl (.placed rfl) _)

theorem faring_pin (w : World) (op : Anchor.Operation) (hnamed : request.uri? = some uri) :
    Faring request w (w.pin op uri).2 := by
  unfold pin
  split
  · exact .refl w
  · next doc hdoc =>
    exact .turn (Server.document_eq_ok.mp hdoc) hnamed (Session.turn_attempt op doc.session _) _

theorem faring_close (w : World) (uri : String) : Faring (.close uri) w (w.close uri).2 := by
  unfold close
  split
  · exact .refl w
  · next doc hdoc =>
    have hclosed : Faring (.close uri) w ((w.forget uri).closeEditor doc).2 := by
      refine .of_entry uri (fun other hne => ?_) ?_
      · rw [server_closeEditor, get?_forget, if_neg hne]
      · rw [server_closeEditor, get?_forget, if_pos rfl, Server.document_eq_ok.mp hdoc]
        exact .single (.closed rfl)
    dsimp only
    split
    · next heq => exact congrArg (·.2) heq ▸ hclosed
    · next heq =>
      have hdocuments := congrArg (·.2.server.documents) heq
      exact hclosed.trans (.of_documents hdocuments.symm)

/-- All that a request does to the documents is done in turns of these kinds. -/
theorem faring_dispatch (horderly : w.Orderly) (request : Request) :
    Faring request w (w.dispatch request).2 := by
  cases request with
  | configure value =>
    refine .of_documents ?_
    simp only [dispatch, configure]
    split <;> rfl
  | storeRun snapshot => exact faring_storeRun w snapshot
  | getTrace request => exact .refl w
  | showHeap wanted => exact faring_showHeap horderly wanted
  | point p => exact faring_point horderly p
  | showStates uri => exact faring_showStates w uri
  | hideStates uri => exact faring_hideStates w uri
  | addMarkers uri => exact faring_pin w .add rfl
  | removeMarkers uri => exact faring_pin w .remove rfl
  | close uri => exact faring_close w uri
  | stop uri => exact .of_documents rfl
  | disconnect => exact .refl w

end World

end Waymark
