import Mathlib.Logic.Relation
import Waymark.Proofs.Session.Frame
import Waymark.Server.Serve

/-! What requests do to the server and its machine, said once as steps of a few kinds. What every
step keeps, every request keeps, and so does every run. -/

namespace Waymark

theorem Server.document_eq_ok {s : Server} {uri : String} {doc : OpenDocument} :
    s.document uri = .ok doc ↔ s.documents.get? uri = some doc := by
  unfold Server.document
  cases s.documents.get? uri <;> simp

namespace World
variable {allowed : Request → Prop} {w w' : World} {uri : String} {doc : OpenDocument}
  {s : Session}

/-- A step of what the requests that are `allowed` do. -/
inductive Change (allowed : Request → Prop) : World → World → Prop
  /-- Something else than the documents changes on the server; the directory of the heaps only if
  settings are laid over. -/
  | server {w : World} {s : Server} : s.documents = w.server.documents →
      s.settings.heapDirectory = w.server.settings.heapDirectory ∨
        (∃ value, allowed (.configure value) ∧
          w.server.settings.merge value = .ok s.settings) →
      Change allowed w (w.withServer s)
  /-- A document is opened, or opened again. -/
  | opened {w : World} {snapshot : Snapshot} {editor : TextDocument} {session : Session} :
      allowed (.storeRun snapshot) → w.openEditor snapshot = .ok editor →
      Session.SameDocument
        (((w.server.documents.get? snapshot.uri).map (·.session)).getD (.ofUri snapshot.uri))
        session →
      Change allowed w (w.setDocument snapshot.uri ⟨session, editor⟩)
  /-- A session goes on, and its document stays as it is. -/
  | session {w : World} {uri : String} {doc : OpenDocument} {s : Session} :
      w.server.documents.get? uri = some doc → doc.session.SameDocument s →
      Change allowed w (w.setDocument uri { doc with session := s })
  /-- A heap is rendered. -/
  | rendered {w : World} {host : Host} :
      Host.Rendered w.server.settings.heapDirectory w.host host →
      Change allowed w { w with host }
  /-- The anchors of an open document are added or removed. -/
  | attempted {w : World} {uri : String} {doc : OpenDocument} (op : Anchor.Operation) :
      w.server.documents.get? uri = some doc →
      Change allowed w (w.afterAttempt uri (doc.session.attempt op (w.buffer doc)))
  /-- The states of an open document are shown. -/
  | shown {w : World} {uri : String} {doc : OpenDocument} :
      w.server.documents.get? uri = some doc →
      Change allowed w (w.afterAttempt uri (doc.session.showStates (w.buffer doc)))
  /-- A document is forgotten, and its anchors are taken out. -/
  | closed {w : World} {uri : String} {doc : OpenDocument} :
      w.server.documents.get? uri = some doc →
      Change allowed w ((w.withServer
        { w.server with documents := Table.erase uri w.server.documents }).closeEditor doc).2

/-- What comes of any number of steps. -/
abbrev Changes (allowed : Request → Prop) : World → World → Prop :=
  Relation.ReflTransGen (Change allowed)

theorem Changes.one (h : Change allowed w w') : Changes allowed w w' := .single h

/-- What every step keeps still holds at the end. -/
theorem Changes.keep {P : World → Prop} (hstep : ∀ w w', Change allowed w w' → P w → P w')
    (hchanges : Changes allowed w w') (h : P w) : P w' := by
  induction hchanges with
  | refl => exact h
  | tail _ hchange ih => exact hstep _ _ hchange ih

/-- A heap graph that arrives at a session may be rendered, and the session goes on. -/
theorem changes_acceptHeap {host : Host} (hdoc : w.server.documents.get? uri = some doc)
    (hhost : Host.Rendered w.server.settings.heapDirectory w.host host)
    (hs : doc.session.SameDocument s) :
    Changes allowed w ({ w with host }.setDocument uri { doc with session := s }) :=
  (Changes.one (.rendered hhost)).tail (.session hdoc hs)

theorem changes_answerHeap (w : World) (request : HeapRequest) :
    Changes allowed w (w.answerHeap request).2 := by
  unfold answerHeap
  split
  · exact .refl
  · next graph _ =>
    dsimp only
    split
    · exact .refl
    · next r _ =>
      split
      · exact .refl
      · next doc hdoc =>
        have hdoc := Server.document_eq_ok.mp hdoc
        have hsame := Session.sameDocument_acceptHeap doc.session graph w.server.settings r w.host
        have hhost := Session.rendered_acceptHeap doc.session graph w.server.settings r w.host
        split
        · next heq =>
          rw [heq] at hsame hhost
          exact changes_acceptHeap hdoc hhost hsame
        · next heq =>
          rw [heq] at hsame hhost
          exact changes_acceptHeap hdoc hhost hsame
        · next heq =>
          rw [heq] at hsame hhost
          exact changes_acceptHeap hdoc hhost
            (hsame.trans (Session.sameDocument_applyTrace _ _))

theorem changes_setRuns (w : World) (runs : Runs) :
    Changes allowed w (w.withServer { w.server with runs }) :=
  .one (.server rfl (.inl rfl))

theorem changes_configure {value : Json} (h : allowed (.configure value)) :
    Changes allowed w (w.configure value).2 := by
  unfold configure
  split
  · exact .refl
  · next settings hmerge => exact .one (.server rfl (.inr ⟨value, h, hmerge⟩))

theorem changes_storeRun {snapshot : Snapshot} (h : allowed (.storeRun snapshot)) :
    Changes allowed w (w.storeRun snapshot).2 := by
  unfold storeRun
  dsimp only
  split
  · exact .refl
  · next editor hopen =>
    have hruns : Changes allowed w _ :=
      changes_setRuns w (w.server.runs.store snapshot.uri snapshot.steps)
    split
    · exact hruns.tail (.opened h hopen (.refl _))
    · next session hstore =>
      have hopened := hruns.tail (.opened h hopen (Session.sameDocument_storeSnapshot hstore))
      split
      · have hshown := hopened.tail (.shown Table.get?_insert_self)
        split <;> next heq => exact congrArg (·.2.2) heq ▸ hshown
      · exact hopened

theorem changes_onPosition (p : Position) (mode : Mode)
    (hdoc : w.server.documents.get? uri = some doc) :
    Changes allowed w
      (w.setDocument uri { doc with session := (doc.session.onPosition p mode).2 }) :=
  .one (.session hdoc (Session.sameDocument_onPosition doc.session p mode))

theorem changes_showHeap (w : World) (wanted : HeapRequest) :
    Changes allowed w (w.showHeap wanted).2 := by
  unfold showHeap
  split
  · split
    · exact .refl
    · next doc hdoc =>
      split
      · have hrequest : Changes allowed w (w.setDocument wanted.uri
            { doc with session := (doc.session.requestHeap wanted.state).2 }) :=
          .one (.session (Server.document_eq_ok.mp hdoc) ⟨rfl, rfl⟩)
        exact hrequest.trans (changes_answerHeap _ _)
      · exact .refl
  · exact .refl

theorem changes_point (w : World) (p : Pointing) : Changes allowed w (w.point p).2 := by
  unfold point
  split
  · split
    · exact .refl
    · next doc hdoc =>
      have hmoved : Changes allowed w _ := changes_onPosition p.position w.server.settings.mode
        (Server.document_eq_ok.mp hdoc)
      dsimp only
      split
      · exact hmoved
      · exact hmoved
      · next request _ =>
        have hanswer := hmoved.trans (changes_answerHeap _ request)
        split <;> next heq => exact congrArg (·.2) heq ▸ hanswer
  · exact .refl

theorem changes_setShowStates (w : World) (flag : Bool) :
    Changes allowed w (w.setShowStates flag) :=
  .one (.server rfl (.inl rfl))

theorem changes_showStates (w : World) (uri : String) :
    Changes allowed w (w.showStates uri).2 := by
  have hflag : Changes allowed w _ := changes_setShowStates w true
  unfold showStates
  dsimp only
  split
  · exact hflag
  · next doc hdoc =>
    have hshown := hflag.tail (.shown (Server.document_eq_ok.mp hdoc))
    split <;> next heq => exact congrArg (·.2.2) heq ▸ hshown

theorem changes_hideStates (w : World) (uri : String) :
    Changes allowed w (w.hideStates uri).2 := by
  have hflag : Changes allowed w _ := changes_setShowStates w false
  unfold hideStates
  dsimp only
  split
  · exact hflag
  · next doc hdoc => exact hflag.tail (.session (Server.document_eq_ok.mp hdoc) ⟨rfl, rfl⟩)

theorem changes_pin (w : World) (op : Anchor.Operation) (uri : String) :
    Changes allowed w (w.pin op uri).2 := by
  unfold pin
  split
  · exact .refl
  · next doc hdoc => exact .one (.attempted op (Server.document_eq_ok.mp hdoc))

theorem changes_close (w : World) (uri : String) : Changes allowed w (w.close uri).2 := by
  unfold close
  split
  · exact .refl
  · next doc hdoc =>
    have hclosed : Changes allowed w _ := .one (.closed (Server.document_eq_ok.mp hdoc))
    dsimp only
    split
    · next heq => exact congrArg (·.2) heq ▸ hclosed
    · next heq =>
      rw [heq] at hclosed
      exact hclosed.trans (changes_setRuns _ _)

/-- All that a request does is in steps of these kinds. -/
theorem changes_dispatch {request : Request} (h : allowed request) :
    Changes allowed w (w.dispatch request).2 := by
  cases request with
  | configure value => exact changes_configure h
  | storeRun snapshot => exact changes_storeRun h
  | getTrace request => exact .refl
  | showHeap request => exact changes_showHeap w request
  | point pointing => exact changes_point w pointing
  | showStates uri => exact changes_showStates w uri
  | hideStates uri => exact changes_hideStates w uri
  | addMarkers uri => exact changes_pin w .add uri
  | removeMarkers uri => exact changes_pin w .remove uri
  | close uri => exact changes_close w uri
  | stop uri => exact changes_setRuns w _
  | disconnect => exact .refl

theorem changes_stripAll (w : World) (uris : List String) :
    Changes allowed w (w.stripAll uris) := by
  induction uris generalizing w with
  | nil => exact .refl
  | cons uri uris ih =>
    unfold stripAll
    split
    · exact ih w
    · next doc hdoc => exact .head (.attempted .remove hdoc) (ih _)

theorem changes_sendAll (w : World) (contents : List Content) :
    Changes allowed w (w.sendAll contents).2 := by
  induction contents generalizing w with
  | nil => exact .refl
  | cons content contents ih =>
    have hsent : Changes allowed w (w.send content).2 := .one (.server rfl (.inl rfl))
    exact hsent.trans (ih _)

theorem changes_respond (w : World) (contents : List (Except Error Content)) :
    Changes allowed w (w.respond contents).world := changes_sendAll w _

theorem changes_handle {seq : Nat} {command : String} {arguments : Option Json}
    (h : ∀ request, Request.parse command arguments = .ok request → allowed request) :
    Changes allowed w (w.handle seq command arguments).world := by
  unfold handle
  split
  · exact changes_sendAll w _
  · exact (changes_stripAll w _).trans (changes_sendAll _ _)
  · next request _ hparse =>
    have hdispatch := changes_dispatch (w := w) (h request hparse)
    split <;> next heq =>
      rw [heq] at hdispatch
      exact hdispatch.trans (changes_respond _ _)

end World

end Waymark
