import Waymark.Proofs.Server.Redisplay
import Waymark.Proofs.Server.Retention
import Waymark.Proofs.Session.Accepting
import Waymark.Proofs.Session.Correlation

/-! What a request does, said once and in full: which document it changes, what becomes of its
session, and what it does on the machine. -/

namespace Waymark

namespace Session
variable {ε : Type} [Editor ε] {s s' s'' : Session}

/-- A session goes on with the markers that it has, shown or hidden as they are, and gets no new
heap. -/
structure GoesOn (s s' : Session) : Prop where
  markers : s'.board.markers.map Marker.bare = s.board.markers.map Marker.bare
  shown : s'.shown = s.shown
  heaps : ∀ slot heap, s'.heaps.get slot = some heap → s.heaps.get slot = some heap

theorem GoesOn.refl (s : Session) : s.GoesOn s := ⟨rfl, rfl, fun _ _ h => h⟩

theorem GoesOn.trans (h : s.GoesOn s') (h' : s'.GoesOn s'') : s.GoesOn s'' :=
  ⟨h'.markers.trans h.markers, h'.shown.trans h.shown,
    fun slot heap hheap => h.heaps slot heap (h'.heaps slot heap hheap)⟩

theorem goesOn_attempt (op : Anchor.Operation) (s : Session) (e : ε) :
    s.GoesOn (s.attempt op e).session := by
  obtain ⟨board, hsession, hboard⟩ := session_attempt op s e
  rw [hsession]
  exact ⟨Board.map_bare_of_unplaced hboard, rfl, fun _ _ h => h⟩

theorem get_discardPending {h : HeapSlots} {slot : Slot} {heap : RenderedHeap}
    (hheap : h.discardPending.get slot = some heap) : h.get slot = some heap := by
  obtain ⟨first, second, next, focus⟩ := h
  cases focus <;> cases slot <;> first | exact hheap | cases hheap

theorem goesOn_onPosition (s : Session) (p : Position) (mode : Mode) :
    s.GoesOn (s.onPosition p mode).2 := by
  obtain haction | ⟨m, -, -, haction⟩ | ⟨m, current, -, -, -, haction⟩ := s.onPosition_cases p mode
  · rw [haction]
    exact .refl s
  · rw [haction]
    exact ⟨rfl, rfl, fun _ _ => get_discardPending⟩
  · rw [haction]
    exact ⟨rfl, rfl, fun _ _ h => h⟩

/-- Markers as their run says and whether they are shown are not changed by selecting one. -/
theorem beginMark_keeps (s : Session) (state : Nat) :
    (s.beginMark state).2.shown = s.shown ∧
      (s.beginMark state).2.board.markers.map Marker.bare = s.board.markers.map Marker.bare ∧
      (s.beginMark state).2.heaps = s.heaps := by
  unfold beginMark
  split
  · exact ⟨rfl, Board.map_bare_repaint, rfl⟩
  · exact ⟨rfl, rfl, rfl⟩

theorem applyTrace_keeps (s : Session) (trace : TraceReply) :
    (s.applyTrace trace).2.shown = s.shown ∧
      (s.applyTrace trace).2.board.markers.map Marker.bare = s.board.markers.map Marker.bare ∧
      (s.applyTrace trace).2.heaps = s.heaps := by
  unfold applyTrace
  split
  · exact ⟨rfl, Board.map_bare_highlight, rfl⟩
  · exact ⟨rfl, rfl, rfl⟩

end Session

theorem Runs.uri_of_heapGraph? {runs : Runs} {wanted : HeapRequest} {graph : HeapGraph}
    (h : runs.heapGraph? wanted = some graph) : graph.uri = wanted.uri := by
  unfold heapGraph? at h
  split at h
  · cases h
  · obtain ⟨step, -, rfl⟩ := Option.map_eq_some_iff.mp h
    rfl

/-- A description of a heap that is rendered for a state of a document, into one of its slots. -/
structure Rendering where
  uri : String
  slot : Slot
  state : Nat
  description : String
deriving DecidableEq, Repr

namespace World
variable {w w' w₁ : World} {request : Request} {wanted : HeapRequest} {uri : String}
  {doc : OpenDocument}

/-- The heap that a request comes to ask for, and the world that it asks in. -/
def heapAsked? (w : World) (request : Request) : Option (HeapRequest × World) :=
  match request with
  | .showHeap wanted =>
    match w.server.documents.get? wanted.uri with
    | none => none
    | some doc =>
      if w.server.settings.showStates ∧ doc.session.isReady then
        let (wanted', session) := doc.session.requestHeap wanted.state
        some (wanted', w.setDocument wanted.uri { doc with session })
      else none
  | .point p =>
    match w.server.documents.get? p.uri with
    | none => none
    | some doc =>
      match doc.session.onPosition p.position w.server.settings.mode with
      | (.requestHeap wanted, session) =>
        if w.server.settings.showStates then
          some (wanted, w.setDocument p.uri { doc with session })
        else none
      | _ => none
  | _ => none

/-- What is rendered when a heap is asked for: its description in the document's run, if the
session takes it and there is a renderer. -/
def renderingFor? (w : World) (wanted : HeapRequest) : Option Rendering :=
  match w.server.runs.heapGraph? wanted, Renderer.ofSettings w.host.disk w.server.settings,
    w.server.documents.get? wanted.uri with
  | some graph, .ok _, some doc =>
    (doc.session.wants? graph w.server.settings.mode).map fun slot =>
      ⟨wanted.uri, slot, graph.state, graph.heap⟩
  | _, _, _ => none

/-- What a request comes to render. -/
def rendering? (w : World) (request : Request) : Option Rendering :=
  (w.heapAsked? request).bind fun (wanted, w₁) => w₁.renderingFor? wanted

/-- A heap is asked for in the name of an open document, whose session goes on, and what is answered
goes back with the answer to the request. -/
structure Asking (w : World) (request : Request) (wanted : HeapRequest) (w₁ : World)
    (doc : OpenDocument) (s : Session) : Prop where
  storesNothing : ∀ snapshot, request ≠ .storeRun snapshot
  opened : w.server.documents.get? wanted.uri = some doc
  same : doc.session.SameDocument s
  goesOn : doc.session.GoesOn s
  world : w₁ = w.setDocument wanted.uri { doc with session := s }
  answer : ∃ f : Reply → Reply, (w.dispatch request).1 = (w₁.answerHeap wanted).1.map f
  after : (w.dispatch request).2 = (w₁.answerHeap wanted).2

theorem heapAsked?_showHeap (horderly : w.Orderly) {asked : HeapRequest}
    (h : w.heapAsked? (.showHeap asked) = some (wanted, w₁)) :
    ∃ doc s, w.Asking (.showHeap asked) wanted w₁ doc s := by
  unfold heapAsked? at h
  dsimp only at h
  split at h
  · cases h
  · next doc hdoc =>
    split at h
    · next hready =>
      obtain ⟨rfl, rfl⟩ := Prod.mk.inj (Option.some.inj h)
      have huri : (doc.session.requestHeap asked.state).1.uri = asked.uri :=
        (horderly _ doc hdoc).1
      have hdispatch : w.dispatch (.showHeap asked) = (w.setDocument asked.uri
          { doc with session := (doc.session.requestHeap asked.state).2 }).answerHeap
            (doc.session.requestHeap asked.state).1 := by
        rw [dispatch, showHeap, if_pos hready.1, Server.document_eq_ok.mpr hdoc]
        exact if_pos hready.2
      refine ⟨doc, (doc.session.requestHeap asked.state).2, {
        storesNothing _ h := by cases h
        opened := huri ▸ hdoc
        same := ⟨rfl, rfl⟩
        goesOn := ⟨rfl, rfl, fun _ _ h => h⟩
        world := by rw [huri]
        answer := ⟨id, ?_⟩
        after := congrArg Prod.snd hdispatch }⟩
      rw [hdispatch]
      cases (World.answerHeap _ _).1 <;> rfl
    · cases h

theorem heapAsked?_point (horderly : w.Orderly) {p : Pointing}
    (h : w.heapAsked? (.point p) = some (wanted, w₁)) :
    ∃ doc s, w.Asking (.point p) wanted w₁ doc s := by
  unfold heapAsked? at h
  dsimp only at h
  split at h
  · cases h
  · next doc hdoc =>
    split at h
    · next session haction =>
      split at h
      · next hshow =>
        obtain ⟨rfl, rfl⟩ := Prod.mk.inj (Option.some.inj h)
        have huri := (uri_of_onPosition (congrArg Prod.fst haction)).trans (horderly _ doc hdoc).1
        obtain ⟨hanswer, hworld⟩ := point_of_requestHeap hshow hdoc haction
        have hsame := Session.sameDocument_onPosition doc.session p.position w.server.settings.mode
        have hgoesOn := Session.goesOn_onPosition doc.session p.position w.server.settings.mode
        rw [haction] at hsame hgoesOn
        exact ⟨doc, session, {
          storesNothing _ h := by cases h
          opened := huri ▸ hdoc
          same := hsame
          goesOn := hgoesOn
          world := by rw [huri]
          answer := ⟨_, hanswer⟩
          after := hworld }⟩
      · cases h
    · cases h

theorem heapAsked?_eq_some (horderly : w.Orderly)
    (h : w.heapAsked? request = some (wanted, w₁)) :
    ∃ doc s, w.Asking request wanted w₁ doc s := by
  cases request with
  | showHeap asked => exact heapAsked?_showHeap horderly h
  | point p => exact heapAsked?_point horderly h
  | _ => cases h

/-- A heap that is not rendered changes nothing, and nothing is told. -/
theorem answerHeap_of_none (hdoc : w.server.documents.get? wanted.uri = some doc)
    (h : w.renderingFor? wanted = none) :
    ((w.answerHeap wanted).2 = w ∨ (w.answerHeap wanted).2 = w.setDocument wanted.uri doc) ∧
      ∀ reply, (w.answerHeap wanted).1 = .ok reply → reply.events = [] := by
  unfold answerHeap
  unfold renderingFor? at h
  split
  · exact ⟨.inl rfl, fun reply hreply => Except.ok.inj hreply ▸ rfl⟩
  · next graph hgraph =>
    dsimp only
    split
    · exact ⟨.inl rfl, fun _ h => by cases h⟩
    · next r hr =>
      simp only [hgraph, hr, hdoc, Option.map_eq_none_iff] at h
      rw [Server.document_eq_ok.mpr hdoc]
      simp only [Session.acceptHeap, h]
      by_cases huri : graph.uri = doc.session.uri
      · rw [if_pos huri]
        exact ⟨.inr rfl, fun reply hreply => Except.ok.inj hreply ▸ rfl⟩
      · rw [if_neg huri]
        exact ⟨.inr rfl, fun _ h => by cases h⟩

/-- A heap that is rendered is written to the files of its slot. If that works, it is put into the
slot. -/
theorem answerHeap_of_some {r : Rendering} (hdoc : w.server.documents.get? wanted.uri = some doc)
    (own : doc.session.uri = wanted.uri) (h : w.renderingFor? wanted = some r) :
    r.uri = wanted.uri ∧ ∃ (renderer : Renderer) (s : Session),
      let rendered := renderer.writeAndRender w.host
        w.server.settings.heapDirectory r.slot.index r.description
      (w.answerHeap wanted).2 =
        { w with host := rendered.2 }.setDocument wanted.uri { doc with session := s } ∧
      s.shown = doc.session.shown ∧
      s.board.markers.map Marker.bare = doc.session.board.markers.map Marker.bare ∧
      ((∃ e, rendered.1 = .error e ∧ (w.answerHeap wanted).1 = .error e ∧
          s.heaps = doc.session.heaps) ∨
        ∃ svg method position, rendered.1 = .ok svg ∧
          s.heaps = doc.session.heaps.store r.slot ⟨r.state, svg, method, position⟩) := by
  unfold renderingFor? at h
  split at h
  · next graph renderer found hgraph hrenderer hfound =>
    obtain rfl := Option.some.inj (hfound.symm.trans hdoc)
    obtain ⟨slot, hslot, rfl⟩ := Option.map_eq_some_iff.mp h
    have huri : graph.uri = found.session.uri := (Runs.uri_of_heapGraph? hgraph).trans own.symm
    refine ⟨rfl, renderer, ?_⟩
    unfold answerHeap
    simp only [hgraph, hrenderer, Server.document_eq_ok.mpr hdoc, Session.acceptHeap, if_pos huri,
      hslot]
    generalize renderer.writeAndRender w.host w.server.settings.heapDirectory
      slot.index graph.heap = rendered
    obtain ⟨result, host⟩ := rendered
    cases result with
    | error e => exact ⟨found.session, rfl, rfl, rfl, .inl ⟨e, rfl, rfl, rfl⟩⟩
    | ok svg =>
      dsimp only
      obtain ⟨hshown, hmarkers, hheaps⟩ := Session.beginMark_keeps { found.session with
        heaps := found.session.heaps.store slot (.mk graph.state svg graph.method graph.position) }
        graph.state
      generalize Session.beginMark _ graph.state = begun at hshown hmarkers hheaps ⊢
      obtain ⟨trace, s⟩ := begun
      cases trace with
      | none => exact ⟨s, rfl, hshown, hmarkers, .inr ⟨svg, _, _, rfl, hheaps⟩⟩
      | some trace =>
        obtain ⟨hshown', hmarkers', hheaps'⟩ := Session.applyTrace_keeps s
          (w.server.runs.trace trace w.server.settings.mode)
        exact ⟨_, rfl, hshown'.trans hshown, hmarkers'.trans hmarkers,
          .inr ⟨svg, _, _, rfl, hheaps'.trans hheaps⟩⟩
  · cases h

/-- Only the entry of one document is set, to `entry`. -/
structure Sets (uri : String) (entry : Option OpenDocument) (w w' : World) : Prop where
  entry : w'.server.documents.get? uri = entry
  others : ∀ other, other ≠ uri → w'.server.documents.get? other = w.server.documents.get? other

theorem sets_setDocument (doc : OpenDocument)
    (h : ∀ other, other ≠ uri → w₁.server.documents.get? other = w.server.documents.get? other) :
    Sets uri (some doc) w (w₁.setDocument uri doc) :=
  ⟨get?_setDocument_self w₁ uri doc,
    fun other hne => (get?_setDocument_of_ne hne doc).trans (h other hne)⟩

theorem sets_afterAttempt (a : Session.Attempt Buffer)
    (h : ∀ other, other ≠ uri → w₁.server.documents.get? other = w.server.documents.get? other) :
    Sets uri (some ⟨a.session, a.editor.document⟩) w (w₁.afterAttempt uri a) :=
  ⟨(get?_afterAttempt w₁ uri uri a).trans (if_pos rfl),
    fun other hne => (get?_afterAttempt w₁ uri other a).trans ((if_neg hne).trans (h other hne))⟩

/-- The session that a document goes on with, a new one if it is not open. -/
def sessionOf (w : World) (uri : String) : Session :=
  ((w.server.documents.get? uri).map (·.session)).getD (.ofUri uri)

/-- What comes of an attempt to show the markers of a document: it fails, or they are told. -/
inductive Shows (uri : String) (a : Session.Attempt Buffer) : Except Error Reply → Prop
  | failed {e : Error} : a.outcome = .error e → Shows uri a (.error e)
  | told {outcome : Anchor.Outcome} {body : Option Json} (dark : Bool) : a.outcome = .ok outcome →
      Shows uri a (.ok ⟨body, [decorations a.session dark uri]⟩)

/-- What a request can do, its answer, and the world afterwards. -/
inductive Deed (w : World) (request : Request) : Except Error Reply → World → Prop
  /-- Documents and machine stay as they are. -/
  | aside {answer : Except Error Reply} {w' : World} :
      (∀ uri, w'.server.documents.get? uri = w.server.documents.get? uri) → w'.host = w.host →
      (∀ snapshot, request = .storeRun snapshot → ∃ e, w.openEditor snapshot = .error e) →
      Deed w request answer w'
  /-- A run is stored, and its document is opened; nothing is shown. -/
  | stored {snapshot : Snapshot} {editor : TextDocument} {s : Session} {reply : Reply}
      {w' : World} : request = .storeRun snapshot → w.openEditor snapshot = .ok editor →
      (w.sessionOf snapshot.uri).storeSnapshot snapshot = .ok s →
      w.server.settings.showStates = false → Sets snapshot.uri (some ⟨s, editor⟩) w w' →
      w'.host = w.host → Deed w request (.ok reply) w'
  /-- A run is stored, its document is opened, and its states are to be shown. -/
  | storedShown {snapshot : Snapshot} {editor : TextDocument} {s : Session}
      {a : Session.Attempt Buffer} {answer : Except Error Reply} {w' : World} :
      request = .storeRun snapshot → w.openEditor snapshot = .ok editor →
      (w.sessionOf snapshot.uri).storeSnapshot snapshot = .ok s →
      a = s.showStates ⟨editor, w.host.disk⟩ →
      Shows snapshot.uri a answer → Sets snapshot.uri (some ⟨a.session, a.editor.document⟩) w w' →
      w'.host = { w.host with disk := a.editor.disk } → Deed w request answer w'
  | shown {uri : String} {doc : OpenDocument} {a : Session.Attempt Buffer}
      {answer : Except Error Reply} {w' : World} : request = .showStates uri →
      w.server.documents.get? uri = some doc → a = doc.session.showStates (w.buffer doc) →
      Shows uri a answer → Sets uri (some ⟨a.session, a.editor.document⟩) w w' →
      w'.host = { w.host with disk := a.editor.disk } → Deed w request answer w'
  | hidden {uri : String} {doc : OpenDocument} {answer : Except Error Reply} {w' : World} :
      request = .hideStates uri → w.server.documents.get? uri = some doc →
      Sets uri (some { doc with session := doc.session.hideStates }) w w' → w'.host = w.host →
      Deed w request answer w'
  /-- Anchors are put into a document or taken out. -/
  | attempted {uri : String} {doc : OpenDocument} {op : Anchor.Operation}
      {a : Session.Attempt Buffer} {answer : Except Error Reply} {w' : World} :
      (∀ snapshot, request ≠ .storeRun snapshot) → w.server.documents.get? uri = some doc →
      a = doc.session.attempt op (w.buffer doc) →
      Sets uri (some ⟨a.session, a.editor.document⟩) w w' →
      w'.host = { w.host with disk := a.editor.disk } → Deed w request answer w'
  | closed {uri : String} {doc : OpenDocument} {answer : Except Error Reply} {w' : World} :
      request = .close uri → w.server.documents.get? uri = some doc → Sets uri none w w' →
      w'.host = { w.host with disk := w.closedDisk doc } → Deed w request answer w'
  /-- A session goes on, and no heap is rendered. -/
  | moved {uri : String} {doc : OpenDocument} {s : Session} {answer : Except Error Reply}
      {w' : World} : (∀ snapshot, request ≠ .storeRun snapshot) →
      w.server.documents.get? uri = some doc → doc.session.SameDocument s → doc.session.GoesOn s →
      Sets uri (some { doc with session := s }) w w' → w'.host = w.host → Deed w request answer w'
  /-- A heap is rendered. Whether it gets into its slot depends on the machine. -/
  | rendered {r : Rendering} {doc : OpenDocument} {s : Session} {answer : Except Error Reply}
      {w' : World} : (∀ snapshot, request ≠ .storeRun snapshot) → w.rendering? request = some r →
      w.server.documents.get? r.uri = some doc → s.shown = doc.session.shown →
      s.board.markers.map Marker.bare = doc.session.board.markers.map Marker.bare →
      Sets r.uri (some { doc with session := s }) w w' →
      (∀ slot heap, s.heaps.get slot = some heap → doc.session.heaps.get slot = some heap ∨
        heap.svg = HeapSlots.svgPath w.server.settings.heapDirectory slot.index) →
      Deed w request answer w'

theorem deed_unchanged (answer : Except Error Reply)
    (h : ∀ snapshot, request ≠ .storeRun snapshot) : w.Deed request answer w :=
  .aside (fun _ => rfl) rfl fun snapshot heq => absurd heq (h snapshot)

/-- A request that asks for a heap has it rendered, or goes on without it. -/
theorem deed_of_heapAsked (horderly : w.Orderly) (h : w.heapAsked? request = some (wanted, w₁)) :
    w.Deed request (w.dispatch request).1 (w.dispatch request).2 := by
  obtain ⟨doc, s, hasking⟩ := heapAsked?_eq_some horderly h
  have hdoc : w₁.server.documents.get? wanted.uri = some { doc with session := s } := by
    rw [hasking.world, get?_setDocument_self]
  have hothers : ∀ other, other ≠ wanted.uri →
      w₁.server.documents.get? other = w.server.documents.get? other := by
    rw [hasking.world]
    exact fun other hne => get?_setDocument_of_ne hne _
  have hhost : w₁.host = w.host := hasking.world ▸ rfl
  cases hrendering : w₁.renderingFor? wanted with
  | none =>
    refine .moved hasking.storesNothing hasking.opened hasking.same hasking.goesOn ?_ ?_
    all_goals
      rw [hasking.after]
      obtain ⟨hsame | hsame, -⟩ := answerHeap_of_none hdoc hrendering <;> rw [hsame]
    · exact ⟨hdoc, hothers⟩
    · exact sets_setDocument _ hothers
    · exact hhost
    · exact hhost
  | some r =>
    have own : s.uri = wanted.uri := hasking.same.uri.trans (horderly _ doc hasking.opened).1
    obtain ⟨huri, renderer, s', hworld, hshown, hmarkers, hresult⟩ :=
      answerHeap_of_some hdoc own hrendering
    have hheaps : ∀ slot heap, s'.heaps.get slot = some heap →
        s.heaps.get slot = some heap ∨
          heap.svg = HeapSlots.svgPath w.server.settings.heapDirectory slot.index := by
      intro slot heap hheap
      obtain ⟨e, -, -, hsame⟩ | ⟨svg, method, position, hsvg, hstored⟩ := hresult
      · exact .inl (hsame ▸ hheap)
      · rw [hstored, HeapSlots.get_store] at hheap
        split at hheap
        · next hslot =>
          obtain rfl := Option.some.inj hheap
          have hdirectory : w₁.server.settings = w.server.settings := hasking.world ▸ rfl
          rw [hdirectory, ← hslot] at hsvg
          exact .inr (Renderer.svg_of_writeAndRender hsvg)
        · exact .inl hheap
    have hrendered : w.rendering? request = some r := by
      rw [rendering?, h]
      exact hrendering
    refine .rendered hasking.storesNothing hrendered (huri ▸ hasking.opened)
      (hshown.trans hasking.goesOn.shown) (hmarkers.trans hasking.goesOn.markers) ?_
      fun slot heap hheap => (hheaps slot heap hheap).imp_left (hasking.goesOn.heaps slot heap)
    rw [hasking.after, hworld, huri]
    exact sets_setDocument _ hothers

theorem deed_showHeap (horderly : w.Orderly) (asked : HeapRequest) :
    w.Deed (.showHeap asked) (w.showHeap asked).1 (w.showHeap asked).2 := by
  cases h : w.heapAsked? (.showHeap asked) with
  | some => exact deed_of_heapAsked horderly h
  | none =>
    suffices hworld : (w.showHeap asked).2 = w by
      rw [hworld]
      exact deed_unchanged _ nofun
    unfold heapAsked? at h
    unfold showHeap
    split
    · next hshow =>
      split
      · rfl
      · next doc hdoc =>
        simp only [Server.document_eq_ok.mp hdoc, hshow, true_and, ite_eq_right_iff,
          reduceCtorEq, imp_false] at h
        rw [if_neg h]
    · rfl

theorem deed_point (horderly : w.Orderly) (p : Pointing) :
    w.Deed (.point p) (w.point p).1 (w.point p).2 := by
  cases h : w.heapAsked? (.point p) with
  | some => exact deed_of_heapAsked horderly h
  | none =>
    unfold heapAsked? at h
    unfold point
    split
    · next hshow =>
      split
      · exact deed_unchanged _ nofun
      · next doc hdoc =>
        have hdoc := Server.document_eq_ok.mp hdoc
        have hmoved : ∀ answer, w.Deed (.point p) answer _ := fun _ => .moved nofun hdoc
          (Session.sameDocument_onPosition doc.session p.position w.server.settings.mode)
          (Session.goesOn_onPosition doc.session p.position w.server.settings.mode)
          (sets_setDocument _ fun _ _ => rfl) rfl
        dsimp only
        split
        · exact hmoved _
        · exact hmoved _
        · next wanted haction =>
          have haction : doc.session.onPosition p.position w.server.settings.mode =
              (.requestHeap wanted, _) := Prod.ext haction rfl
          simp only [hdoc] at h
          rw [haction] at h
          exact absurd h (by simp [hshow])
    · exact deed_unchanged _ nofun

theorem deed_configure (w : World) (value : Json) :
    w.Deed (.configure value) (w.configure value).1 (w.configure value).2 := by
  unfold configure
  split
  · exact deed_unchanged _ nofun
  · exact .aside (fun _ => rfl) rfl nofun

theorem storeSnapshot_sessionOf (horderly : w.Orderly) (snapshot : Snapshot) :
    ∃ s, (w.sessionOf snapshot.uri).storeSnapshot snapshot = .ok s := by
  have huri : snapshot.uri = (w.sessionOf snapshot.uri).uri := by
    unfold sessionOf
    cases hdoc : w.server.documents.get? snapshot.uri with
    | none => rfl
    | some doc => exact (horderly _ doc hdoc).1.symm
  exact ⟨_, if_pos huri⟩

theorem deed_storeRun (horderly : w.Orderly) (snapshot : Snapshot) :
    w.Deed (.storeRun snapshot) (w.storeRun snapshot).1 (w.storeRun snapshot).2 := by
  obtain ⟨s, hs⟩ := storeSnapshot_sessionOf horderly snapshot
  unfold storeRun
  dsimp only
  split
  · next e heq =>
    exact .aside (fun _ => rfl) rfl fun other hother => ⟨e, by cases hother; exact heq⟩
  · next editor hopen =>
    generalize hruns : w.withServer { w.server with
      runs := w.server.runs.store snapshot.uri snapshot.steps } = w₁
    have hdocuments : w₁.server.documents = w.server.documents := hruns ▸ rfl
    have hhost : w₁.host = w.host := hruns ▸ rfl
    have hflags : w₁.server.settings = w.server.settings := hruns ▸ rfl
    have hsession : ((w₁.server.documents.get? snapshot.uri).map (·.session)).getD
        (.ofUri snapshot.uri) = w.sessionOf snapshot.uri := by rw [hdocuments]; rfl
    simp only [hsession, hs]
    have hothers : ∀ other, other ≠ snapshot.uri →
        (w₁.setDocument snapshot.uri ⟨s, editor⟩).server.documents.get? other =
          w.server.documents.get? other := by
      intro other hne
      rw [get?_setDocument_of_ne hne, hdocuments]
    split
    · have hbuffer : (w₁.setDocument snapshot.uri ⟨s, editor⟩).buffer ⟨s, editor⟩ =
          ⟨editor, w.host.disk⟩ := by rw [← hhost]; rfl
      rw [showStatesOf, hbuffer]
      generalize ha : s.showStates (⟨editor, w.host.disk⟩ : Buffer) = a
      have hsets := sets_afterAttempt a hothers
      obtain ⟨_ | _, session, edited⟩ := a
      · exact .storedShown rfl hopen hs ha.symm (.failed rfl) hsets (hhost ▸ rfl)
      · exact .storedShown rfl hopen hs ha.symm (.told _ rfl) hsets (hhost ▸ rfl)
    · next hflag =>
      have hflag : w.server.settings.showStates = false :=
        (Bool.not_eq_true _).mp (hflags ▸ hflag)
      exact .stored rfl hopen hs hflag ⟨get?_setDocument_self _ _ _, hothers⟩ hhost

theorem deed_showStates (w : World) (uri : String) :
    w.Deed (.showStates uri) (w.showStates uri).1 (w.showStates uri).2 := by
  unfold showStates
  dsimp only
  split
  · exact .aside (fun _ => rfl) rfl nofun
  · next doc hdoc =>
    have hdoc := Server.document_eq_ok.mp hdoc
    unfold showStatesOf
    generalize ha : doc.session.showStates (World.buffer _ doc) = a
    have hsets : Sets uri _ w ((w.setShowStates true).afterAttempt uri a) :=
      sets_afterAttempt a fun _ _ => rfl
    obtain ⟨_ | _, session, edited⟩ := a
    · exact .shown rfl hdoc ha.symm (.failed rfl) hsets rfl
    · exact .shown rfl hdoc ha.symm (.told _ rfl) hsets rfl

theorem deed_hideStates (w : World) (uri : String) :
    w.Deed (.hideStates uri) (w.hideStates uri).1 (w.hideStates uri).2 := by
  unfold hideStates
  dsimp only
  split
  · exact .aside (fun _ => rfl) rfl nofun
  · next doc hdoc =>
    exact .hidden rfl (Server.document_eq_ok.mp hdoc) (sets_setDocument _ fun _ _ => rfl) rfl

theorem deed_pin (op : Anchor.Operation) (hrequest : ∀ snapshot, request ≠ .storeRun snapshot)
    (w : World) (uri : String) : w.Deed request (w.pin op uri).1 (w.pin op uri).2 := by
  unfold pin
  split
  · exact deed_unchanged _ hrequest
  · next doc hdoc =>
    exact .attempted hrequest (Server.document_eq_ok.mp hdoc) rfl
      (sets_afterAttempt _ fun _ _ => rfl) rfl

theorem deed_close (w : World) (uri : String) :
    w.Deed (.close uri) (w.close uri).1 (w.close uri).2 := by
  cases hdoc : w.server.documents.get? uri with
  | none =>
    rw [close, Server.document, hdoc]
    exact deed_unchanged _ fun _ h => by cases h
  | some doc =>
    have hhost : (w.close uri).2.host = { w.host with disk := w.closedDisk doc } := by
      have hcleared := closeEditor_eq (w.forget uri) doc
      unfold close
      rw [Server.document_eq_ok.mpr hdoc]
      dsimp only
      split <;> next heq => exact (congrArg (·.2.host) heq).symm.trans (congrArg (·.host) hcleared)
    have hdocuments : (w.close uri).2.server.documents = (w.forget uri).server.documents := by
      obtain ⟨reply, -, hserver⟩ | ⟨e, -, -, hserver⟩ := close_cases hdoc <;> rw [hserver]
    refine .closed rfl hdoc ⟨get?_close w uri, fun other hne => ?_⟩ hhost
    rw [hdocuments, get?_forget, if_neg hne]

/-- All that a request can do. -/
theorem deed_dispatch (horderly : w.Orderly) (request : Request) :
    w.Deed request (w.dispatch request).1 (w.dispatch request).2 := by
  cases request with
  | configure value => exact deed_configure w value
  | storeRun snapshot => exact deed_storeRun horderly snapshot
  | getTrace request => exact deed_unchanged _ nofun
  | showHeap asked => exact deed_showHeap horderly asked
  | point p => exact deed_point horderly p
  | showStates uri => exact deed_showStates w uri
  | hideStates uri => exact deed_hideStates w uri
  | addMarkers uri => exact deed_pin .add (by simp) w uri
  | removeMarkers uri => exact deed_pin .remove (by simp) w uri
  | close uri => exact deed_close w uri
  | stop uri => exact .aside (fun _ => rfl) rfl nofun
  | disconnect => exact deed_unchanged _ nofun

end World

end Waymark
