import Waymark.Proofs.Server.Display
import Waymark.Proofs.Server.History

/-! Clicks on the state that is selected. They show its heap again, unless the click that selected
it came to no heap. Then they show what was on display before that click. -/

namespace Waymark

theorem Reply.body_ofAction_inj {a b : String} (h : (ofAction a).body = (ofAction b).body) :
    a = b := by
  simpa [ofAction, ofBody, Json.ofFields, Table.overlay, Table.insert] using h

theorem Board.isSome_get?_of_atPosition? {b : Board} {place : Position} {m : Marker}
    (h : b.atPosition? place = some m) : (b.get? m.index).isSome = true :=
  get?_isSome_iff.mpr (List.mem_map_of_mem (List.mem_reverse.mp (List.mem_of_find?_eq_some h)))

theorem Runs.heapGraph?_of_step {runs : Runs} {request : HeapRequest} {run : StepGraph}
    {step : Step} (hrun : runs.get? request.uri = some run)
    (hstep : run.stepOfState? request.state = some step) :
    runs.heapGraph? request = some ⟨request.requestId, request.uri, request.state,
      step.heap.getD "", step.verifiableName, step.position⟩ := by
  simp only [heapGraph?, hrun, hstep, Option.map_some]

namespace Session
variable {s s' : Session} {request : Request} {p : Position} {mode : Mode}

/-- The state that is selected and the heap on display. -/
def display (s : Session) : Option Nat × Option RenderedHeap :=
  (s.selection.current, s.heaps.focused)

theorem Shows.of_display {state : Nat} (h : s.Shows state) (hsame : s'.display = s.display) :
    s'.Shows state := by
  obtain ⟨hcurrent, hfocused⟩ := Prod.ext_iff.mp hsame
  obtain ⟨heap, hheap, hstate⟩ := h.focused
  exact ⟨hcurrent.trans h.current, heap, hfocused.trans hheap, hstate⟩

/-- A heap of the latest request that is not wanted is empty, or its state was selected before. -/
theorem of_wants?_eq_none {graph : HeapGraph} (h : s.wants? graph mode = none)
    (hlatest : s.ids.latestHeap = some graph.requestId) (hshown : s.shown = true)
    (hknown : (s.board.get? graph.state).isSome = true) :
    graph.heap = "" ∨ s.selection.previous = some graph.state := by
  by_contra hnot
  obtain ⟨hheap, hprevious⟩ := not_or.mp hnot
  exact wants?_eq_none_iff.mp h
    ⟨hlatest, hshown, hheap, isSome_get?_iff.mp hknown, fun hrepeat => hprevious hrepeat.2⟩

/-- No turn but a move of the cursor selects a state without its heap. -/
theorem display_turn (hturn : s.Turn request s') (hrequest : ∀ p, request ≠ .point p) :
    s'.display = s.display ∨ ∀ state, s'.selection.current = some state → s'.Shows state := by
  cases hturn with
  | stored _ hstored =>
    refine .inr fun state hcurrent => ?_
    rw [(clear_of_storeSnapshot hstored).1] at hcurrent
    cases hcurrent
  | placed _ => exact .inl rfl
  | asked state => exact .inl rfl
  | pointed mode hpoint => exact absurd hpoint (hrequest _)
  | answered hgraph =>
    obtain htaken | ⟨hsame, -⟩ := answer_cases s _ _ _ hgraph
    · refine .inr fun state hcurrent => ?_
      obtain rfl := Option.some.inj (htaken.current.symm.trans hcurrent)
      exact htaken.toShows
    · exact .inl (by rw [hsame])

end Session

namespace World
variable {quiet : Host → Host → Prop} {settings : Settings} {host : Host}
  {log log' : List Occurrence} {w w' : World} {uri : String} {doc : OpenDocument} {p : Pointing}
  {state : Nat}

/-- The state that is selected in a document and the heap on display. -/
def display (uri : String) (w : World) : Option (Option Nat × Option RenderedHeap) :=
  (w.server.documents.get? uri).map (·.session.display)

/-- A click on a marker selects its state but comes to no heap: it ends in an error, or the run of
the document describes no heap for the state. -/
structure Misses (w : World) (p : Pointing) (state : Nat) : Prop where
  clicked : ∃ doc m, w.server.documents.get? p.uri = some doc ∧
    doc.session.board.atPosition? p.position = some m ∧ m.index = state ∧
    doc.session.selection.current ≠ some state
  selected : ((w.point p).2.display p.uri).map (·.1) = some (some state)
  missed : (∃ e, (w.point p).1 = .error e) ∨
    (w.point p).1 = .ok (.ofAction "requestHeap") ∧
      ∀ run step, w.server.runs.get? p.uri = some run → run.stepOfState? state = some step →
        step.heap.getD "" = ""

/-- The click in the history that selected a state came to no heap, and neither the selection nor
the heap on display have changed since. -/
def Missed (w : World) (log : List Occurrence) (uri : String) (state : Nat) : Prop :=
  ∃ o p, o.request = .point p ∧ p.uri = uri ∧ o.before.Misses p state ∧
    StaysSince (display uri) o log w

theorem Missed.kept (h : w.Missed log uri state)
    (hsince : ∀ o, StaysSince (display uri) o log w → StaysSince (display uri) o log' w') :
    w'.Missed log' uri state := by
  obtain ⟨o, p, ho, hp, hmisses, hstays⟩ := h
  exact ⟨o, p, ho, hp, hmisses, hsince o hstays⟩

/-- The heap that is asked for is taken, or the session stays as it is. -/
theorem answerHeap_cases {request : HeapRequest}
    (hdoc : w.server.documents.get? request.uri = some doc) :
    (∃ doc', (w.answerHeap request).2.server.documents.get? request.uri = some doc' ∧
      doc.session.Taken doc'.session request.state) ∨
    (w.answerHeap request).2.server.documents.get? request.uri = some doc ∧
      ((∃ e, (w.answerHeap request).1 = .error e) ∨
        (w.answerHeap request).1 = .ok .empty ∧
          ∀ graph, w.server.runs.heapGraph? request = some graph →
            doc.session.wants? graph w.server.settings.mode = none) := by
  have hdocument : w.server.document request.uri = .ok doc := Server.document_eq_ok.mpr hdoc
  unfold answerHeap
  split
  · next hgraph => exact .inr ⟨hdoc, .inr ⟨rfl, fun graph h => nomatch hgraph.symm.trans h⟩⟩
  · next graph hgraph =>
    have hstate : graph.state = request.state := by
      unfold Runs.heapGraph? at hgraph
      split at hgraph
      · cases hgraph
      · obtain ⟨step, -, rfl⟩ := Option.map_eq_some_iff.mp hgraph
        rfl
    dsimp only
    split
    · next e _ => exact .inr ⟨hdoc, .inl ⟨e, rfl⟩⟩
    · next r _ =>
      rw [hdocument]
      dsimp only
      have hanswer := Session.answer_cases doc.session w.server.settings r w.host hgraph
      rw [hstate] at hanswer
      unfold Session.answer at hanswer
      generalize doc.session.acceptHeap graph w.server.settings r w.host = result at hanswer ⊢
      obtain ⟨accepted, session, host⟩ := result
      obtain htaken | ⟨hsame, hpassed⟩ := hanswer
      · refine .inl ?_
        match accepted with
        | .error _ => exact ⟨_, get?_setDocument_self _ _ _, htaken⟩
        | .ok none => exact ⟨_, get?_setDocument_self _ _ _, htaken⟩
        | .ok (some _) => exact ⟨_, get?_setDocument_self _ _ _, htaken⟩
      · refine .inr ?_
        match accepted with
        | .error e =>
          obtain rfl : session = doc.session := hsame
          exact ⟨get?_setDocument_self _ _ _, .inl ⟨e, rfl⟩⟩
        | .ok none =>
          obtain rfl : session = doc.session := hsame
          refine ⟨get?_setDocument_self _ _ _, .inr ⟨rfl, fun graph' hgraph' => ?_⟩⟩
          obtain rfl := Option.some.inj (hgraph.symm.trans hgraph')
          simpa using hpassed
        | .ok (some _) => simp at hpassed

theorem point_of_redisplay {s : Session} (hshow : w.server.settings.showStates = true)
    (hdoc : w.server.documents.get? p.uri = some doc)
    (haction : doc.session.onPosition p.position w.server.settings.mode = (.redisplay, s)) :
    (w.point p).1 = .ok { Reply.ofAction "redisplay" with events := heapEvent s p.uri } ∧
      (w.point p).2 = w.setDocument p.uri { doc with session := s } := by
  rw [point, if_pos hshow, Server.document_eq_ok.mpr hdoc]
  simp only [haction, and_self]

theorem point_of_requestHeap {s : Session} {request : HeapRequest}
    (hshow : w.server.settings.showStates = true)
    (hdoc : w.server.documents.get? p.uri = some doc)
    (haction : doc.session.onPosition p.position w.server.settings.mode =
      (.requestHeap request, s)) :
    (w.point p).1 = (((w.setDocument p.uri { doc with session := s }).answerHeap request).1.map
        fun reply => { Reply.ofAction "requestHeap" with events := reply.events }) ∧
      (w.point p).2 = ((w.setDocument p.uri { doc with session := s }).answerHeap request).2 := by
  rw [point, if_pos hshow, Server.document_eq_ok.mpr hdoc]
  simp only [haction]
  obtain ⟨_ | _, _⟩ := (w.setDocument p.uri { doc with session := s }).answerHeap request <;>
    exact ⟨rfl, rfl⟩

/-- A click on the marker `m` asks for its heap; `current` is selected from now on. -/
structure Asks (w : World) (p : Pointing) (doc : OpenDocument) (m : Marker)
    (current : Option Nat) : Prop where
  showing : w.server.settings.showStates = true
  opened : w.server.documents.get? p.uri = some doc
  marked : doc.session.board.atPosition? p.position = some m
  shown : doc.session.shown = true
  selects : current = doc.session.selection.current ∨
    current = some m.index ∧ doc.session.selection.current ≠ some m.index
  action : doc.session.onPosition p.position w.server.settings.mode =
    (.requestHeap (doc.session.requestHeap m.index).1,
      { (doc.session.requestHeap m.index).2 with
        selection := { doc.session.selection with current } })

/-- A click is passed over, it shows a heap again, or it asks for one. -/
theorem point_cases (w : World) (p : Pointing) :
    ((w.point p).2.display p.uri = w.display p.uri ∧
      ∀ reply, (w.point p).1 = .ok reply → reply = .ofAction "ignored") ∨
    (∃ doc m, w.server.documents.get? p.uri = some doc ∧
      doc.session.board.atPosition? p.position = some m ∧
      doc.session.selection.current = some m.index ∧
      (w.point p).1 = .ok { Reply.ofAction "redisplay" with
        events := heapEvent doc.session p.uri } ∧
      (w.point p).2.display p.uri = w.display p.uri) ∨
    ∃ doc m current, w.Asks p doc m current := by
  by_cases hshow : w.server.settings.showStates = true
  · cases hdoc : w.server.documents.get? p.uri with
    | none => exact .inl (by simp [point, Server.document, hshow, hdoc])
    | some doc =>
      have hdisplay : ∀ s : Session, s.display = doc.session.display →
          (w.setDocument p.uri { doc with session := s }).display p.uri = w.display p.uri := by
        intro s hs
        rw [display, display, get?_setDocument_self, hdoc, Option.map_some, Option.map_some, hs]
      obtain haction | ⟨m, hm, hcurrent, haction⟩ | ⟨m, current, hm, hshown, hcurrent, haction⟩ :=
        doc.session.onPosition_cases p.position w.server.settings.mode
      · refine .inl ?_
        simp only [point, hshow, Server.document, hdoc, haction]
        exact ⟨hdisplay _ rfl, fun reply hreply => (Except.ok.inj hreply).symm⟩
      · refine .inr (.inl ⟨doc, m, rfl, hm, hcurrent, ?_⟩)
        obtain ⟨hanswer, hworld⟩ := point_of_redisplay hshow hdoc haction
        refine ⟨?_, hworld ▸ hdisplay _ (Prod.ext rfl HeapSlots.focused_discardPending)⟩
        rw [hanswer, heapEvent, heapEvent, HeapSlots.focused_discardPending]
      · exact .inr (.inr ⟨doc, m, current, hshow, hdoc, hm, hshown, hcurrent, haction⟩)
  · exact .inl (by simp [point, hshow])

theorem Asks.display_point {m : Marker} {current : Option Nat} (h : w.Asks p doc m current)
    (horderly : w.Orderly) (hcoherent : doc.session.Coherent) :
    (w.point p).2.display p.uri = w.display p.uri ∨
    (∃ doc, (w.point p).2.server.documents.get? p.uri = some doc ∧
      doc.session.Shows m.index) ∨
    w.Misses p m.index := by
  obtain ⟨hanswer, hworld⟩ := point_of_requestHeap h.showing h.opened h.action
  have huri : (doc.session.requestHeap m.index).1.uri = p.uri := (horderly _ doc h.opened).1
  have hknown := Board.isSome_get?_of_atPosition? h.marked
  generalize hs : { (doc.session.requestHeap m.index).2 with
    selection := { doc.session.selection with current } } = s at hanswer hworld
  have hdoc : (w.setDocument p.uri { doc with session := s }).server.documents.get?
      (doc.session.requestHeap m.index).1.uri = some { doc with session := s } := by
    rw [huri, get?_setDocument_self]
  obtain ⟨doc', hdoc', htaken⟩ | ⟨hdoc', hpassed⟩ := answerHeap_cases hdoc
  · rw [huri, ← hworld] at hdoc'
    exact .inr (.inl ⟨doc', hdoc', htaken.toShows⟩)
  · rw [huri, ← hworld] at hdoc'
    obtain rfl | ⟨rfl, hother⟩ := h.selects
    · refine .inl ?_
      rw [display, display, hdoc', h.opened, ← hs]
      rfl
    · by_cases hprevious : doc.session.selection.previous = some m.index
      · exact .inr (.inl ⟨_, hdoc', hs ▸ rfl, hs ▸ hcoherent.previous _ hprevious⟩)
      · refine .inr (.inr ⟨⟨doc, m, h.opened, h.marked, rfl, hother⟩, ?_, ?_⟩)
        · rw [display, hdoc', ← hs]
          rfl
        · refine hpassed.imp (fun ⟨e, he⟩ => ⟨e, by rw [hanswer, he]; rfl⟩) ?_
          rintro ⟨hempty, hnone⟩
          refine ⟨by rw [hanswer, hempty]; rfl, fun run step hrun hstep => ?_⟩
          have hunwanted := hnone _ (Runs.heapGraph?_of_step (by rwa [huri]) hstep)
          subst hs
          obtain hempty | hprevious' := Session.of_wants?_eq_none hunwanted rfl h.shown hknown
          · exact hempty
          · exact absurd hprevious' hprevious

/-- A click selects a state and its heap comes on display, unless the click misses it. -/
theorem display_dispatch (horderly : w.Orderly) (request : Request) (uri : String)
    (hcoherent : ∀ doc, w.server.documents.get? uri = some doc → doc.session.Coherent) :
    (w.dispatch request).2.display uri = w.display uri ∨
    (∀ doc state, (w.dispatch request).2.server.documents.get? uri = some doc →
      doc.session.selection.current = some state → doc.session.Shows state) ∨
    ∃ p state, request = .point p ∧ p.uri = uri ∧ w.Misses p state := by
  by_cases hpoint : ∃ p, request = .point p ∧ p.uri = uri
  · obtain ⟨p, rfl, rfl⟩ := hpoint
    obtain ⟨hsame, -⟩ | ⟨doc, m, -, -, -, -, hsame⟩ | ⟨doc, m, current, hasks⟩ := point_cases w p
    · exact .inl hsame
    · exact .inl hsame
    · obtain hsame | ⟨doc', hdoc', hshows⟩ | hmisses :=
        hasks.display_point horderly (hcoherent doc hasks.opened)
      · exact .inl hsame
      · refine .inr (.inl fun doc state hdoc hcurrent => ?_)
        obtain rfl := Option.some.inj (hdoc'.symm.trans hdoc)
        obtain rfl := Option.some.inj (hshows.current.symm.trans hcurrent)
        exact hshows
      · exact .inr (.inr ⟨p, m.index, rfl, rfl, hmisses⟩)
  · have hfares := faring_dispatch horderly request uri
    unfold display
    generalize (w.dispatch request).2.server.documents.get? uri = entry at hfares ⊢
    suffices hentry : entry.map (·.session.display) =
          (w.server.documents.get? uri).map (·.session.display) ∨
        ∀ doc state, entry = some doc → doc.session.selection.current = some state →
          doc.session.Shows state from hentry.imp_right .inl
    induction hfares with
    | refl => exact .inl rfl
    | tail _ hturn ih =>
      cases hturn with
      | turn editor huri hturn =>
        have hrequest : ∀ p, request ≠ .point p := by
          rintro p rfl
          exact hpoint ⟨p, rfl, Option.some.inj huri⟩
        obtain hsame | hshows := Session.display_turn hturn hrequest
        · refine ih.imp (fun h => ?_) fun h doc state hdoc hcurrent => ?_
          · rw [← h, Option.map_some, Option.map_some, hsame]
          · obtain rfl := Option.some.inj hdoc
            have hbefore := (congrArg Prod.fst hsame).symm.trans hcurrent
            exact (h _ state rfl hbefore).of_display hsame
        · refine .inr fun doc state hdoc hcurrent => ?_
          obtain rfl := Option.some.inj hdoc
          exact hshows state hcurrent
      | opened editor _ _ =>
        refine .inr fun doc state hdoc hcurrent => ?_
        obtain rfl := Option.some.inj hdoc
        cases hcurrent
      | closed _ => exact .inr fun _ _ hdoc => nomatch hdoc

/-- A state that is selected has its heap on display, unless the click that selected it missed. -/
theorem History.shows_or_missed (h : History quiet settings host log w) : ∀ uri doc state,
    w.server.documents.get? uri = some doc → doc.session.selection.current = some state →
    doc.session.Shows state ∨ w.Missed log uri state := by
  induction h with
  | start => exact fun _ _ _ hdoc => nomatch hdoc
  | sent seq _ ih =>
    intro uri doc state hdoc hcurrent
    exact (ih uri doc state hdoc hcurrent).imp_right (·.kept fun _ hstays => hstays.kept rfl)
  | machine _ _ ih =>
    intro uri doc state hdoc hcurrent
    exact (ih uri doc state hdoc hcurrent).imp_right (·.kept fun _ hstays => hstays.kept rfl)
  | @request log w request h ih =>
    intro uri doc state hdoc hcurrent
    obtain hsame | hshows | ⟨p, state', rfl, rfl, hmisses⟩ :=
      display_dispatch h.reached.orderly request uri (h.reached.coherent uri)
    · have hdisplay := hsame
      rw [display, display, hdoc, Option.map_some, eq_comm] at hdisplay
      obtain ⟨before, hbefore, heq⟩ := Option.map_eq_some_iff.mp hdisplay
      have hcurrent' := (congrArg Prod.fst heq).trans hcurrent
      exact (ih uri before state hbefore hcurrent').imp (·.of_display heq.symm)
        (·.kept fun _ hstays => hstays.request hsame)
    · exact .inl (hshows doc state hdoc hcurrent)
    · have hselected := hmisses.selected
      rw [display, show (w.point p).2 = (w.dispatch (.point p)).2 from rfl, hdoc] at hselected
      obtain rfl : state' = state :=
        (Option.some.inj ((Option.some.inj hselected).symm.trans hcurrent))
      exact .inr ⟨⟨w, .point p⟩, p, rfl, rfl, hmisses, .start _ log⟩

/-- A click that is answered with `redisplay` is on the marker of the state that is selected, and
changes neither the selection nor the heap on display. What is told of is the heap on display. It is
that of the state, unless the click that selected the state came to no heap, and neither the
selection nor the heap on display have changed since. -/
theorem redisplay_shows_selected (h : History quiet settings host log w) (p : Pointing)
    (reply : Reply)
    (hreply : (w.dispatch (.point p)).1 = .ok reply)
    (hredisplay : reply.body = (Reply.ofAction "redisplay").body) :
    ∃ doc m, w.server.documents.get? p.uri = some doc ∧
      doc.session.board.atPosition? p.position = some m ∧
      doc.session.selection.current = some m.index ∧
      (w.dispatch (.point p)).2.display p.uri = w.display p.uri ∧
      reply.events = heapEvent doc.session p.uri ∧
      ((∃ heap, doc.session.heaps.focused = some heap ∧ heap.state = m.index ∧
          reply.events = [.heapGraph p.uri m.index heap.svg heap.method]) ∨
        w.Missed log p.uri m.index) := by
  obtain ⟨-, hignored⟩ | ⟨doc, m, hdoc, hm, hcurrent, hanswer, hsame⟩ | ⟨doc, m, current, hasks⟩ :=
    point_cases w p
  · rw [hignored reply hreply] at hredisplay
    exact absurd (Reply.body_ofAction_inj hredisplay) (by decide)
  · obtain rfl := Except.ok.inj (hanswer.symm.trans hreply)
    refine ⟨doc, m, hdoc, hm, hcurrent, hsame, rfl, ?_⟩
    refine (h.shows_or_missed p.uri doc m.index hdoc hcurrent).imp_left fun hshows => ?_
    obtain ⟨heap, hfocused, hstate⟩ := hshows.focused
    exact ⟨heap, hfocused, hstate, by rw [heapEvent, hfocused, ← hstate]⟩
  · have hanswer := (point_of_requestHeap hasks.showing hasks.opened hasks.action).1
    rw [show (w.point p).1 = .ok reply from hreply] at hanswer
    unfold Except.map at hanswer
    split at hanswer
    · cases hanswer
    · obtain rfl := Except.ok.inj hanswer
      exact absurd (Reply.body_ofAction_inj hredisplay) (by decide)

/-- In advanced mode: the first state is clicked, then the second one, which has no heap. -/
def secondClicked : World :=
  (twoStatesShown false).dispatchAll [.point ⟨"d", ⟨0, 0⟩⟩, .point ⟨"d", ⟨0, 2⟩⟩]

theorem reached_secondClicked : secondClicked.Reached :=
  (reached_twoStatesShown false).dispatchAll _

/-- In advanced mode: the first state is clicked. -/
def clicking : List Request := [.storeRun twoStates, .point ⟨"d", ⟨0, 0⟩⟩]

/-- A second click on the first state shows its heap. -/
theorem redisplay_shows_selected_of_first :
    let start : World := ⟨.ofSettings (drawing false), drawingHost⟩
    let w := start.dispatchAll clicking
    let log := start.occurrences [] clicking
    ∃ reply, (w.dispatch (.point ⟨"d", ⟨0, 0⟩⟩)).1 = .ok reply ∧
      reply.body = (Reply.ofAction "redisplay").body ∧
      ∃ doc m, w.server.documents.get? "d" = some doc ∧
        doc.session.board.atPosition? ⟨0, 0⟩ = some m ∧
        doc.session.selection.current = some m.index ∧
        (w.dispatch (.point ⟨"d", ⟨0, 0⟩⟩)).2.display "d" = w.display "d" ∧
        reply.events = heapEvent doc.session "d" ∧
        ((∃ heap, doc.session.heaps.focused = some heap ∧ heap.state = m.index ∧
            reply.events = [.heapGraph "d" m.index heap.svg heap.method]) ∨
          w.Missed log "d" m.index) := by
  intro start w log
  have hlog : History (fun _ _ => False) (drawing false) drawingHost log w :=
    History.dispatchAll .start clicking
  have haction : (w.server.documents.get? "d").map
      (fun doc => (doc.session.onPosition ⟨0, 0⟩ w.server.settings.mode).1) = some .redisplay := by
    decide +kernel
  obtain ⟨doc, hdoc, haction⟩ := Option.map_eq_some_iff.mp haction
  have hreply := (point_of_redisplay (p := ⟨"d", ⟨0, 0⟩⟩) (by decide +kernel) hdoc
    (Prod.ext haction rfl)).1
  exact ⟨_, hreply, rfl, redisplay_shows_selected hlog ⟨"d", ⟨0, 0⟩⟩ _ hreply rfl⟩

/-- Where the second state is clicked once more, the heap of the first one is shown. -/
theorem redisplay_of_second :
    secondClicked.Reached ∧
    ∃ reply doc, (secondClicked.dispatch (.point ⟨"d", ⟨0, 2⟩⟩)).1 = .ok reply ∧
      reply.body = (Reply.ofAction "redisplay").body ∧
      secondClicked.server.documents.get? "d" = some doc ∧
      (doc.session.board.atPosition? ⟨0, 2⟩).map (·.index) = some 1 ∧
      doc.session.selection.current = some 1 ∧
      doc.session.heaps.focused.map (·.state) = some 0 ∧
      reply.events = [.heapGraph "d" 0
        (HeapSlots.svgPath (Path.ofString "/tmp/state-debugger") 0) none] := by
  refine ⟨reached_secondClicked, ?_⟩
  have hclick : (secondClicked.server.documents.get? "d").map (fun doc =>
      let clicked := doc.session.onPosition ⟨0, 2⟩ secondClicked.server.settings.mode
      (clicked.1, (doc.session.board.atPosition? ⟨0, 2⟩).map (·.index),
        doc.session.selection.current, doc.session.heaps.focused.map (·.state),
        heapEvent clicked.2 "d")) =
      some (.redisplay, some 1, some 1, some 0, [.heapGraph "d" 0
        (HeapSlots.svgPath (Path.ofString "/tmp/state-debugger") 0) none]) := by decide +kernel
  obtain ⟨doc, hdoc, hclick⟩ := Option.map_eq_some_iff.mp hclick
  simp only [Prod.mk.injEq] at hclick
  obtain ⟨haction, hmarker, hcurrent, hfocused, hevents⟩ := hclick
  have hreply := (point_of_redisplay (p := ⟨"d", ⟨0, 2⟩⟩) (by decide +kernel) hdoc
    (Prod.ext haction rfl)).1
  exact ⟨_, doc, hreply, rfl, hdoc, hmarker, hcurrent, hfocused, hevents⟩

end World

end Waymark
