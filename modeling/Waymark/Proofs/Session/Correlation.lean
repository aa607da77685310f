import Waymark.Proofs.Session.Frame
import Waymark.Proofs.Session.Wanting

/-! Requests and their answers. Answers may come late, twice, out of order or from elsewhere. Only
those to the latest request of a kind are taken, and what the markers show is what the last
selection and the traces taken for it have made of them. -/

namespace Waymark

namespace Marker
variable {m : Marker} {c : Colour} {visible : Bool}

/-- A marker as far as its run says, without what selections and anchors make of it. -/
def bare (m : Marker) : Marker :=
  { m with range := default, glyph := .hidden, colour := .uninteresting }

theorem bare_unplaced : (Board.unplaced m).bare = m.bare := rfl

theorem bare_requestColour : (m.requestColour c).bare = m.bare := by
  unfold requestColour
  split <;> rfl

theorem bare_repaint : m.repaint.bare = m.bare := by
  unfold repaint
  dsimp only
  split <;> simp only [bare_requestColour] <;> rfl

theorem bare_highlight : (m.highlight visible).bare = m.bare := by
  cases visible <;> exact bare_requestColour

theorem unplaced_requestColour :
    Board.unplaced (m.requestColour c) = (Board.unplaced m).requestColour c := by
  by_cases h : m.colour.yieldsTo c <;> simp [requestColour, Board.unplaced, h]

theorem unplaced_highlight :
    Board.unplaced (m.highlight visible) = (Board.unplaced m).highlight visible := by
  cases visible <;> exact unplaced_requestColour

/-- A pass starts from what the run says of a marker and from nothing that was there before. -/
theorem unplaced_repaint : Board.unplaced m.repaint = m.bare.repaint := by
  unfold repaint
  cases h : m.isError <;> simp [requestColour, hide, collapse, Colour.yieldsTo, bare,
    Board.unplaced, h]

end Marker

namespace Board
variable {b b' : Board} {ms : List Marker} {p : Marker → Bool} {f g : Marker → Marker}
  {selected : Nat} {previous : Option Nat} {entries : List TraceEntry}

theorem map_modifyLast (hp : ∀ m, p (g m) = p m) (hf : ∀ m, g (f m) = f (g m)) :
    (modifyLast p f ms).map g = modifyLast p f (ms.map g) := by
  induction ms with
  | nil => rfl
  | cons m ms ih =>
    have hany : (ms.map g).any p = ms.any p := by simp [Function.comp_def, hp]
    simp only [modifyLast, List.map_cons, hany, hp]
    split
    · rw [List.map_cons, ih]
    · split <;> simp [hf]

theorem map_modifyLast_of_eq (hf : ∀ m, g (f m) = g m) :
    (modifyLast p f ms).map g = ms.map g := by
  induction ms with
  | nil => rfl
  | cons m ms ih =>
    unfold modifyLast
    split
    · rw [List.map_cons, ih, List.map_cons]
    · split <;> simp [hf]

theorem map_bare_of_unplaced (h : b.markers.map unplaced = b'.markers.map unplaced) :
    b.markers.map Marker.bare = b'.markers.map Marker.bare := by
  have := congrArg (List.map Marker.bare) h
  simpa [Function.comp_def, Marker.bare_unplaced] using this

theorem map_unplaced_modify (state : Nat) (hf : ∀ m, unplaced (f m) = f (unplaced m)) :
    (b.modify state f).markers.map unplaced =
      modifyLast (·.index == state) f (b.markers.map unplaced) :=
  map_modifyLast (fun _ => rfl) hf

theorem map_bare_repaint :
    (b.repaint selected previous).markers.map Marker.bare = b.markers.map Marker.bare := by
  have hstart : (b.modifyAll Marker.repaint).markers.map Marker.bare =
      b.markers.map Marker.bare := by
    simp [modifyAll, Function.comp_def, Marker.bare_repaint]
  have hcurrent := (map_modifyLast_of_eq (p := (·.index == selected))
    fun m => Marker.bare_requestColour (m := m) (c := .current)).trans hstart
  cases previous with
  | none => exact hcurrent
  | some state =>
    exact (map_modifyLast_of_eq (p := (·.index == state))
      fun m => Marker.bare_requestColour (m := m) (c := .previous)).trans hcurrent

theorem map_bare_highlight :
    (b.highlight entries).markers.map Marker.bare = b.markers.map Marker.bare := by
  induction entries generalizing b with
  | nil => rfl
  | cons e entries ih =>
    exact ih.trans (map_modifyLast_of_eq fun _ => Marker.bare_highlight)

/-- What a selection shows does not depend on what was shown before it. -/
theorem map_unplaced_repaint (h : b.markers.map Marker.bare = b'.markers.map Marker.bare) :
    (b.repaint selected previous).markers.map unplaced =
      (b'.repaint selected previous).markers.map unplaced := by
  have hstart : (b.modifyAll Marker.repaint).markers.map unplaced =
      (b'.modifyAll Marker.repaint).markers.map unplaced := by
    have := congrArg (List.map Marker.repaint) h
    simpa [modifyAll, Function.comp_def, Marker.unplaced_repaint] using this
  have hmodify := fun (c : Colour) (state : Nat) (b : Board) =>
    map_unplaced_modify (b := b) state fun m => Marker.unplaced_requestColour (m := m) (c := c)
  cases previous with
  | none => simp only [repaint, hmodify, hstart]
  | some state => simp only [repaint, hmodify, hstart]

theorem map_unplaced_highlight (h : b.markers.map unplaced = b'.markers.map unplaced) :
    (b.highlight entries).markers.map unplaced = (b'.highlight entries).markers.map unplaced := by
  induction entries generalizing b b' with
  | nil => exact h
  | cons e entries ih =>
    have hmodify := fun b : Board => map_unplaced_modify (b := b) e.state
      fun m => @Marker.unplaced_highlight m e.visible
    apply ih
    rw [hmodify, hmodify, h]

end Board

namespace Session

/-- Something that a session is told or asked for. What is to be taken as an answer may come from
anywhere at any time. -/
inductive Move (ε : Type)
  | storeSnapshot (snapshot : Snapshot)
  | showStates (editor : ε)
  | hideStates
  | beginMark (state : Nat)
  | requestHeap (state : Nat)
  | onPosition (place : Position) (mode : Mode)
  | acceptHeap (graph : HeapGraph) (settings : Settings) (renderer : Renderer) (host : Host)
  | applyTrace (trace : TraceReply)

/-- What a session is seen to do. -/
inductive Note
  /-- A snapshot was taken over. -/
  | snapshot (markers : List Marker)
  /-- A selection was begun when `previous` was the state selected before, and its trace was asked
  for. -/
  | selection (request : TraceRequest) (previous : Option Nat)
  | heapRequest (request : HeapRequest)
  /-- A trace was taken. -/
  | trace (trace : TraceReply)

/-- Notes on a session, the latest first. -/
abbrev Log := List Note

namespace Log

/-- The number of the latest request for a trace since the last snapshot. -/
def latestTrace : Log → Option Nat
  | [] => none
  | .snapshot _ :: _ => none
  | .selection request _ :: _ => some request.requestId
  | .heapRequest _ :: log => latestTrace log
  | .trace _ :: log => latestTrace log

/-- The number of the latest request for a heap since the last snapshot. -/
def latestHeap : Log → Option Nat
  | [] => none
  | .snapshot _ :: _ => none
  | .selection _ _ :: log => latestHeap log
  | .heapRequest request :: _ => some request.requestId
  | .trace _ :: log => latestHeap log

/-- The numbers of all requests, of either kind and for any snapshot. -/
def numbers : Log → List Nat
  | [] => []
  | .snapshot _ :: log => numbers log
  | .selection request _ :: log => request.requestId :: numbers log
  | .heapRequest request :: log => request.requestId :: numbers log
  | .trace _ :: log => numbers log

/-- The markers as the last snapshot brought them. -/
def arrived : Log → Board
  | [] => .empty
  | .snapshot markers :: _ => .ofMarkers markers
  | .selection _ _ :: log => arrived log
  | .heapRequest _ :: log => arrived log
  | .trace _ :: log => arrived log

/-- The markers of the last snapshot after its last selection alone and the traces taken that have
the number of that selection. -/
def replay : Log → Board
  | [] => .empty
  | .snapshot markers :: _ => .ofMarkers markers
  | .selection request previous :: log => (arrived log).repaint request.state previous
  | .heapRequest _ :: log => replay log
  | .trace trace :: log =>
    if latestTrace log = some trace.requestId then (replay log).highlight trace.entries
    else replay log

theorem map_bare_replay (log : Log) :
    (replay log).markers.map Marker.bare = (arrived log).markers.map Marker.bare := by
  induction log with
  | nil => rfl
  | cons note log ih =>
    cases note with
    | snapshot => rfl
    | selection => exact Board.map_bare_repaint
    | heapRequest => exact ih
    | trace trace =>
      unfold replay
      split
      · exact Board.map_bare_highlight.trans ih
      · exact ih

end Log

variable {ε : Type} [Editor ε] {s : Session} {log : Log} {uri : String}

/-- A trace request, if there is one, is noted with the state selected before. -/
def noteSelection (s : Session) : Option TraceRequest → Log
  | some request => [.selection request s.selection.previous]
  | none => []

/-- What is noted of a move of the cursor. -/
def noteAction : SelectionAction → Log
  | .requestHeap request => [.heapRequest request]
  | .ignored => []
  | .redisplay => []

/-- Makes a move; gives what is noted of it. -/
def move (s : Session) : Move ε → Log × Session
  | .storeSnapshot snapshot =>
    match s.storeSnapshot snapshot with
    | .ok s => ([.snapshot snapshot.markers], s)
    | .error _ => ([], s)
  | .showStates editor => ([], (s.showStates editor).session)
  | .hideStates => ([], s.hideStates)
  | .beginMark state => (s.noteSelection (s.beginMark state).1, (s.beginMark state).2)
  | .requestHeap state => ([.heapRequest (s.requestHeap state).1], (s.requestHeap state).2)
  | .onPosition place mode => (noteAction (s.onPosition place mode).1, (s.onPosition place mode).2)
  | .acceptHeap graph settings renderer host =>
    let (answer, s', _) := s.acceptHeap graph settings renderer host
    (s.noteSelection answer.toOption.join, s')
  | .applyTrace trace =>
    (if (s.applyTrace trace).1 then [.trace trace] else [], (s.applyTrace trace).2)

/-- Makes moves one after the other and goes on with the log. -/
def play (log : Log) (s : Session) : List (Move ε) → Log × Session
  | [] => (log, s)
  | m :: moves => play ((s.move m).1 ++ log) (s.move m).2 moves

/-- What a log tells of the session it is kept on. -/
structure Accounts (uri : String) (log : Log) (s : Session) : Prop where
  uri : s.uri = uri
  trace : s.ids.latestTrace = Log.latestTrace log
  heap : s.ids.latestHeap = Log.latestHeap log
  last : s.ids.last = (Log.numbers log).length
  numbers : (Log.numbers log).reverse = List.range' 1 (Log.numbers log).length
  markers : s.board.markers.map Board.unplaced = (Log.replay log).markers.map Board.unplaced

namespace Accounts
variable {s' : Session} {id : Nat}

theorem start (uri : String) : Accounts uri [] (ofUri uri) := ⟨rfl, rfl, rfl, rfl, rfl, rfl⟩

/-- Nothing is noted of what touches neither the requests nor what is shown. -/
theorem of_same (h : Accounts uri log s) (huri : s'.uri = s.uri) (hids : s'.ids = s.ids)
    (hmarkers : s'.board.markers.map Board.unplaced = s.board.markers.map Board.unplaced) :
    Accounts uri log s' where
  uri := huri.trans h.uri
  trace := hids ▸ h.trace
  heap := hids ▸ h.heap
  last := hids ▸ h.last
  numbers := h.numbers
  markers := hmarkers.trans h.markers

/-- The next number continues the ones given out. -/
theorem numbers_cons (h : Accounts uri log s) : ((s.ids.last + 1) :: Log.numbers log).reverse =
    List.range' 1 ((s.ids.last + 1) :: Log.numbers log).length := by
  rw [List.reverse_cons, List.length_cons, h.numbers, List.range'_1_concat, h.last, Nat.add_comm 1]

theorem snapshot {snapshot : Snapshot} (h : Accounts uri log s)
    (hs : s.storeSnapshot snapshot = .ok s') :
    Accounts uri (.snapshot snapshot.markers :: log) s' := by
  unfold storeSnapshot at hs
  split at hs
  · obtain rfl := Except.ok.inj hs
    exact ⟨h.uri, rfl, rfl, h.last, h.numbers, rfl⟩
  · cases hs

theorem heapRequest (h : Accounts uri log s) (state : Nat) :
    Accounts uri (.heapRequest (s.requestHeap state).1 :: log) (s.requestHeap state).2 where
  uri := h.uri
  trace := h.trace
  heap := rfl
  last := congrArg (· + 1) h.last
  numbers := h.numbers_cons
  markers := h.markers

/-- Only what came with the snapshot counts for what a selection shows. -/
theorem selection (h : Accounts uri log s) (state : Nat) :
    Accounts uri (s.noteSelection (s.beginMark state).1 ++ log) (s.beginMark state).2 := by
  unfold beginMark
  split
  · have hbare : s.board.markers.map Marker.bare = (Log.arrived log).markers.map Marker.bare :=
      (Board.map_bare_of_unplaced h.markers).trans (Log.map_bare_replay log)
    exact ⟨h.uri, rfl, h.heap, congrArg (· + 1) h.last, h.numbers_cons,
      Board.map_unplaced_repaint hbare⟩
  · exact h

theorem fst_beginMark (h : Accounts uri log s) (state : Nat) : (s.beginMark state).1 =
    if s.shown ∧ state ∈ s.board.markers.map (·.index) then
      some ⟨(Log.numbers log).length + 1, uri, state⟩
    else none := by
  have hthere : (s.board.get? state).isSome ↔ state ∈ s.board.markers.map (·.index) := by
    simp [Board.get?]
  unfold beginMark
  simp only [hthere]
  split
  · rw [RequestIds.requestTrace, h.last, h.uri]
  · rfl

theorem fst_requestHeap (h : Accounts uri log s) (state : Nat) :
    (s.requestHeap state).1 = ⟨(Log.numbers log).length + 1, uri, state⟩ := by
  rw [Session.requestHeap, RequestIds.requestHeap, h.last, h.uri]

theorem applyTrace_iff (h : Accounts uri log s) (trace : TraceReply) :
    (s.applyTrace trace).1 = true ↔
      trace.uri = uri ∧ Log.latestTrace log = some trace.requestId := by
  unfold applyTrace
  simp only [RequestIds.wantsTrace, beq_iff_eq, h.uri, h.trace]
  split <;> simp_all

theorem applyTrace (h : Accounts uri log s) (trace : TraceReply) :
    Accounts uri ((if (s.applyTrace trace).1 then [.trace trace] else []) ++ log)
      (s.applyTrace trace).2 := by
  have hiff := h.applyTrace_iff trace
  unfold Session.applyTrace at hiff ⊢
  split
  · next hwanted =>
    rw [if_pos hwanted] at hiff
    refine ⟨h.uri, h.trace, h.heap, h.last, h.numbers, ?_⟩
    rw [if_pos rfl, List.singleton_append, Log.replay, if_pos (hiff.mp rfl).2]
    exact Board.map_unplaced_highlight h.markers
  · exact h

theorem onPosition (h : Accounts uri log s) (place : Position) (mode : Mode) :
    Accounts uri (noteAction (s.onPosition place mode).1 ++ log) (s.onPosition place mode).2 := by
  unfold Session.onPosition
  split
  · split
    · exact h
    · next m _ =>
      have hrequest := h.heapRequest m.index
      unfold onMarker
      cases mode with
      | simple =>
        dsimp only
        split
        · exact hrequest
        · exact h
      | advanced =>
        dsimp only
        split
        · exact h.of_same rfl rfl rfl
        · exact hrequest.of_same rfl rfl rfl
  · exact h

/-- A heap graph that is taken answers the latest request for one. -/
theorem latestHeap_of_acceptHeap {graph : HeapGraph} {settings : Settings} {r : Renderer}
    {host : Host} {request : TraceRequest} (h : Accounts uri log s)
    (hs : (s.acceptHeap graph settings r host).1 = .ok (some request)) :
    Log.latestHeap log = some graph.requestId := by
  obtain ⟨-, hnone⟩ | ⟨slot, heap, -, hwants, -, -⟩ := acceptHeap_cases s graph settings r host
  · exact absurd hs (hnone request)
  · obtain ⟨hwanted, -⟩ := wants?_eq_some_iff.mp hwants
    exact h.heap.symm.trans hwanted.latest

theorem acceptHeap (h : Accounts uri log s) (graph : HeapGraph) (settings : Settings)
    (r : Renderer) (host : Host) :
    Accounts uri (s.noteSelection (s.acceptHeap graph settings r host).1.toOption.join ++ log)
      (s.acceptHeap graph settings r host).2.1 := by
  obtain ⟨hsession, hnone⟩ | ⟨slot, heap, -, -, hanswer, hsession⟩ :=
    acceptHeap_cases s graph settings r host
  · have hjoin : (s.acceptHeap graph settings r host).1.toOption.join = none := by
      cases hanswer : (s.acceptHeap graph settings r host).1 with
      | error => rfl
      | ok request =>
        cases request with
        | none => rfl
        | some request => exact absurd hanswer (hnone request)
    rw [hjoin, hsession]
    exact h
  · rw [hanswer, hsession]
    have hstored : Accounts uri log { s with heaps := s.heaps.store slot heap } :=
      h.of_same rfl rfl rfl
    exact hstored.selection graph.state

/-- One move, whatever it is. -/
theorem move (h : Accounts uri log s) (m : Move ε) :
    Accounts uri ((s.move m).1 ++ log) (s.move m).2 := by
  cases m with
  | storeSnapshot snapshot =>
    cases hs : s.storeSnapshot snapshot with
    | ok s' => simpa [Session.move, hs] using h.snapshot hs
    | error => simpa [Session.move, hs] using h
  | showStates editor =>
    obtain ⟨board, shown, hsession, hmarkers⟩ := session_showStates s editor
    exact h.of_same (by rw [Session.move, hsession]) (by rw [Session.move, hsession])
      (by rw [Session.move, hsession]; exact hmarkers)
  | hideStates => exact h.of_same rfl rfl rfl
  | beginMark state => exact h.selection state
  | requestHeap state => exact h.heapRequest state
  | onPosition place mode => exact h.onPosition place mode
  | acceptHeap graph settings renderer host => exact h.acceptHeap graph settings renderer host
  | applyTrace trace => exact h.applyTrace trace

theorem play (h : Accounts uri log s) (moves : List (Move ε)) :
    Accounts uri (s.play log moves).1 (s.play log moves).2 := by
  induction moves generalizing log s with
  | nil => exact h
  | cons m moves ih => exact ih (h.move m)

end Accounts

/-- Whatever arrives and whenever it does: a trace is taken exactly if it is the answer to the
latest request for one since the last snapshot, a heap graph only if it is the answer to the latest
request for one. A state that is there is asked about under the next number whenever it is selected
while the states are shown. The numbers of requests go up by one from each to the next and start
anew for no snapshot. What the markers show is what the last snapshot brought, or what its last
selection and the traces taken for it make of that, as if nothing else had ever been selected. -/
theorem only_latest_answers_count (uri : String) (moves : List (Move ε)) :
    let log := ((ofUri uri).play [] moves).1
    let s := ((ofUri uri).play [] moves).2
    (∀ trace, (s.applyTrace trace).1 = true ↔
      trace.uri = uri ∧ log.latestTrace = some trace.requestId) ∧
    (∀ graph settings r host request,
      (s.acceptHeap graph settings r host).1 = .ok (some request) →
        log.latestHeap = some graph.requestId) ∧
    (∀ state, (s.beginMark state).1 =
      if s.shown ∧ state ∈ s.board.markers.map (·.index) then
        some ⟨log.numbers.length + 1, uri, state⟩
      else none) ∧
    (∀ state, (s.requestHeap state).1 = ⟨log.numbers.length + 1, uri, state⟩) ∧
    log.numbers.reverse = List.range' 1 log.numbers.length ∧
    s.board.markers.map Board.unplaced = log.replay.markers.map Board.unplaced := by
  intro log s
  have h : Accounts uri log s := (Accounts.start uri).play moves
  exact ⟨h.applyTrace_iff, fun _ _ _ _ _ => h.latestHeap_of_acceptHeap, h.fst_beginMark,
    h.fst_requestHeap, h.numbers, h.markers⟩

/-- A second state is selected before the trace of the first has come. -/
theorem only_latest_answers_count_of_late :
    let run : Snapshot := ⟨"d", [], [.plain 0 ⟨0, 0⟩, .plain 1 ⟨0, 1⟩], none, none⟩
    let editor : Buffer := ⟨.ofText "d" ['a', 'b'], ⟨.empty, []⟩⟩
    let s := ((ofUri "d").play []
      [.storeSnapshot run, .showStates editor, .beginMark 0, .beginMark 1]).2
    (s.applyTrace ⟨1, "d", [⟨0, .interesting, true⟩]⟩).1 ≠ true ∧
      (s.applyTrace ⟨2, "d", [⟨1, .interesting, true⟩]⟩).1 = true ∧
      (s.beginMark 0).1 = some ⟨3, "d", 0⟩ := by
  intro run editor s
  obtain ⟨htaken, -, hasks, -⟩ := only_latest_answers_count "d"
    [.storeSnapshot run, .showStates editor, .beginMark 0, .beginMark 1]
  have hlatest : ((ofUri "d").play []
      [.storeSnapshot run, .showStates editor, .beginMark 0, .beginMark 1]).1.latestTrace =
        some 2 := by decide +kernel
  have hthere : s.shown ∧ 0 ∈ s.board.markers.map (·.index) := by decide +kernel
  refine ⟨?_, (htaken _).mpr ⟨rfl, hlatest⟩, ?_⟩
  · intro htrue
    cases hlatest.symm.trans ((htaken _).mp htrue).2
  · rw [hasks, if_pos hthere]
    decide +kernel

end Session

end Waymark
