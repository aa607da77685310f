import Mathlib.Logic.Relation
import Waymark.Proofs.Session.Correlation

/-! Hidden states. While a session does not show its markers, the cursor, selections and heaps that
come leave it as it is. Only the answer to a trace request is still taken, if the request was made
while the markers were shown and nothing has been asked or stored since. -/

namespace Waymark.Session
variable {s s' t : Session} {uri : String} {id : Nat}

/-- Anything that can be done with a session, whatever it is given. The guard may also be taken and
given back by others. -/
inductive Operated : Session → Session → Prop
  | moved {s : Session} {ε : Type} [Editor ε] (m : Move ε) : Operated s (s.move m).2
  | marked {s : Session} (state : Nat) (tracer : Nat → List TraceEntry) :
      Operated s (s.mark state tracer).2
  | attempted {s : Session} {ε : Type} [Editor ε] (op : Anchor.Operation) (editor : ε) :
      Operated s (s.attempt op editor).session
  | stripped {s : Session} (d : Disk) (p : Path) : Operated s (s.removeFromClosed d p).2.1
  | reset {s : Session} : Operated s s.reset
  | completeReset {s : Session} : Operated s s.completeReset
  | guarded {s : Session} (guard : Anchor.Guard) : Operated s { s with guard }

/-- The sessions that operations lead to, one after the other. -/
abbrev Operates : Session → Session → Prop := Relation.ReflTransGen Operated

/-- What an operation does to the request for a trace that waits for its answer: none is made, none
is wanted any more, or one is made under a new number, and only while the markers are shown. -/
def Requests (s s' : Session) : Prop :=
  s'.ids.latestTrace = s.ids.latestTrace ∨ s'.ids.latestTrace = none ∨
    s.shown = true ∧ s'.ids.latestTrace = some (s.ids.last + 1)

theorem requests_beginMark (s : Session) (state : Nat) : s.Requests (s.beginMark state).2 := by
  unfold beginMark
  split
  · next h => exact .inr (.inr ⟨h.1, rfl⟩)
  · exact .inl rfl

theorem ids_applyTrace (s : Session) (trace : TraceReply) : (s.applyTrace trace).2.ids = s.ids := by
  unfold applyTrace
  split <;> rfl

theorem latestTrace_onPosition (s : Session) (p : Position) (mode : Mode) :
    (s.onPosition p mode).2.ids.latestTrace = s.ids.latestTrace := by
  unfold onPosition
  split
  · split
    · rfl
    · unfold onMarker
      split <;> split <;> rfl
  · rfl

theorem requests_move {ε : Type} [Editor ε] (s : Session) (m : Move ε) :
    s.Requests (s.move m).2 := by
  cases m with
  | storeSnapshot snapshot =>
    cases hs : s.storeSnapshot snapshot with
    | error => exact .inl (by simp [move, hs])
    | ok stored =>
      have hmove : (s.move (.storeSnapshot snapshot : Move ε)).2 = stored := by simp [move, hs]
      unfold storeSnapshot at hs
      split at hs
      · obtain rfl := Except.ok.inj hs
        exact .inr (.inl (by rw [hmove]; rfl))
      · cases hs
  | showStates editor =>
    obtain ⟨board, shown, hsession, -⟩ := session_showStates s editor
    exact .inl (by rw [move, hsession])
  | hideStates => exact .inl rfl
  | beginMark state => exact requests_beginMark s state
  | requestHeap state => exact .inl rfl
  | onPosition place mode => exact .inl (latestTrace_onPosition s place mode)
  | acceptHeap graph settings renderer host =>
    have hmove : (s.move (.acceptHeap graph settings renderer host : Move ε)).2 =
      (s.acceptHeap graph settings renderer host).2.1 := rfl
    obtain ⟨hsession, -⟩ | ⟨slot, heap, -, -, -, hsession⟩ :=
      acceptHeap_cases s graph settings renderer host
    · exact .inl (by rw [hmove, hsession])
    · rw [hmove, hsession]
      exact requests_beginMark { s with heaps := s.heaps.store slot heap } graph.state
  | applyTrace trace => exact .inl (congrArg _ (ids_applyTrace s trace))

theorem requests_mark (s : Session) (state : Nat) (tracer : Nat → List TraceEntry) :
    s.Requests (s.mark state tracer).2 := by
  have hbegin := requests_beginMark s state
  unfold mark
  split
  · next heq => rwa [heq] at hbegin
  · next heq =>
    rw [heq] at hbegin
    unfold Requests
    rwa [ids_applyTrace]

theorem requests_operated (h : s.Operated s') : s.Requests s' := by
  cases h with
  | moved m => exact requests_move s m
  | marked state tracer => exact requests_mark s state tracer
  | attempted op editor =>
    obtain ⟨board, hsession, -⟩ := session_attempt op s editor
    exact .inl (by rw [hsession])
  | stripped d p => exact .inl rfl
  | reset => exact .inr (.inl rfl)
  | completeReset => exact .inr (.inl rfl)
  | guarded guard => exact .inl rfl

theorem uri_move {ε : Type} [Editor ε] (s : Session) (m : Move ε) : (s.move m).2.uri = s.uri := by
  cases m with
  | storeSnapshot snapshot =>
    cases hs : s.storeSnapshot snapshot with
    | error => simp [move, hs]
    | ok stored => simpa [move, hs] using (sameDocument_storeSnapshot hs).uri
  | showStates editor => exact (sameDocument_showStates s editor).uri
  | hideStates => rfl
  | beginMark state => exact (sameDocument_beginMark s state).uri
  | requestHeap state => rfl
  | onPosition place mode => exact (sameDocument_onPosition s place mode).uri
  | acceptHeap graph settings renderer host =>
    exact (sameDocument_acceptHeap s graph settings renderer host).uri
  | applyTrace trace => exact (sameDocument_applyTrace s trace).uri

theorem uri_mark (s : Session) (state : Nat) (tracer : Nat → List TraceEntry) :
    (s.mark state tracer).2.uri = s.uri := by
  have hbegin := (sameDocument_beginMark s state).uri
  unfold mark
  split
  · next heq => rwa [heq] at hbegin
  · next heq =>
    rw [heq] at hbegin
    exact (sameDocument_applyTrace _ _).uri.trans hbegin

theorem uri_operated (h : s.Operated s') : s'.uri = s.uri := by
  cases h with
  | moved m => exact uri_move s m
  | marked state tracer => exact uri_mark s state tracer
  | attempted op editor => exact (sameDocument_attempt op s editor).uri
  | stripped d p => rfl
  | reset => rfl
  | completeReset => rfl
  | guarded guard => rfl

theorem uri_operates (h : (ofUri uri).Operates s) : s.uri = uri := by
  induction h with
  | refl => rfl
  | tail _ hop ih => exact (uri_operated hop).trans ih

/-- A trace was asked for under this number in an operation on a session of the document that showed
its markers, and the operations since then have led here. -/
def AskedShown (uri : String) (id : Nat) (s : Session) : Prop :=
  ∃ t t', (ofUri uri).Operates t ∧ t.shown = true ∧ t.Operated t' ∧ id = t.ids.last + 1 ∧
    t'.ids.latestTrace = some id ∧ t'.Operates s

/-- No request for a trace waits for its answer but one that was made while the markers were
shown. -/
theorem askedShown_of_latestTrace (h : (ofUri uri).Operates s)
    (hlatest : s.ids.latestTrace = some id) : AskedShown uri id s := by
  induction h with
  | refl => cases hlatest
  | @tail t s hreached hop ih =>
    obtain hsame | hnone | ⟨hshown, hnew⟩ := requests_operated hop
    · obtain ⟨u, u', hu, hshown, hasked, hid, hwaits, hsince⟩ := ih (hsame.symm.trans hlatest)
      exact ⟨u, u', hu, hshown, hasked, hid, hwaits, hsince.tail hop⟩
    · rw [hnone] at hlatest
      cases hlatest
    · have hid : id = t.ids.last + 1 := Option.some.inj (hlatest.symm.trans hnew)
      exact ⟨t, s, hreached, hshown, hop, hid, hlatest, .refl⟩

section Hidden
variable (hidden : s.shown = false)

include hidden

theorem onPosition_of_hidden (p : Position) (mode : Mode) :
    s.onPosition p mode = (.ignored, s) := by
  simp [onPosition, hidden]

theorem beginMark_of_hidden (state : Nat) : s.beginMark state = (none, s) := by
  simp [beginMark, hidden]

theorem acceptHeap_of_hidden (graph : HeapGraph) (settings : Settings) (r : Renderer) (h : Host) :
    s.acceptHeap graph settings r h =
      (if graph.uri = s.uri then .ok none else .error (.identityMismatch s.uri graph.uri),
        s, h) := by
  have hunwanted : s.wants? graph settings.mode = none := by simp [wants?, hidden]
  unfold acceptHeap
  split
  · rw [hunwanted]
  · rfl

theorem rendered_of_hidden (dark : Bool) : s.rendered dark = [] := by
  simp [rendered, hidden]

end Hidden

/-- While the markers of a document are hidden, whatever has been done with its session before, the
cursor is passed over, no selection is begun, no heap is rendered or put into a slot, and nothing is
shown. One thing is still taken: the trace that was last asked for, and this was while the markers
were shown. It goes to the board, where it recolours its states; selection, heaps and all else stay.
Every other trace is passed over. -/
theorem hidden_takes_trace_only (h : (ofUri uri).Operates s) (hidden : s.shown = false) :
    (∀ p mode, s.onPosition p mode = (.ignored, s)) ∧
    (∀ state, s.beginMark state = (none, s)) ∧
    (∀ state tracer, s.mark state tracer = (false, s)) ∧
    (∀ graph settings r host, s.acceptHeap graph settings r host =
      (if graph.uri = uri then .ok none else .error (.identityMismatch uri graph.uri), s, host)) ∧
    (∀ dark, s.rendered dark = []) ∧
    ∀ trace : TraceReply,
      trace.uri = uri ∧ AskedShown uri trace.requestId s ∧
          s.ids.latestTrace = some trace.requestId ∧
          s.applyTrace trace = (true, { s with board := s.board.highlight trace.entries }) ∨
        ¬(trace.uri = uri ∧ s.ids.latestTrace = some trace.requestId) ∧
          s.applyTrace trace = (false, s) := by
  have huri := uri_operates h
  refine ⟨onPosition_of_hidden hidden, beginMark_of_hidden hidden, fun state tracer => ?_,
    fun graph settings r host => ?_, rendered_of_hidden hidden, fun trace => ?_⟩
  · rw [mark, beginMark_of_hidden hidden]
  · rw [acceptHeap_of_hidden hidden, huri]
  · unfold applyTrace
    simp only [RequestIds.wantsTrace, beq_iff_eq, huri]
    split
    · next hwanted =>
      exact .inl ⟨hwanted.1, askedShown_of_latestTrace h hwanted.2, hwanted.2, rfl⟩
    · next hunwanted => exact .inr ⟨hunwanted, rfl⟩

theorem Operates.play {ε : Type} [Editor ε] (h : t.Operates s) (log : Log) (moves : List (Move ε)) :
    t.Operates (s.play log moves).2 := by
  induction moves generalizing log s with
  | nil => exact h
  | cons m moves ih => exact ih (h.tail (.moved m)) _

/-- A run of two states. -/
def twoPlaces : Snapshot where
  uri := "d"
  steps := []
  markers := [.plain 0 ⟨0, 0⟩, .plain 1 ⟨0, 1⟩]
  info := none
  text := none

/-- The states are shown, the first one is selected, and they are hidden before its trace comes. -/
def hiddenMidway : Session :=
  ((ofUri "d").play [] [.storeSnapshot twoPlaces,
    .showStates (⟨.ofText "d" ['a', 'b'], ⟨.empty, []⟩⟩ : Buffer), .beginMark 0, .hideStates]).2

theorem operates_hiddenMidway : (ofUri "d").Operates hiddenMidway := Operates.play .refl _ _

/-- The trace that is still wanted was asked for while the states were shown. -/
theorem hidden_takes_trace_only_midway :
    hiddenMidway.shown = false ∧ (∀ state, hiddenMidway.beginMark state = (none, hiddenMidway)) ∧
      AskedShown "d" 1 hiddenMidway ∧
      (∀ entries, hiddenMidway.applyTrace ⟨1, "d", entries⟩ =
        (true, { hiddenMidway with board := hiddenMidway.board.highlight entries })) := by
  have hlatest : hiddenMidway.ids.latestTrace = some 1 := by decide +kernel
  obtain ⟨-, hbegin, -, -, -, htrace⟩ :=
    hidden_takes_trace_only operates_hiddenMidway (by decide +kernel)
  have htaken : ∀ entries, AskedShown "d" 1 hiddenMidway ∧
      hiddenMidway.applyTrace ⟨1, "d", entries⟩ =
        (true, { hiddenMidway with board := hiddenMidway.board.highlight entries }) := by
    intro entries
    obtain ⟨-, hasked, -, htaken⟩ | ⟨hunwanted, -⟩ := htrace ⟨1, "d", entries⟩
    · exact ⟨hasked, htaken⟩
    · exact absurd ⟨rfl, hlatest⟩ hunwanted
  exact ⟨by decide +kernel, hbegin, (htaken []).1, fun entries => (htaken entries).2⟩

/-- A trace that comes after the states were hidden still recolours one of them and gives it its
label. -/
theorem recoloured_while_hidden :
    let look (s : Session) := s.board.markers.map fun m => (m.colour, m.glyph)
    let after := (hiddenMidway.applyTrace ⟨1, "d", [⟨1, .interesting, true⟩]⟩).2
    (ofUri "d").Operates hiddenMidway ∧ hiddenMidway.shown = false ∧
      look hiddenMidway = [(.current, .hidden), (.uninteresting, .hidden)] ∧
      look after = [(.current, .hidden), (.interesting, .label)] :=
  ⟨operates_hiddenMidway, by decide +kernel, by decide +kernel, by decide +kernel⟩

end Waymark.Session
