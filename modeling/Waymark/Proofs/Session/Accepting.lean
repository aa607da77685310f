import Waymark.Proofs.Files.Joining
import Waymark.Proofs.Session.Wanting

/-! Accepting a heap graph: it is taken with all that belongs to it, or the session stays as it
is. -/

namespace Waymark

namespace Renderer
variable {r : Renderer} {h : Host} {dir : Path} {slot : Nat} {description : String}

/-- Rendering goes through: the directory is there in the end, the description is written into it,
and the program starts. -/
def GoesThrough (r : Renderer) (h : Host) (dir : Path) (slot : Nat) (description : String) : Prop :=
  ∃ disk disk' h', h.disk.makeDirectories dir = (.ok (), disk) ∧
    disk.write (HeapSlots.dotPath dir slot) (Text.toBytes description.toList) = .ok disk' ∧
    Host.run { h with disk := disk' }
      (r.launch (HeapSlots.dotPath dir slot) (HeapSlots.svgPath dir slot)) = .ok h'

/-- Nothing else can go wrong: a description that has been written is there to be rendered. -/
theorem writeAndRender_cases (r : Renderer) (h : Host) (dir : Path) (slot : Nat)
    (description : String) :
    r.GoesThrough h dir slot description ∧
      (r.writeAndRender h dir slot description).1 = .ok (HeapSlots.svgPath dir slot) ∨
    ¬ r.GoesThrough h dir slot description ∧
      ∃ e, (r.writeAndRender h dir slot description).1 = .error e := by
  unfold writeAndRender GoesThrough
  cases hmake : h.disk.makeDirectories dir with
  | mk made disk =>
    cases made with
    | error fault => exact .inr ⟨by simp, _, rfl⟩
    | ok =>
      dsimp only
      cases hwrite : disk.write (HeapSlots.dotPath dir slot) (Text.toBytes description.toList) with
      | error fault => exact .inr ⟨by simp [hwrite], _, rfl⟩
      | ok disk' =>
        dsimp only
        rw [render, if_pos (Disk.exists?_of_write hwrite)]
        cases hrun : Host.run { h with disk := disk' }
            (r.launch (HeapSlots.dotPath dir slot) (HeapSlots.svgPath dir slot)) with
        | error fault => exact .inr ⟨by simp [hwrite, hrun], _, rfl⟩
        | ok h' => exact .inl ⟨⟨disk, disk', h', rfl, hwrite, hrun⟩, rfl⟩

theorem fst_writeAndRender_of_goesThrough (hthrough : r.GoesThrough h dir slot description) :
    (r.writeAndRender h dir slot description).1 = .ok (HeapSlots.svgPath dir slot) := by
  obtain ⟨-, hsvg⟩ | ⟨hnot, -⟩ := r.writeAndRender_cases h dir slot description
  · exact hsvg
  · exact absurd hthrough hnot

theorem svg_of_writeAndRender {svg : Path}
    (hsvg : (r.writeAndRender h dir slot description).1 = .ok svg) :
    svg = HeapSlots.svgPath dir slot := by
  obtain ⟨-, hrendered⟩ | ⟨-, e, herror⟩ := r.writeAndRender_cases h dir slot description
  · exact Except.ok.inj (hsvg.symm.trans hrendered)
  · cases hsvg.symm.trans herror

theorem exists_error_of_not_goesThrough (hnot : ¬ r.GoesThrough h dir slot description) :
    ∃ e, (r.writeAndRender h dir slot description).1 = .error e := by
  obtain ⟨hthrough, -⟩ | ⟨-, herror⟩ := r.writeAndRender_cases h dir slot description
  · exact absurd hthrough hnot
  · exact herror

end Renderer

namespace Session
variable {s : Session} {graph : HeapGraph}

section
variable (settings : Settings) (r : Renderer) (h : Host)

theorem acceptHeap_of_foreign (huri : graph.uri ≠ s.uri) : s.acceptHeap graph settings r h =
    (.error (.identityMismatch s.uri graph.uri), s, h) := if_neg huri

variable {settings} (huri : graph.uri = s.uri)
include huri

theorem acceptHeap_of_unwanted (hwants : ¬ s.Wants graph settings.mode) :
    s.acceptHeap graph settings r h = (.ok none, s, h) := by
  rw [acceptHeap, if_pos huri, wants?_eq_none_iff.mpr hwants]

variable {r h} (hwants : s.Wants graph settings.mode)
include hwants

theorem acceptHeap_of_failed (hrender : ¬ r.GoesThrough h settings.heapDirectory
    (s.slotOf settings.mode graph.state).index graph.heap) :
    (∃ e, (s.acceptHeap graph settings r h).1 = .error e) ∧
      (s.acceptHeap graph settings r h).2.1 = s := by
  obtain ⟨e, he⟩ := Renderer.exists_error_of_not_goesThrough hrender
  rw [acceptHeap, if_pos huri, hwants.wants?_eq]
  dsimp only
  split
  · exact ⟨⟨_, rfl⟩, rfl⟩
  · next heq =>
    rw [heq] at he
    cases he

/-- A heap that is rendered goes into its slot, and its state is selected. -/
theorem acceptHeap_of_rendered (hrender : r.GoesThrough h settings.heapDirectory
    (s.slotOf settings.mode graph.state).index graph.heap) :
    (s.acceptHeap graph settings r h).1 = .ok (some ⟨s.ids.last + 1, s.uri, graph.state⟩) ∧
      (s.acceptHeap graph settings r h).2.1 = { s with
        board := s.board.repaint graph.state s.selection.previous
        selection := ⟨some graph.state, some graph.state⟩
        heaps := s.heaps.store (s.slotOf settings.mode graph.state) ⟨graph.state,
          HeapSlots.svgPath settings.heapDirectory
            (s.slotOf settings.mode graph.state).index, graph.method, graph.position⟩
        ids := (s.ids.requestTrace s.uri graph.state).2 } := by
  have hsvg := Renderer.fst_writeAndRender_of_goesThrough hrender
  rw [acceptHeap, if_pos huri, hwants.wants?_eq]
  dsimp only
  split
  · next heq =>
    rw [heq] at hsvg
    cases hsvg
  · next svg h' heq =>
    rw [heq] at hsvg
    obtain rfl := Except.ok.inj hsvg
    have hmark : s.shown ∧ (s.board.get? graph.state).isSome :=
      ⟨hwants.shown, isSome_get?_iff.mpr hwants.onBoard⟩
    rw [beginMark, if_pos hmark]
    exact ⟨rfl, rfl⟩

end

/-- A heap graph is accepted as a whole or not at all. It is accepted if it is of the session's
document, is wanted and can be rendered; then its state is selected, its heap is on display, and its
trace is the one that is waited for. In every other case the session stays as it is, with an error
if the graph is of another document or cannot be rendered. -/
theorem heap_accepted_wholly (s : Session) (graph : HeapGraph) (settings : Settings) (r : Renderer)
    (h : Host) :
    let result := s.acceptHeap graph settings r h
    let dir := settings.heapDirectory
    let slot := s.slotOf settings.mode graph.state
    ((∃ request, result.1 = .ok (some request)) ↔
      graph.uri = s.uri ∧ s.Wants graph settings.mode ∧ r.GoesThrough h dir slot.index graph.heap) ∧
    (∀ request, result.1 = .ok (some request) →
      request.state = graph.state ∧ request.uri = s.uri ∧
      result.2.1.selection = ⟨some graph.state, some graph.state⟩ ∧
      result.2.1.heaps.focused =
        some ⟨graph.state, HeapSlots.svgPath dir slot.index, graph.method, graph.position⟩ ∧
      result.2.1.ids.latestTrace = some request.requestId) ∧
    ((∀ request, result.1 ≠ .ok (some request)) → result.2.1 = s) ∧
    ((∃ e, result.1 = .error e) ↔ graph.uri ≠ s.uri ∨
      s.Wants graph settings.mode ∧ ¬ r.GoesThrough h dir slot.index graph.heap) := by
  intro result dir slot
  by_cases huri : graph.uri = s.uri
  · by_cases hwants : s.Wants graph settings.mode
    · by_cases hrender : r.GoesThrough h dir slot.index graph.heap
      · obtain ⟨hanswer, hsession⟩ := acceptHeap_of_rendered huri hwants hrender
        refine ⟨⟨fun _ => ⟨huri, hwants, hrender⟩, fun _ => ⟨_, hanswer⟩⟩, ?_, ?_, ?_⟩
        · intro request hrequest
          obtain rfl := Option.some.inj (Except.ok.inj (hanswer.symm.trans hrequest))
          rw [hsession]
          exact ⟨rfl, rfl, rfl, HeapSlots.focused_store, rfl⟩
        · exact fun hnone => absurd hanswer (hnone _)
        · simp [result, hanswer, huri, hrender]
      · obtain ⟨⟨e, he⟩, hsession⟩ := acceptHeap_of_failed huri hwants hrender
        exact ⟨by simp [result, he, hrender], by simp [result, he], fun _ => hsession,
          by simp [result, he, hwants, hrender]⟩
    · have hnone := acceptHeap_of_unwanted r h huri hwants
      simp [result, hnone, huri, hwants]
  · have hforeign := acceptHeap_of_foreign settings r h huri
    simp [result, hforeign, huri]

/-- A heap of the second state is waited for, and the first was selected last. -/
def waiting : Session :=
  { ofUri "d" with
    board := .ofMarkers [.plain 0 ⟨0, 0⟩, .plain 1 ⟨0, 1⟩]
    selection := ⟨some 0, some 0⟩
    ids := ⟨3, none, some 3⟩
    shown := true }

/-- On a machine where programs start it is accepted, and a heap of the first state is not. -/
theorem heap_accepted_wholly_of_waiting :
    let h : Host := ⟨⟨⟨[]⟩, []⟩, fun d _ => .ok d, .ofString "/tmp"⟩
    let settings : Settings := { Settings.default h.temporary with simpleMode := false }
    let r : Renderer := ⟨Path.ofString "/r", []⟩
    let graph : HeapGraph := ⟨3, "d", 1, "g", none, none⟩
    (∃ request, (waiting.acceptHeap graph settings r h).1 = .ok (some request) ∧
      request.state = 1 ∧
      (waiting.acceptHeap graph settings r h).2.1.selection = ⟨some 1, some 1⟩) ∧
    (waiting.acceptHeap { graph with state := 0 } settings r h).2.1 = waiting := by
  intro h settings r graph
  obtain ⟨-, haccepted, -⟩ := heap_accepted_wholly waiting graph settings r h
  obtain ⟨-, -, hrefused, -⟩ := heap_accepted_wholly waiting { graph with state := 0 } settings r h
  have hsome : (waiting.acceptHeap graph settings r h).1.toOption = some (some ⟨4, "d", 1⟩) := by
    decide +kernel
  have hnone : (waiting.acceptHeap { graph with state := 0 } settings r h).1 = .ok none := by rfl
  constructor
  · cases hanswer : (waiting.acceptHeap graph settings r h).1 with
    | error e =>
      rw [hanswer] at hsome
      cases hsome
    | ok answer =>
      rw [hanswer] at hsome
      obtain rfl := Option.some.inj hsome
      obtain ⟨hstate, -, hselection, -⟩ := haccepted _ hanswer
      exact ⟨_, rfl, hstate, hselection⟩
  · refine hrefused fun request heq => ?_
    rw [hnone] at heq
    cases heq

end Session

end Waymark
