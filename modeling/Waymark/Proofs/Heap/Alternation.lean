import Waymark.Proofs.Files.Joining
import Waymark.Proofs.Session.Displaying
import Waymark.Proofs.Session.Hiding

/-! Heap slots in turn. Whatever has been done with them, the focused slot holds the heap that was
stored last, and the next heap goes to the other one. -/

namespace Waymark

namespace HeapSlots
variable {h : HeapSlots} {heap : RenderedHeap} {slot : Slot}

/-- What is done with slots. A heap is stored in the next slot, or in place of the one on
display. -/
inductive Operation
  | storeNext (heap : RenderedHeap)
  | storeFocused (heap : RenderedHeap)
  | discard
  | reset
deriving DecidableEq

/-- The heap that an operation stores, if it stores one. -/
def Operation.stored? : Operation → Option RenderedHeap
  | storeNext heap => some heap
  | storeFocused heap => some heap
  | discard => none
  | reset => none

variable {op : Operation} {ops : List Operation}

/-- The slots after one operation. -/
def perform (h : HeapSlots) : Operation → HeapSlots
  | .storeNext heap => h.store h.next heap
  | .storeFocused heap => h.store h.focus heap
  | .discard => h.discardPending
  | .reset => empty

/-- The slots after operations on empty ones, the first operation first. -/
def ofOperations (ops : List Operation) : HeapSlots := ops.foldl perform empty

/-- A heap was stored, and since then the slots were neither filled nor reset. -/
def StoredLast (ops : List Operation) (heap : RenderedHeap) : Prop :=
  ∃ before op after, ops = before ++ op :: after ∧ op.stored? = some heap ∧
    ∀ op' ∈ after, op'.stored? = none ∧ op' ≠ .reset

/-- The files of a slot. -/
def files (dir : Path) (slot : Slot) : List Path :=
  [dotPath dir slot.index, svgPath dir slot.index]

theorem ofOperations_concat : ofOperations (ops ++ [op]) = (ofOperations ops).perform op := by
  simp [ofOperations]

theorem not_storedLast_nil : ¬ StoredLast [] heap := by
  rintro ⟨before, op, after, hops, -⟩
  simp at hops

theorem storedLast_concat : StoredLast (ops ++ [op]) heap ↔
    op.stored? = some heap ∨ op = .discard ∧ StoredLast ops heap := by
  constructor
  · rintro ⟨before, op', after, hops, hstored, hafter⟩
    obtain rfl | ⟨after, last, rfl⟩ := List.eq_nil_or_concat' after
    · obtain ⟨-, hop⟩ := List.append_inj' hops rfl
      obtain rfl := List.singleton_inj.mp hop
      exact .inl hstored
    · rw [← List.cons_append, ← List.append_assoc] at hops
      obtain ⟨rfl, hop⟩ := List.append_inj' hops rfl
      obtain rfl := List.singleton_inj.mp hop
      have hlast : op = .discard := by
        obtain ⟨hnone, hreset⟩ := hafter op (by simp)
        cases op with
        | discard => rfl
        | reset => exact absurd rfl hreset
        | storeNext heap => cases hnone
        | storeFocused heap => cases hnone
      exact .inr ⟨hlast, before, op', after, rfl, hstored, fun o ho => hafter o (by simp [ho])⟩
  · rintro (hstored | ⟨rfl, before, op', after, rfl, hstored, hafter⟩)
    · exact ⟨ops, op, [], rfl, hstored, by simp⟩
    · refine ⟨before, op', after ++ [.discard], by simp, hstored, fun o ho => ?_⟩
      obtain ho | ho := List.mem_append.mp ho
      · exact hafter o ho
      · obtain rfl := List.mem_singleton.mp ho
        exact ⟨rfl, nofun⟩

theorem focused_perform : (h.perform op).focused = some heap ↔
    op.stored? = some heap ∨ op = .discard ∧ h.focused = some heap := by
  cases op with
  | storeNext stored => simp [perform, Operation.stored?]
  | storeFocused stored => simp [perform, Operation.stored?]
  | discard => simp [perform, Operation.stored?]
  | reset => simp [perform, Operation.stored?, focused, get, empty]

/-- The heap on display is the one stored last. -/
theorem focused_ofOperations : (ofOperations ops).focused = some heap ↔ StoredLast ops heap := by
  induction ops using List.reverseRecOn with
  | nil => simpa [ofOperations, focused, get, empty] using not_storedLast_nil
  | append_singleton ops op ih => rw [ofOperations_concat, focused_perform, ih, storedLast_concat]

/-- The next slot is the focused one only where nothing has been done since a reset, discarding
included. -/
theorem next_perform : (h.perform op).next = (h.perform op).focus ↔ op = .reset := by
  cases op with
  | storeNext heap => simp [perform, store, Slot.other_ne]
  | storeFocused heap => simp [perform, store, Slot.other_ne]
  | discard =>
    obtain ⟨first, second, next, focus⟩ := h
    cases focus <;> simp [perform, discardPending, set, Slot.other]
  | reset => simp [perform, empty]

theorem next_ofOperations : (ofOperations ops).next = (ofOperations ops).focus ↔
    ∀ op ∈ ops.getLast?, op = .reset := by
  induction ops using List.reverseRecOn with
  | nil => simp [ofOperations, empty]
  | append_singleton ops op _ => simp [ofOperations_concat, next_perform]

/-- Slots of which the next one is focused are empty. -/
theorem eq_empty_of_next (hnext : (ofOperations ops).next = (ofOperations ops).focus) :
    ofOperations ops = empty := by
  obtain rfl | ⟨ops, op, rfl⟩ := List.eq_nil_or_concat' ops
  · rfl
  · have hop : op = .reset := next_ofOperations.mp hnext op (by simp)
    rw [ofOperations_concat, hop, perform]

theorem next_ne_focus (hlast : StoredLast ops heap) :
    (ofOperations ops).next ≠ (ofOperations ops).focus := by
  intro hnext
  have hfocused := focused_ofOperations.mpr hlast
  rw [eq_empty_of_next hnext] at hfocused
  cases hfocused

theorem eq_other_of_ne {slot' : Slot} (hne : slot ≠ slot') : slot' = slot.other := by
  cases slot <;> cases slot' <;> first | rfl | exact absurd rfl hne

/-- The slots have the numbers zero and one, and one stands for all numbers above it too. -/
theorem getIndex?_store_ofIndex (n i : Nat) : (h.store (.ofIndex n) heap).getIndex? i =
    if i = min n 1 then some heap else h.getIndex? i := by
  cases n with
  | zero =>
    match i with
    | 0 => rfl
    | 1 => rfl
    | _ + 2 => rfl
  | succ n =>
    rw [Nat.min_eq_right (Nat.succ_pos n)]
    match i with
    | 0 => rfl
    | 1 => rfl
    | _ + 2 => rfl

/-- A heap that goes to the next slot leaves the one on display to the other slot. -/
theorem get_other_store_next :
    ((ofOperations ops).store (ofOperations ops).next heap).get (ofOperations ops).next.other =
      (ofOperations ops).focused := by
  rw [get_store, if_neg Slot.other_ne, focused]
  by_cases hnext : (ofOperations ops).next = (ofOperations ops).focus
  · rw [eq_empty_of_next hnext]
    rfl
  · rw [eq_other_of_ne hnext]

theorem get_other_discardPending :
    h.discardPending.get h.discardPending.focus.other = none := by
  obtain ⟨first, second, next, focus⟩ := h
  cases focus <;> rfl

theorem apart_files {wd : Place} {dir p q : Path} {slot' : Slot} (hne : slot ≠ slot')
    (hp : p ∈ files dir slot) (hq : q ∈ files dir slot') : p.Apart wd q := by
  simp only [files, List.mem_cons, List.not_mem_nil, or_false] at hp hq
  obtain rfl | rfl := hp <;> obtain rfl | rfl := hq
  · exact apart_dotPath hne
  · exact apart_svgPath
  · exact apart_svgPath.symm
  · exact apart_svgPaths hne

end HeapSlots

namespace Session
variable {s s' : Session} {uri : String} {graph : HeapGraph} {mode : Mode}

/-- A heap takes the place of the one on display: it is that of an error state, in simple mode. -/
def InPlace (s : Session) (mode : Mode) (state : Nat) : Prop :=
  mode = .simple ∧ ∃ m ∈ s.board.get? state, m.isError = true

/-- A heap that is accepted takes the place of the one on display or goes to the next slot. -/
theorem heaps_acceptHeap (s : Session) (graph : HeapGraph) (settings : Settings) (r : Renderer)
    (h : Host) :
    let after := (s.acceptHeap graph settings r h).2.1.heaps
    after = s.heaps ∨
      s.InPlace settings.mode graph.state ∧ (∃ heap, after = s.heaps.store s.heaps.focus heap) ∨
      ¬ s.InPlace settings.mode graph.state ∧ ∃ heap, after = s.heaps.store s.heaps.next heap := by
  intro after
  obtain ⟨hsession, -⟩ | ⟨slot, heap, -, hslot, -, hsession⟩ :=
    acceptHeap_cases s graph settings r h
  · exact .inl (congrArg Session.heaps hsession)
  · obtain ⟨-, rfl⟩ := wants?_eq_some_iff.mp hslot
    have hafter : after = s.heaps.store (s.slotOf settings.mode graph.state) heap :=
      (congrArg Session.heaps hsession).trans (heaps_beginMark _ _)
    by_cases hplace : s.InPlace settings.mode graph.state
    · have hfocus : s.slotOf settings.mode graph.state = s.heaps.focus := if_pos hplace
      exact .inr (.inl ⟨hplace, heap, hfocus ▸ hafter⟩)
    · have hnext : s.slotOf settings.mode graph.state = s.heaps.next := if_neg hplace
      exact .inr (.inr ⟨hplace, heap, hnext ▸ hafter⟩)

/-- What one operation on a session does to its slots: nothing, or one of the operations on
slots. -/
def TurnsSlots (s s' : Session) : Prop :=
  s'.heaps = s.heaps ∨ ∃ op, s'.heaps = s.heaps.perform op

theorem turnsSlots_acceptHeap (s : Session) (graph : HeapGraph) (settings : Settings) (r : Renderer)
    (h : Host) : s.TurnsSlots (s.acceptHeap graph settings r h).2.1 := by
  obtain hsame | ⟨-, heap, hstored⟩ | ⟨-, heap, hstored⟩ := heaps_acceptHeap s graph settings r h
  · exact .inl hsame
  · exact .inr ⟨.storeFocused heap, hstored⟩
  · exact .inr ⟨.storeNext heap, hstored⟩

theorem turnsSlots_onPosition (s : Session) (p : Position) (mode : Mode) :
    s.TurnsSlots (s.onPosition p mode).2 := by
  obtain haction | ⟨m, -, -, haction⟩ | ⟨m, current, -, -, -, haction⟩ := s.onPosition_cases p mode
  · exact .inl (by rw [haction])
  · exact .inr ⟨.discard, by rw [haction]; rfl⟩
  · exact .inl (by rw [haction]; rfl)

theorem turnsSlots_move {ε : Type} [Editor ε] (s : Session) (m : Move ε) :
    s.TurnsSlots (s.move m).2 := by
  cases m with
  | storeSnapshot snapshot =>
    cases hs : s.storeSnapshot snapshot with
    | error => exact .inl (by simp [move, hs])
    | ok stored =>
      have hmove : (s.move (.storeSnapshot snapshot : Move ε)).2 = stored := by simp [move, hs]
      unfold storeSnapshot at hs
      split at hs
      · obtain rfl := Except.ok.inj hs
        exact .inr ⟨.reset, by rw [hmove]; rfl⟩
      · cases hs
  | showStates editor => exact .inl (heaps_showStates s editor)
  | hideStates => exact .inl rfl
  | beginMark state => exact .inl (heaps_beginMark s state)
  | requestHeap state => exact .inl rfl
  | onPosition place mode => exact turnsSlots_onPosition s place mode
  | acceptHeap graph settings renderer host =>
    exact turnsSlots_acceptHeap s graph settings renderer host
  | applyTrace trace => exact .inl (heaps_applyTrace s trace)

theorem turnsSlots_operated (h : s.Operated s') : s.TurnsSlots s' := by
  cases h with
  | moved m => exact turnsSlots_move s m
  | marked state tracer =>
    refine .inl ?_
    have hbegin := heaps_beginMark s state
    unfold mark
    split
    · next heq => rwa [heq] at hbegin
    · next heq =>
      rw [heq] at hbegin
      exact (heaps_applyTrace _ _).trans hbegin
  | attempted op editor =>
    obtain ⟨board, hsession, -⟩ := session_attempt op s editor
    exact .inl (by rw [hsession])
  | stripped d p => exact .inl rfl
  | reset => exact .inr ⟨.reset, rfl⟩
  | completeReset => exact .inr ⟨.reset, rfl⟩
  | guarded guard => exact .inl rfl

/-- The slots of a session have come to what they are by operations on slots. -/
theorem exists_ofOperations (h : (ofUri uri).Operates s) :
    ∃ ops, s.heaps = HeapSlots.ofOperations ops := by
  induction h with
  | refl => exact ⟨[], rfl⟩
  | tail _ hop ih =>
    obtain ⟨ops, hops⟩ := ih
    obtain hsame | ⟨op, hturned⟩ := turnsSlots_operated hop
    · exact ⟨ops, hsame.trans hops⟩
    · exact ⟨ops ++ [op], by rw [hturned, hops, HeapSlots.ofOperations_concat]⟩

theorem get_focus_acceptHeap {old : RenderedHeap} (hops : ∃ ops, s.heaps = .ofOperations ops)
    (hold : s.heaps.focused = some old) (settings : Settings) (r : Renderer) (h : Host)
    (hplace : ¬ s.InPlace settings.mode graph.state) :
    (s.acceptHeap graph settings r h).2.1.heaps.get s.heaps.focus = some old := by
  obtain hsame | ⟨hplace', -⟩ | ⟨-, heap, hstored⟩ := heaps_acceptHeap s graph settings r h
  · rw [hsame]
    exact hold
  · exact absurd hplace' hplace
  · obtain ⟨ops, hops⟩ := hops
    have hne : s.heaps.focus ≠ s.heaps.next := by
      rw [hops] at hold ⊢
      exact (HeapSlots.next_ne_focus (HeapSlots.focused_ofOperations.mp hold)).symm
    rw [hstored, HeapSlots.get_store, if_neg hne]
    exact hold

end Session

namespace HeapSlots

/-- Whatever has been stored, discarded and reset before, the heap on display is the one that was
stored last since the last reset. As soon as there is one, the next slot is another, with other
files, and a heap that goes there leaves it in the slot that is then not focused; discarding empties
that slot only. A heap that is stored under a number is on display as well, and there is no slot
behind the second one. The slots of a session come about in this way. A heap that a session accepts
takes the place of the one on display only if it is that of an error state in simple mode. -/
theorem latest_two_kept :
    (∀ ops, let h := ofOperations ops
      (h.next.index = 0 ∨ h.next.index = 1) ∧ (h.focus.index = 0 ∨ h.focus.index = 1) ∧
      (∀ heap, h.focused = some heap ↔ StoredLast ops heap) ∧
      (h.next = h.focus ↔ ∀ op ∈ ops.getLast?, op = .reset) ∧
      (∀ heap, StoredLast ops heap → h.next ≠ h.focus ∧
        ∀ wd dir, ∀ p ∈ files dir h.focus, ∀ q ∈ files dir h.next, p.Apart wd q) ∧
      (∀ heap, let stored := h.store h.next heap
        stored.focused = some heap ∧ stored.get stored.focus.other = h.focused) ∧
      (∀ heap n, let stored := h.store (.ofIndex n) heap
        stored.focused = some heap ∧
          ∀ i, stored.getIndex? i = if i = min n 1 then some heap else h.getIndex? i) ∧
      let discarded := h.discardPending
      discarded.focused = h.focused ∧ discarded.get discarded.focus.other = none) ∧
    ∀ uri (s : Session), (Session.ofUri uri).Operates s →
      (∃ ops, s.heaps = ofOperations ops) ∧
      ∀ graph settings r host, let after := (s.acceptHeap graph settings r host).2.1.heaps
        (after = s.heaps ∨
          s.InPlace settings.mode graph.state ∧ (∃ heap, after = s.heaps.store s.heaps.focus heap) ∨
          ¬ s.InPlace settings.mode graph.state ∧
            ∃ heap, after = s.heaps.store s.heaps.next heap) ∧
        ∀ old, s.heaps.focused = some old → ¬ s.InPlace settings.mode graph.state →
          after.get s.heaps.focus = some old := by
  refine ⟨fun ops => ?_, fun uri s hs => ?_⟩
  · intro h
    have hindex : ∀ slot : Slot, slot.index = 0 ∨ slot.index = 1 := by
      rintro (_ | _)
      · exact .inl rfl
      · exact .inr rfl
    refine ⟨hindex _, hindex _, fun _ => focused_ofOperations, next_ofOperations,
      fun heap hlast => ?_, fun heap => ?_, fun heap n => ?_, focused_discardPending, ?_⟩
    · have hne := next_ne_focus hlast
      exact ⟨hne, fun wd dir p hp q hq => apart_files hne.symm hp hq⟩
    · exact ⟨focused_store, get_other_store_next⟩
    · exact ⟨focused_store, getIndex?_store_ofIndex n⟩
    · exact get_other_discardPending
  · have hops := Session.exists_ofOperations hs
    exact ⟨hops, fun graph settings r host => ⟨Session.heaps_acceptHeap s graph settings r host,
      fun old hold hplace => Session.get_focus_acceptHeap hops hold settings r host hplace⟩⟩

/-- The heap of a state, wherever its image is. -/
def heapOf (state : Nat) : RenderedHeap := ⟨state, default, none, none⟩

/-- A machine on which every program starts and does nothing. -/
def idleHost : Host := ⟨⟨.empty, []⟩, fun d _ => .ok d, .ofString "/tmp"⟩

/-- A session with a heap on display that waits for another one. -/
def displaying : Session :=
  ((Session.ofUri "d").play [] [.storeSnapshot Session.twoPlaces,
    .showStates (⟨.ofText "d" ['a', 'b'], ⟨.empty, []⟩⟩ : Buffer), .requestHeap 0,
    .acceptHeap ⟨1, "d", 0, "g", none, none⟩ (.default idleHost.temporary)
      ⟨⟨[]⟩, []⟩ idleHost, .requestHeap 1]).2

theorem latest_two_kept_of_turns :
    let ops : List Operation := [.storeNext (heapOf 0), .reset, .discard, .storeFocused (heapOf 1),
      .storeNext (heapOf 2), .discard]
    let h := ofOperations ops
    let after := (displaying.acceptHeap ⟨3, "d", 1, "g", none, none⟩
      (.default idleHost.temporary) ⟨⟨[]⟩, []⟩ idleHost).2.1.heaps
    h.focused = some (heapOf 2) ∧ h.next ≠ h.focus ∧
      (h.store h.next (heapOf 3)).get (h.store h.next (heapOf 3)).focus.other =
        some (heapOf 2) ∧
      after ≠ displaying.heaps ∧ ∃ old, displaying.heaps.focused = some old ∧ old.state = 0 ∧
        after.get displaying.heaps.focus = some old := by
  intro ops h after
  obtain ⟨hslots, hsessions⟩ := latest_two_kept
  obtain ⟨-, -, hfocused, -, hapart, hstored, -⟩ := hslots ops
  have hlast : StoredLast ops (heapOf 2) :=
    ⟨[.storeNext (heapOf 0), .reset, .discard, .storeFocused (heapOf 1)], .storeNext (heapOf 2),
      [.discard], rfl, rfl, by decide⟩
  have htwo : h.focused = some (heapOf 2) := (hfocused _).mpr hlast
  obtain ⟨old, hold⟩ : ∃ old, displaying.heaps.focused = some old :=
    Option.isSome_iff_exists.mp (by decide +kernel)
  have hstate : displaying.heaps.focused.map (·.state) = some 0 := by decide +kernel
  have hmarkers : displaying.board.markers.map (·.isError) = [false, false] := by decide +kernel
  have hplace : ¬ displaying.InPlace (Settings.default idleHost.temporary).mode 1 := by
    rintro ⟨-, m, hm, herror⟩
    have hmem : m ∈ displaying.board.markers :=
      List.mem_reverse.mp (List.mem_of_find?_eq_some (Option.mem_def.mp hm))
    have hfalse : m.isError ∈ [false, false] := hmarkers ▸ List.mem_map_of_mem hmem
    simp [herror] at hfalse
  obtain ⟨-, haccepted⟩ := hsessions "d" displaying (Session.Operates.play .refl _ _)
  have hkept := (haccepted ⟨3, "d", 1, "g", none, none⟩ (.default idleHost.temporary) ⟨⟨[]⟩, []⟩
    idleHost).2 old hold hplace
  refine ⟨htwo, (hapart _ hlast).1, (hstored _).2.trans htwo, by decide +kernel, old, hold, ?_,
    hkept⟩
  rw [hold] at hstate
  exact Option.some.inj hstate

end HeapSlots

end Waymark
