import Mathlib.Data.List.Induction
import Waymark.Proofs.Marker.Ranges

/-! Looking markers up in tables of where they are. The tables are made with the ranges, so that
nothing that is done to the markers leaves them behind. -/

namespace Waymark

namespace Board
variable {b : Board} {ms : List Marker} {m m' : Marker} {i j : Nat} {p : Marker → Prop}

/-- The entry `m` at the place `i` is the last that satisfies `p`. -/
def IsLast (p : Marker → Prop) (ms : List Marker) (i : Nat) (m : Marker) : Prop :=
  ms[i]? = some m ∧ p m ∧ ∀ j m', i < j → ms[j]? = some m' → ¬ p m'

theorem isLast_concat_self (h : p m) : IsLast p (ms ++ [m]) ms.length m := by
  refine ⟨by simp, h, ?_⟩
  intro j m' hj hm'
  have hlt := (List.getElem?_eq_some_iff.mp hm').1
  rw [List.length_append, List.length_singleton] at hlt
  omega

theorem getElem?_concat_of_not (h : ¬ p m) (h' : p m') :
    (ms ++ [m])[j]? = some m' ↔ ms[j]? = some m' := by
  by_cases hj : j < ms.length
  · rw [List.getElem?_append_left hj]
  · have hnone : ms[j]? = none := List.getElem?_eq_none_iff.mpr (by omega)
    have hne : m ≠ m' := fun heq => h (heq ▸ h')
    rw [List.getElem?_append_right (by omega), hnone, List.getElem?_singleton]
    split <;> simp [hne]

theorem isLast_concat_of_not (h : ¬ p m) : IsLast p (ms ++ [m]) i m' ↔ IsLast p ms i m' := by
  constructor
  · rintro ⟨hm', hp, hlast⟩
    refine ⟨(getElem?_concat_of_not h hp).mp hm', hp, ?_⟩
    intro j m'' hj hm'' hp''
    exact hlast j m'' hj ((getElem?_concat_of_not h hp'').mpr hm'') hp''
  · rintro ⟨hm', hp, hlast⟩
    refine ⟨(getElem?_concat_of_not h hp).mpr hm', hp, ?_⟩
    intro j m'' hj hm'' hp''
    exact hlast j m'' hj ((getElem?_concat_of_not h hp'').mp hm'') hp''

theorem IsLast.unique (h : IsLast p ms i m) (h' : IsLast p ms j m') : i = j ∧ m = m' := by
  obtain ⟨hm, hp, hlast⟩ := h
  obtain ⟨hm', hp', hlast'⟩ := h'
  have hij : i = j := by
    rcases Nat.lt_trichotomy i j with hlt | heq | hgt
    · exact absurd hp' (hlast j m' hlt hm')
    · exact heq
    · exact absurd hp (hlast' i m hgt hm)
  subst hij
  exact ⟨rfl, Option.some.inj (hm.symm.trans hm')⟩

/-- Searching from the end finds the last entry. -/
theorem find?_reverse_eq_some_iff [DecidablePred p] :
    ms.reverse.find? p = some m ↔ ∃ i, IsLast p ms i m := by
  induction ms using List.reverseRecOn with
  | nil => simp [IsLast]
  | append_singleton ms m' ih =>
    rw [List.reverse_append, List.reverse_singleton, List.singleton_append, List.find?_cons]
    by_cases hp : p m'
    · have hself : IsLast p (ms ++ [m']) ms.length m' := isLast_concat_self hp
      simp only [hp, decide_true, Option.some.injEq]
      constructor
      · rintro rfl
        exact ⟨_, hself⟩
      · rintro ⟨i, h⟩
        exact (hself.unique h).2
    · simp only [hp, decide_false, ih, isLast_concat_of_not hp]

theorem modifyLast_of_isLast [DecidablePred p] {f : Marker → Marker} (h : IsLast p ms i m) :
    modifyLast (fun m => decide (p m)) f ms = ms.modify i f := by
  induction ms generalizing i with
  | nil => cases h.1
  | cons first ms ih =>
    obtain ⟨hm, hp, hlast⟩ := h
    cases i with
    | zero =>
      obtain rfl : first = m := by simpa using hm
      have hnone : ms.any (fun m => decide (p m)) = false := by
        rw [List.any_eq_false]
        intro m' hm'
        obtain ⟨j, hj⟩ := List.mem_iff_getElem?.mp hm'
        simpa using hlast (j + 1) m' (Nat.succ_pos j) (by simpa using hj)
      simp [modifyLast, hnone, hp]
    | succ i =>
      have htail : IsLast p ms i m :=
        ⟨by simpa using hm, hp, fun j m' hj hm' => hlast (j + 1) m' (by omega) (by simpa using hm')⟩
      have hany : ms.any (fun m => decide (p m)) = true := by
        rw [List.any_eq_true]
        exact ⟨m, List.mem_of_getElem? htail.1, by simpa using hp⟩
      simp [modifyLast, hany, ih htail]

section
variable {state : Nat} {q : Position}

theorem get?_eq_some_iff : b.get? state = some m ↔ ∃ i, IsLast (·.index = state) b.markers i m :=
  find?_reverse_eq_some_iff

theorem get?_eq_none_iff : b.get? state = none ↔ ∀ m ∈ b.markers, m.index ≠ state := by
  simp [get?, List.find?_eq_none]

theorem atPosition?_eq_some_iff :
    b.atPosition? q = some m ↔ ∃ i, IsLast (·.range.start = q) b.markers i m :=
  find?_reverse_eq_some_iff

theorem atPosition?_eq_none_iff :
    b.atPosition? q = none ↔ ∀ m ∈ b.markers, m.range.start ≠ q := by
  simp [atPosition?, List.find?_eq_none]

theorem modify_of_isLast {f : Marker → Marker} (h : IsLast (·.index = state) b.markers i m) :
    b.modify state f = { b with markers := b.markers.modify i f } :=
  congrArg (fun markers => { b with markers }) (modifyLast_of_isLast h)

end

end Board

/-- A table of the places of entries by a key that they have, made entry by entry: what is entered
last for a key counts. -/
def tabulate {α κ : Type} [DecidableEq κ] (key : α → κ) (xs : List α) : κ → Option Nat :=
  xs.zipIdx.foldl (fun table e k => if k = key e.1 then some e.2 else table k) fun _ => none

section
open Board
variable {κ : Type} [DecidableEq κ] {key : Marker → κ} {ms ms' : List Marker} {m : Marker} {k : κ}
  {i : Nat}

theorem tabulate_concat : tabulate key (ms ++ [m]) k =
    if k = key m then some ms.length else tabulate key ms k := by
  simp [tabulate, List.zipIdx_append]

theorem tabulate_congr (h : ms.map key = ms'.map key) : tabulate key ms = tabulate key ms' := by
  have hkeys : ∀ ms : List Marker, tabulate key ms = tabulate id (ms.map key) := by
    intro ms
    rw [tabulate, tabulate, List.zipIdx_map, List.foldl_map]
    rfl
  rw [hkeys, h, hkeys]

theorem tabulate_eq_some_iff : tabulate key ms k = some i ↔ ∃ m, IsLast (key · = k) ms i m := by
  induction ms using List.reverseRecOn with
  | nil => simp [tabulate, IsLast]
  | append_singleton ms m ih =>
    rw [tabulate_concat]
    by_cases hk : k = key m
    · have hself : IsLast (key · = k) (ms ++ [m]) ms.length m := isLast_concat_self hk.symm
      rw [if_pos hk, Option.some.injEq]
      constructor
      · rintro rfl
        exact ⟨m, hself⟩
      · rintro ⟨m', h⟩
        exact (hself.unique h).1
    · have hnot : ¬ key m = k := fun heq => hk heq.symm
      simp only [if_neg hk, ih, isLast_concat_of_not (p := (key · = k)) hnot]

/-- Looking an entry up by a table is searching for it from the end. -/
theorem bind_tabulate (key : Marker → κ) (ms : List Marker) (k : κ) :
    (tabulate key ms k).bind (ms[·]?) = ms.reverse.find? (key · = k) := by
  apply Option.ext
  intro m
  rw [find?_reverse_eq_some_iff, Option.bind_eq_some_iff]
  simp only [tabulate_eq_some_iff]
  constructor
  · rintro ⟨i, ⟨m', h⟩, hm⟩
    obtain rfl : m' = m := Option.some.inj (h.1.symm.trans hm)
    exact ⟨i, h⟩
  · rintro ⟨i, h⟩
    exact ⟨i, ⟨m, h⟩, h.1⟩

end

/-- A board with tables of where its markers are, by state and by the start of the range. Like the
ranges, the tables are made anew when the list or the anchoring changes, and only then. -/
structure Catalogue where
  board : Board
  byState : Nat → Option Nat
  byStart : Position → Option Nat

namespace Catalogue
variable {c : Catalogue} {b : Board}

/-- A board with tables that are made for it. -/
def ofBoard (b : Board) : Catalogue :=
  ⟨b, tabulate (·.index) b.markers, tabulate (·.range.start) b.markers⟩

/-- The marker of a state, by the table. -/
def get? (c : Catalogue) (state : Nat) : Option Marker :=
  (c.byState state).bind (c.board.markers[·]?)

/-- The marker whose range starts at a position, by the table. -/
def atPosition? (c : Catalogue) (p : Position) : Option Marker :=
  (c.byStart p).bind (c.board.markers[·]?)

/-- What is done to the markers of a document. Colours and glyphs change in place, those of one
state or those of all markers, and may depend on the marker as it is and on where it is. -/
inductive Operation
  | replace (markers : List Marker)
  | clear
  | setAnchored (anchored : Bool)
  | setLook (state : Nat) (look : Marker → Colour × Glyph)
  | setLooks (look : Nat → Marker → Colour × Glyph)

/-- Does one thing to the markers. -/
def perform (c : Catalogue) : Operation → Catalogue
  | .replace markers => ofBoard (.ofMarkers markers)
  | .clear => ofBoard .empty
  | .setAnchored anchored =>
    if c.board.anchored = anchored then c else ofBoard (c.board.setAnchored anchored)
  | .setLook state look =>
    match c.byState state with
    | none => c
    | some i =>
      { c with board := { c.board with
        markers := c.board.markers.modify i fun m => m.painted (look m) } }
  | .setLooks look => { c with board := c.board.dress look }

/-- Does one thing after the other, from a board without markers. -/
def run (ops : List Operation) : Catalogue := ops.foldl perform (ofBoard .empty)

/-- The tables and the ranges are those of the board as it is. -/
structure Current (c : Catalogue) : Prop where
  tables : c = ofBoard c.board
  ranges : c.board.LaidOut

theorem current_ofBoard (h : b.LaidOut) : Current (ofBoard b) := ⟨rfl, h⟩

/-- Colours and glyphs are in no table and make no ranges. -/
theorem Current.dress (h : Current c) (look : Nat → Marker → Colour × Glyph) :
    Current { c with board := c.board.dress look } := by
  refine ⟨?_, h.ranges.dress look⟩
  have hstate : tabulate (·.index) (c.board.dress look).markers = c.byState := by
    rw [tabulate_congr (Board.map_dress look fun _ _ => rfl), h.tables]
    rfl
  have hstart : tabulate (·.range.start) (c.board.dress look).markers = c.byStart := by
    rw [tabulate_congr (Board.map_dress look fun _ _ => rfl), h.tables]
    rfl
  rw [ofBoard, hstate, hstart]

theorem Current.perform (h : Current c) (op : Operation) : Current (c.perform op) := by
  cases op with
  | replace markers => exact current_ofBoard (Board.laidOut_layOut false markers)
  | clear => exact current_ofBoard (Board.laidOut_layOut false [])
  | setAnchored anchored =>
    rw [Catalogue.perform]
    split
    · exact h
    · next hne =>
      rw [Board.setAnchored, if_neg hne]
      exact current_ofBoard (Board.laidOut_layOut anchored c.board.markers)
  | setLook state look =>
    rw [Catalogue.perform]
    split
    · exact h
    · rw [Board.modify_eq_dress]
      exact h.dress _
  | setLooks look => exact h.dress look

theorem board_setAnchored (c : Catalogue) (anchored : Bool) :
    (c.perform (.setAnchored anchored)).board = c.board.setAnchored anchored := by
  rw [Catalogue.perform]
  split
  · next heq => rw [Board.setAnchored, if_pos heq]
  · rfl

theorem current_run (ops : List Operation) : Current (run ops) := by
  have hall : ∀ c, Current c → Current (ops.foldl Catalogue.perform c) := by
    induction ops with
    | nil => exact fun c h => h
    | cons op ops ih => exact fun c h => ih _ (h.perform op)
  exact hall _ (current_ofBoard (Board.laidOut_layOut false []))

namespace Current
variable (h : Current c)
include h

theorem byState_eq : c.byState = tabulate (·.index) c.board.markers := congrArg byState h.tables

theorem byStart_eq : c.byStart = tabulate (·.range.start) c.board.markers :=
  congrArg byStart h.tables

theorem get?_eq (state : Nat) : c.get? state = c.board.get? state := by
  rw [Catalogue.get?, h.byState_eq]
  exact bind_tabulate (·.index) c.board.markers state

theorem atPosition?_eq (p : Position) : c.atPosition? p = c.board.atPosition? p := by
  rw [Catalogue.atPosition?, h.byStart_eq]
  exact bind_tabulate (·.range.start) c.board.markers p

/-- The marker that is changed by the table is the one that is changed by searching. -/
theorem board_setLook (state : Nat) (look : Marker → Colour × Glyph) :
    (c.perform (.setLook state look)).board =
      c.board.modify state fun m => m.painted (look m) := by
  rw [Catalogue.perform]
  split
  · next hnone =>
    have hget : c.board.get? state = none := by
      rw [← h.get?_eq, Catalogue.get?, hnone, Option.bind_none]
    exact (Board.modify_of_get?_eq_none hget _).symm
  · next i hi =>
    rw [h.byState_eq] at hi
    obtain ⟨m, hlast⟩ := tabulate_eq_some_iff.mp hi
    exact (Board.modify_of_isLast hlast).symm

end Current

/-- Looking a marker up, changing it and its range all follow the list of markers and whether it is
anchored, whatever was done before. Found, by table as by searching, is the last marker of a state,
or of those with their range at a position, and none if there is no such marker. The list is the one
that was put there last, up to the ranges, and to anchor it leaves it as it is. A range is empty at
the marker's origin, or covers the column as far behind it as there are markers before it on the
line. -/
theorem lookups_follow_markers (ops : List Operation) :
    let c := run ops
    let b := c.board
    (∀ state, c.get? state = b.get? state ∧
      (∀ m, b.get? state = some m ↔ ∃ i, Board.IsLast (·.index = state) b.markers i m) ∧
      (b.get? state = none ↔ ∀ m ∈ b.markers, m.index ≠ state)) ∧
    (∀ p, c.atPosition? p = b.atPosition? p ∧
      (∀ m, b.atPosition? p = some m ↔ ∃ i, Board.IsLast (·.range.start = p) b.markers i m) ∧
      (b.atPosition? p = none ↔ ∀ m ∈ b.markers, m.range.start ≠ p)) ∧
    (∀ markers, (c.perform (.replace markers)).board.anchored = false ∧
      (c.perform (.replace markers)).board.markers.map Board.unplaced =
        markers.map Board.unplaced) ∧
    (c.perform .clear).board = .empty ∧
    (∀ anchored, (c.perform (.setAnchored anchored)).board.anchored = anchored ∧
      (c.perform (.setAnchored anchored)).board.markers.map Board.unplaced =
        b.markers.map Board.unplaced) ∧
    (∀ look : Marker → Colour × Glyph,
      (∀ state, (c.perform (.setLook state look)).board =
        b.modify state fun m => m.painted (look m)) ∧
      (c.perform (.setLooks fun _ => look)).board = b.modifyAll fun m => m.painted (look m)) ∧
    (∀ (state : Nat) (f : Marker → Marker),
      (∀ i m, Board.IsLast (·.index = state) b.markers i m →
        b.modify state f = { b with markers := b.markers.modify i f }) ∧
      ((∀ m ∈ b.markers, m.index ≠ state) → b.modify state f = b)) ∧
    (∀ i m, b.markers[i]? = some m → m.range =
      if b.anchored then Range.behind m.origin (Board.countBefore b.markers m i)
      else Range.empty m.origin) ∧
    ∀ ops', (run ops').board.anchored = b.anchored →
      (run ops').board.markers.map Board.unplaced = b.markers.map Board.unplaced →
      run ops' = c := by
  intro c b
  have hc : Current c := current_run ops
  refine ⟨?_, ?_, ?_, rfl, ?_, ?_, ?_, hc.ranges, ?_⟩
  · exact fun state => ⟨hc.get?_eq state, fun _ => Board.get?_eq_some_iff, Board.get?_eq_none_iff⟩
  · exact fun p =>
      ⟨hc.atPosition?_eq p, fun _ => Board.atPosition?_eq_some_iff, Board.atPosition?_eq_none_iff⟩
  · exact fun markers => ⟨rfl, Board.map_unplaced_layOut false⟩
  · intro anchored
    rw [board_setAnchored]
    exact ⟨Board.anchored_setAnchored, Board.map_unplaced_setAnchored anchored⟩
  · intro look
    exact ⟨fun state => hc.board_setLook state look, (Board.modifyAll_eq_dress b look).symm⟩
  · intro state f
    refine ⟨fun i m hlast => Board.modify_of_isLast hlast, ?_⟩
    intro hnone
    exact Board.modify_of_get?_eq_none (Board.get?_eq_none_iff.mpr hnone) f
  · intro ops' hanchored hmarkers
    have hc' : Current (run ops') := current_run ops'
    rw [hc'.tables, hc'.ranges.eq hc.ranges hanchored hmarkers, ← hc.tables]

end Catalogue

end Waymark
