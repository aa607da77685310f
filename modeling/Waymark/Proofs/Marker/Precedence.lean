import Mathlib.Data.List.Induction
import Mathlib.Order.Bounds.Basic
import Waymark.Marker.Basic

/-! Which colour a marker has once colours were asked of it. Colours are in a linear order, and but
for the one that opens a new pass a request leaves the stronger of two colours. What is left of a
pass is then the strongest colour in it, whatever the order of the requests. -/

namespace Waymark

namespace Colour
variable {held wanted : Colour}

/-- How strong a colour is. -/
def strength : Colour → Nat
  | current => 4
  | previous => 3
  | error => 2
  | interesting => 1
  | uninteresting => 0

theorem strength_injective : Function.Injective strength := by
  intro c d h
  cases c <;> cases d <;> simp_all [strength]

/-- Colours go by how strong they are. -/
instance : LinearOrder Colour := LinearOrder.lift' strength strength_injective

example : uninteresting < interesting ∧ interesting < error ∧ error < previous ∧
    previous < current := by decide

/-- Apart from the start of a new pass, a colour gives way to those that are no weaker. -/
theorem yieldsTo_iff : held.yieldsTo wanted = true ↔ wanted = uninteresting ∨ held ≤ wanted := by
  cases held <;> cases wanted <;> decide

end Colour

namespace Marker
variable {m : Marker} {wanted : Colour} {before requests pass pass' after : List Colour}

/-- Asks for one colour after the other: what was answered each time, and the marker in the end. -/
def recolourAll (m : Marker) : List Colour → List Bool × Marker
  | [] => ([], m)
  | wanted :: rest =>
    let (answer, m) := m.recolour wanted
    let (answers, m) := m.recolourAll rest
    (answer :: answers, m)

theorem colour_requestColour :
    (m.requestColour wanted).colour = if m.colour.yieldsTo wanted then wanted else m.colour := by
  unfold requestColour
  split <;> rfl

theorem requestColour_eq :
    m.requestColour wanted = { m with colour := (m.requestColour wanted).colour } := by
  unfold requestColour
  split <;> rfl

theorem colour_requestColour_uninteresting :
    (m.requestColour .uninteresting).colour = .uninteresting := by
  rw [colour_requestColour, if_pos (Colour.yieldsTo_iff.mpr (.inl rfl))]

/-- Within a pass the stronger colour stays. -/
theorem colour_requestColour_of_ne (h : wanted ≠ .uninteresting) :
    (m.requestColour wanted).colour = max wanted m.colour := by
  rw [colour_requestColour]
  by_cases hle : m.colour ≤ wanted
  · rw [if_pos (Colour.yieldsTo_iff.mpr (.inr hle)), max_eq_left hle]
  · have hnot : ¬ m.colour.yieldsTo wanted = true := by
      rw [Colour.yieldsTo_iff]
      rintro (heq | hle')
      · exact h heq
      · exact hle hle'
    rw [if_neg hnot, max_eq_right (le_of_not_ge hle)]

/-- A marker that refuses a colour has another one. -/
theorem recolour_answer :
    (m.recolour wanted).1 = decide ((m.requestColour wanted).colour = wanted) := by
  rw [colour_requestColour]
  by_cases h : m.colour.yieldsTo wanted = true
  · simp [recolour, h]
  · have hne : m.colour ≠ wanted := by
      rintro rfl
      exact h (Colour.yieldsTo_iff.mpr (.inr le_rfl))
    simp [recolour, h, hne]

theorem recolourAll_append : m.recolourAll (before ++ after) =
    ((m.recolourAll before).1 ++ ((m.recolourAll before).2.recolourAll after).1,
      ((m.recolourAll before).2.recolourAll after).2) := by
  induction before generalizing m with
  | nil => rfl
  | cons wanted before ih => simp [recolourAll, ih]

theorem recolourAll_append_snd :
    (m.recolourAll (before ++ after)).2 = ((m.recolourAll before).2.recolourAll after).2 := by
  rw [recolourAll_append]

theorem recolourAll_concat :
    (m.recolourAll (before ++ [wanted])).2 = (m.recolourAll before).2.requestColour wanted :=
  recolourAll_append_snd

theorem length_recolourAll : (m.recolourAll requests).1.length = requests.length := by
  induction requests generalizing m with
  | nil => rfl
  | cons wanted rest ih => simp [recolourAll, ih]

/-- Requests change nothing about a marker but its colour. -/
theorem recolourAll_eq :
    (m.recolourAll requests).2 = { m with colour := (m.recolourAll requests).2.colour } := by
  induction requests using List.reverseRecOn with
  | nil => rfl
  | append_singleton requests wanted ih =>
    rw [recolourAll_concat, requestColour_eq, ih]

/-- The request behind `before` is answered by whether the marker has the colour then. -/
theorem recolourAll_answer : (m.recolourAll (before ++ wanted :: after)).1[before.length]? =
    some (decide ((m.recolourAll (before ++ [wanted])).2.colour = wanted)) := by
  have hlength : (m.recolourAll before).1.length = before.length := length_recolourAll
  rw [recolourAll_append, List.getElem?_append_right (by omega), hlength, Nat.sub_self,
    recolourAll_concat, ← recolour_answer]
  rfl

/-- Without the start of a new pass, the strongest colour is left of those that were asked for and
the one that was there. -/
theorem isGreatest_recolourAll (h : .uninteresting ∉ pass) :
    IsGreatest (insert m.colour {c | c ∈ pass}) (m.recolourAll pass).2.colour := by
  -- From the right: the last request meets the strongest colour of those before it.
  induction pass using List.reverseRecOn with
  | nil => simp [recolourAll]
  | append_singleton pass wanted ih =>
    have hpass : .uninteresting ∉ pass := fun hmem => h (by simp [hmem])
    have hwanted : wanted ≠ .uninteresting := by
      rintro rfl
      exact h (by simp)
    have hset : insert m.colour {c | c ∈ pass ++ [wanted]} =
        insert wanted (insert m.colour {c | c ∈ pass}) := by
      ext c
      simp only [Set.mem_insert_iff, Set.mem_ofPred_eq, List.mem_append, List.mem_singleton]
      tauto
    rw [recolourAll_concat, colour_requestColour_of_ne hwanted, hset]
    exact (ih hpass).insert wanted

/-- A pass that is asked for in another order leaves the same marker. -/
theorem recolourAll_perm (hperm : pass'.Perm pass) (h : .uninteresting ∉ pass) :
    (m.recolourAll pass').2 = (m.recolourAll pass).2 := by
  have h' : .uninteresting ∉ pass' := fun hmem => h (hperm.mem_iff.mp hmem)
  have hset : {c | c ∈ pass'} = {c | c ∈ pass} := by
    ext c
    exact hperm.mem_iff
  have hcolour : (m.recolourAll pass').2.colour = (m.recolourAll pass).2.colour :=
    (hset ▸ isGreatest_recolourAll h').unique (isGreatest_recolourAll h)
  rw [recolourAll_eq, hcolour, ← recolourAll_eq]

/-- Colours asked of a marker one after the other leave the strongest of those since the last start
of a new pass, or of all with the colour that was there if no pass was started. Each request is
answered by whether the marker has the colour then, and nothing but the colour changes. Within a
pass the colour never gets weaker, and the order of the requests does not matter to what is left
of them then or later. -/
theorem strongest_colour_wins (m : Marker) (requests : List Colour) :
    (.uninteresting ∉ requests →
      IsGreatest (insert m.colour {c | c ∈ requests}) (m.recolourAll requests).2.colour) ∧
    (∀ before pass, requests = before ++ .uninteresting :: pass → .uninteresting ∉ pass →
      IsGreatest (insert .uninteresting {c | c ∈ pass}) (m.recolourAll requests).2.colour) ∧
    (m.recolourAll requests).2 = { m with colour := (m.recolourAll requests).2.colour } ∧
    (m.recolourAll requests).1.length = requests.length ∧
    (∀ before wanted after, requests = before ++ wanted :: after →
      (m.recolourAll requests).1[before.length]? =
        some (decide ((m.recolourAll (before ++ [wanted])).2.colour = wanted))) ∧
    ∀ before pass after, requests = before ++ pass ++ after → .uninteresting ∉ pass →
      (m.recolourAll before).2.colour ≤ (m.recolourAll (before ++ pass)).2.colour ∧
      ∀ pass', pass'.Perm pass →
        (m.recolourAll (before ++ pass' ++ after)).2 = (m.recolourAll requests).2 := by
  refine ⟨isGreatest_recolourAll, ?_, recolourAll_eq, length_recolourAll, ?_, ?_⟩
  · rintro before pass rfl hpass
    have hreset : (m.recolourAll (before ++ [.uninteresting])).2.colour = .uninteresting := by
      rw [recolourAll_concat, colour_requestColour_uninteresting]
    have hgreatest := isGreatest_recolourAll
      (m := (m.recolourAll (before ++ [.uninteresting])).2) hpass
    rwa [hreset, ← recolourAll_append_snd, ← List.append_cons] at hgreatest
  · rintro before wanted after rfl
    exact recolourAll_answer
  · rintro before pass after rfl hpass
    constructor
    · rw [recolourAll_append_snd]
      exact (isGreatest_recolourAll hpass).2 (Set.mem_insert _ _)
    · intro pass' hperm
      have hmiddle : (m.recolourAll (before ++ pass')).2 = (m.recolourAll (before ++ pass)).2 := by
        rw [recolourAll_append_snd, recolourAll_append_snd]
        exact recolourAll_perm hperm hpass
      rw [recolourAll_append_snd, hmiddle, ← recolourAll_append_snd]

/-- In the first pass the strongest colour comes first. In the second one an error gives way to the
state that was selected before, and does so in the other order too. -/
theorem strongest_colour_wins_of_two_passes :
    let m := plain 0 ⟨0, 0⟩
    let before : List Colour := [.current, .interesting]
    let pass : List Colour := [.error, .interesting, .previous]
    let requests := before ++ .uninteresting :: pass
    .uninteresting ∉ pass ∧
    IsGreatest (insert .uninteresting {c | c ∈ pass}) (m.recolourAll requests).2.colour ∧
    (m.recolourAll requests).1 = [true, false, true, true, false, true] ∧
    (m.recolourAll (before ++ .uninteresting :: pass.reverse)).2 = (m.recolourAll requests).2 := by
  intro m before pass requests
  have hpass : .uninteresting ∉ pass := by decide
  obtain ⟨-, hlast, -, -, -, horder⟩ := strongest_colour_wins m requests
  refine ⟨hpass, hlast before pass rfl hpass, by decide, ?_⟩
  have hreversed := (horder (before ++ [.uninteresting]) pass [] rfl hpass).2 pass.reverse
    (List.reverse_perm pass)
  rwa [List.append_nil, ← List.append_cons] at hreversed

end Marker

end Waymark
