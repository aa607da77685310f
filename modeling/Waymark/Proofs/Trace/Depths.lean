import Waymark.Proofs.Trace.Climbing

/-! Depths follow the parent links of a run, in whatever order its steps come: roots have depth 0,
all other steps one more than their parent, and each circle of links is cut above exactly one of
its steps. -/

namespace Waymark.StepGraph
variable {steps : List Step} {s t : Step} {d i p : Nat}

theorem inside_parents (steps : List Step) : Inside (parents steps) := by
  intro i p h
  rw [Above, Option.join_eq_some_iff, parents, List.getElem?_map] at h
  cases hs : steps[i]? with
  | none => simp [hs] at h
  | some s =>
    simp only [hs, Option.map_some, Option.some.injEq, Option.filter_eq_some_iff,
      decide_eq_true_eq] at h
    simpa [parents] using h.2

theorem step?_ofSteps (i : Nat) : (ofSteps steps).step? i = (steps[i]?).map fun s =>
    { s with index := i, depth := ((depths (parents steps))[i]?).getD 0 } := by
  simp [step?, ofSteps, Function.comp_def]

theorem size_ofSteps (steps : List Step) : (ofSteps steps).size = steps.length := by
  simp [size, ofSteps]

/-- The graph has these steps, numbered by their places. Besides that only their depths may be other
than they were given. -/
def Numbers (g : StepGraph) (steps : List Step) : Prop :=
  g.size = steps.length ∧
    ∀ i s, steps[i]? = some s → ∃ depth, g.step? i = some { s with index := i, depth }

theorem numbers_ofSteps (steps : List Step) : (ofSteps steps).Numbers steps := by
  refine ⟨size_ofSteps steps, ?_⟩
  intro i s hs
  rw [step?_ofSteps, hs]
  exact ⟨_, rfl⟩

/-- The links that count are the parent links that lead to a step of the run. -/
theorem above_iff : Above (parents steps) p i ↔
    (ofSteps steps).IsParent p i ∧ p < (ofSteps steps).size := by
  rw [isParent_iff, step?_ofSteps, size_ofSteps, Above, parents, List.getElem?_map]
  cases steps[i]? with
  | none => simp
  | some s => simp [Option.filter_eq_some_iff]

theorem above_of_mem (hs : s ∈ (ofSteps steps).steps) (ht : t ∈ (ofSteps steps).steps)
    (hp : s.parent = some t.index) : Above (parents steps) t.index s.index :=
  above_iff.mpr ⟨isParent_of_mem hs hp, index_lt_size ht⟩

theorem depth_of_step? (hs : (ofSteps steps).step? i = some s) :
    (depths (parents steps))[i]? = some s.depth := by
  have hi : i < (depths (parents steps)).length := by
    have hlt := lt_size_of_step? hs
    rw [length_depths (inside_parents steps)]
    simpa [parents, size_ofSteps] using hlt
  rw [step?_ofSteps, List.getElem?_eq_getElem hi] at hs
  obtain ⟨t, -, rfl⟩ := Option.map_eq_some_iff.mp hs
  exact List.getElem?_eq_getElem hi

theorem lawful_depths_parents (steps : List Step) :
    Lawful (parents steps) fun i => (depths (parents steps))[i]? :=
  lawful_depths (inside_parents steps)

/-- A step whose parent link leads to a step is one deeper, unless a circle is cut there. -/
theorem depth_of_parent (hs : s ∈ (ofSteps steps).steps) (ht : t ∈ (ofSteps steps).steps)
    (hp : s.parent = some t.index) :
    s.depth = t.depth + 1 ∨ s.depth = 0 ∧ Around (parents steps) s.index s.index := by
  have hlink := above_of_mem hs ht hp
  have hlawful := lawful_depths_parents steps
  have hparent : ∀ q e, Above (parents steps) q s.index → (depths (parents steps))[q]? = some e →
      e = t.depth := by
    intro q e hq he
    obtain rfl := hq.unique hlink
    exact Option.some.inj (he.symm.trans (depth_of_step? (step?_of_mem ht)))
  generalize hd : s.depth = d
  cases hlawful.fits _ _ (hd ▸ depth_of_step? (step?_of_mem hs)) with
  | root hroot => simp [Above, hroot] at hlink
  | below hq he => exact .inl (by rw [hparent _ _ hq he])
  | cut _ _ haround => exact .inr ⟨rfl, haround⟩

section Order
variable (horder : (ofSteps steps).DepthFirst)
include horder

/-- In depth-first order links lead to earlier steps only, and so never back. -/
theorem not_around (i : Nat) : ¬Around (parents steps) i i := by
  have hlt : ∀ a j, Relation.TransGen (Above (parents steps)) a j → a < j := by
    intro a j h
    induction h with
    | single hlink => exact lt_of_isParent horder (above_iff.mp hlink).1
    | tail _ hlink ih =>
      have hstep := lt_of_isParent horder (above_iff.mp hlink).1
      omega
  intro h
  exact Nat.lt_irrefl i (hlt i i h.1)

/-- Every step is one deeper than its parent. -/
theorem depth_of_isParent (hs : s ∈ (ofSteps steps).steps) (ht : t ∈ (ofSteps steps).steps)
    (h : (ofSteps steps).IsParent t.index s.index) : s.depth = t.depth + 1 := by
  rcases depth_of_parent hs ht (parent_eq_of_isParent hs h) with hdepth | ⟨-, haround⟩
  · exact hdepth
  · exact absurd haround (not_around horder s.index)

/-- What is below a step is deeper than it. -/
theorem depth_le_of_within (hs : s ∈ (ofSteps steps).steps) (ht : t ∈ (ofSteps steps).steps)
    (h : (ofSteps steps).Within t.index s.index) :
    t.depth ≤ s.depth ∧ (s.depth ≤ t.depth → s = t) := by
  generalize hi : s.index = i at h
  induction h generalizing s with
  | refl =>
    obtain rfl := eq_of_index_eq hs ht hi
    exact ⟨Nat.le_refl _, fun _ => rfl⟩
  | @tail p i _ hlink ih =>
    have hp := parent_eq_of_isParent hs (hi ▸ hlink)
    obtain ⟨u, hu, hup, -⟩ := exists_parent horder hs hp
    have hdepth := depth_of_isParent horder hs hu (by rw [hup, hi]; exact hlink)
    have hle := (ih hu hup).1
    exact ⟨by omega, fun h => by omega⟩

end Order

end Waymark.StepGraph
