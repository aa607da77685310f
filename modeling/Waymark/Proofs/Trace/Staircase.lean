import Mathlib.Data.List.Sort
import Waymark.Proofs.Trace.Depths
import Waymark.Proofs.Trace.Walking

/-! What a walk records. Recorded steps never get deeper on the way back, so that a decorated step
screens off what is nested in the branches before it, and an enclosing step is never lost. -/

namespace Waymark.StepGraph
variable {steps : List Step} {s t u : Step} {ss ws : List Step} {maxDepth c p : Nat}

theorem staircase_cons_of_pos (h : t.decoration.isSome ∧ t.depth ≤ maxDepth) :
    staircase maxDepth (t :: ws) = t :: staircase t.depth ws := if_pos (by simpa using h)

theorem staircase_cons_of_neg (h : ¬(t.decoration.isSome ∧ t.depth ≤ maxDepth)) :
    staircase maxDepth (t :: ws) = staircase maxDepth ws := if_neg (by simpa using h)

theorem staircase_sublist : (staircase maxDepth ws).Sublist ws := by
  induction ws generalizing maxDepth with
  | nil => exact .slnil
  | cons t ws ih =>
    by_cases hrecord : t.decoration.isSome ∧ t.depth ≤ maxDepth
    · rw [staircase_cons_of_pos hrecord]
      exact .cons_cons t ih
    · rw [staircase_cons_of_neg hrecord]
      exact .cons t ih

theorem of_mem_staircase (h : t ∈ staircase maxDepth ws) :
    t.decoration.isSome = true ∧ t.depth ≤ maxDepth := by
  induction ws generalizing maxDepth with
  | nil => cases h
  | cons u ws ih =>
    by_cases hrecord : u.decoration.isSome ∧ u.depth ≤ maxDepth
    · rw [staircase_cons_of_pos hrecord] at h
      rcases List.mem_cons.mp h with rfl | h
      · exact hrecord
      · obtain ⟨hdecorated, hle⟩ := ih h
        exact ⟨hdecorated, hle.trans hrecord.2⟩
    · rw [staircase_cons_of_neg hrecord] at h
      exact ih h

theorem decorated_of_mem_staircase (h : t ∈ staircase maxDepth ws) :
    t.decoration.isSome = true := (of_mem_staircase h).1

/-- A staircase never goes down again. -/
theorem pairwise_staircase :
    (staircase maxDepth ws).Pairwise fun t u => u.depth ≤ t.depth := by
  induction ws generalizing maxDepth with
  | nil => exact .nil
  | cons t ws ih =>
    by_cases hrecord : t.decoration.isSome ∧ t.depth ≤ maxDepth
    · rw [staircase_cons_of_pos hrecord]
      exact .cons (fun u hu => (of_mem_staircase hu).2) ih
    · rw [staircase_cons_of_neg hrecord]
      exact ih

/-- On the way back in the run an earlier step comes later, and so is no deeper. -/
theorem depth_le_of_index_lt (hfalling : ws.Pairwise fun t u => u.index < t.index)
    (ht : t ∈ staircase maxDepth ws) (hu : u ∈ staircase maxDepth ws) (hlt : t.index < u.index) :
    t.depth ≤ u.depth := by
  have hdepths : (staircase maxDepth ws).Pairwise fun t u => u.depth ≤ t.depth := pairwise_staircase
  have hboth := (hfalling.sublist staircase_sublist).and hdepths
  obtain ⟨before, after, hsplit⟩ := List.mem_iff_append.mp hu
  rw [hsplit] at ht hboth
  obtain ⟨-, hafter, hbefore⟩ := List.pairwise_append.mp hboth
  rcases List.mem_append.mp ht with ht | ht
  · have hearlier := (hbefore t ht u List.mem_cons_self).1
    omega
  · rcases List.mem_cons.mp ht with rfl | ht
    · exact Nat.le_refl _
    · exact ((List.pairwise_cons.mp hafter).1 t ht).2

/-- A decorated step is recorded if nothing walked before it is less deep. -/
theorem mem_staircase (hfalling : ws.Pairwise fun t u => u.index < t.index) (ht : t ∈ ws)
    (hdecorated : t.decoration.isSome = true) (hmax : t.depth ≤ maxDepth)
    (hbefore : ∀ u ∈ ws, t.index < u.index → t.depth ≤ u.depth) :
    t ∈ staircase maxDepth ws := by
  induction ws generalizing maxDepth with
  | nil => cases ht
  | cons v ws ih =>
    obtain ⟨hv, hrest⟩ := List.pairwise_cons.mp hfalling
    rcases List.mem_cons.mp ht with rfl | ht
    · rw [staircase_cons_of_pos ⟨hdecorated, hmax⟩]
      exact List.mem_cons_self
    · have hbefore' : ∀ u ∈ ws, t.index < u.index → t.depth ≤ u.depth :=
        fun u hu => hbefore u (List.mem_cons_of_mem v hu)
      by_cases hrecord : v.decoration.isSome ∧ v.depth ≤ maxDepth
      · rw [staircase_cons_of_pos hrecord]
        exact List.mem_cons_of_mem v
          (ih hrest ht (hbefore v List.mem_cons_self (hv t ht)) hbefore')
      · rw [staircase_cons_of_neg hrecord]
        exact ih hrest ht hmax hbefore'

/-- Two lists of steps that both go back in the run: one that holds nothing else than the other is
what is left of the other when some are passed over. -/
theorem sublist_of_falling (hss : ss.Pairwise fun t u => u.index < t.index)
    (hws : ws.Pairwise fun t u => u.index < t.index) (h : ∀ t ∈ ss, t ∈ ws) : ss.Sublist ws := by
  have hantisymm : Std.Antisymm fun t u : Step => u.index < t.index :=
    ⟨fun t u htu hut => absurd htu (Nat.lt_asymm hut)⟩
  have hnodup : ss.Nodup := hss.imp fun hlt heq => by
    rw [heq] at hlt
    exact Nat.lt_irrefl _ hlt
  exact List.sublist_of_subperm_of_pairwise (List.subperm_of_subset hnodup h) hss hws

section Order
variable (horder : (ofSteps steps).DepthFirst)
include horder

/-- A decorated step that the walk comes through is recorded if all steps between it and the start
are at least as deep. -/
theorem mem_staircase_walk (hs : s ∈ (ofSteps steps).steps) (hu : u ∈ (ofSteps steps).walk s)
    (hdecorated : u.decoration.isSome = true)
    (hdeep : ∀ t ∈ (ofSteps steps).steps, u.index ≤ t.index → t.index ≤ s.index →
      u.depth ≤ t.depth) :
    u ∈ staircase s.depth ((ofSteps steps).walk s) := by
  have hwalks := walks_walk horder hs
  refine mem_staircase (hwalks.pairwise horder hs) hu hdecorated
    (hdeep s hs (hwalks.mem horder hs u hu).2 (Nat.le_refl _)) fun t ht hlt => ?_
  obtain ⟨htg, hle⟩ := hwalks.mem horder hs t ht
  exact hdeep t htg (Nat.le_of_lt hlt) hle

/-- Every decorated ancestor is recorded: what is walked before it is below it. -/
theorem mem_staircase_of_within (hs : s ∈ (ofSteps steps).steps) (hu : u ∈ (ofSteps steps).steps)
    (hdecorated : u.decoration.isSome = true)
    (hwithin : (ofSteps steps).Within u.index s.index) :
    u ∈ staircase s.depth ((ofSteps steps).walk s) := by
  refine mem_staircase_walk horder hs ((walks_walk horder hs).visits horder hs hu hwithin)
    hdecorated fun t ht hut hts => ?_
  exact (depth_le_of_within horder ht hu (within_of_between horder hwithin hut hts)).1

/-- Of two children of one step, neither is deeper. -/
theorem depth_eq_of_siblings (ht : t ∈ (ofSteps steps).steps)
    (hu : u ∈ (ofSteps steps).steps) (hpt : (ofSteps steps).IsParent p t.index)
    (hpu : (ofSteps steps).IsParent p u.index) : t.depth = u.depth := by
  obtain ⟨v, hv, hvp, -⟩ := exists_parent horder ht (parent_eq_of_isParent ht hpt)
  subst hvp
  rw [depth_of_isParent horder ht hv hpt, depth_of_isParent horder hu hv hpu]

/-- As long as a parent's branch is open, nothing in it is less deep than the parent's children. -/
theorem depth_le_of_open (hu : u ∈ (ofSteps steps).steps)
    (ht : t ∈ (ofSteps steps).steps) (hpu : (ofSteps steps).IsParent p u.index)
    (hps : (ofSteps steps).Within p s.index) (hut : u.index ≤ t.index)
    (hts : t.index ≤ s.index) : u.depth ≤ t.depth := by
  obtain ⟨v, hv, hvp, -⟩ := exists_parent horder hu (parent_eq_of_isParent hu hpu)
  subst hvp
  have hlt := lt_of_isParent horder hpu
  have hdepth := depth_of_isParent horder hu hv hpu
  have hbelow := depth_le_of_within horder ht hv (within_of_between horder hps (by omega) hts)
  by_contra hless
  have heq := hbelow.2 (by omega)
  rw [heq] at hut
  omega

/-- What is recorded of the branch of a step comes without a decoration at any later child of the
same parent, up to the branch of the start: a decorated one would be recorded and screen it off. -/
theorem undecorated_of_nested (hs : s ∈ (ofSteps steps).steps)
    (hu : u ∈ (ofSteps steps).steps) (ht : t ∈ staircase s.depth ((ofSteps steps).walk s))
    (hpc : (ofSteps steps).IsParent p c) (hpu : (ofSteps steps).IsParent p u.index)
    (hct : (ofSteps steps).Within c t.index) (hps : (ofSteps steps).Within p s.index)
    (hnested : t.index ≠ c) (hcu : c < u.index) (hus : u.index ≤ s.index) :
    u.decoration = none := by
  by_contra hsome
  have hwalks := walks_walk horder hs
  have htw := staircase_sublist.subset ht
  have hpc_lt := lt_of_isParent horder hpc
  have hct_le := le_of_within horder hct
  have htu := lt_of_within_sibling horder hpc hpu hcu hct
  have huw : u ∈ (ofSteps steps).walk s :=
    hwalks.visits_between horder hs hu hpu htw (by omega) htu hus
  have hrecorded : u ∈ staircase s.depth ((ofSteps steps).walk s) :=
    mem_staircase_walk horder hs huw (Option.isSome_iff_ne_none.mpr hsome) fun v hv huv hvs =>
      depth_le_of_open horder hu hv hpu hps huv hvs
  have hle := depth_le_of_index_lt (hwalks.pairwise horder hs) ht hrecorded htu
  -- So the recorded step is not deeper than the child that it is nested in.
  obtain ⟨v, hvstep, hvp⟩ := hpc
  have hv := mem_of_step? hvstep
  have hvc := index_eq_of_step? hvstep
  subst hvc
  have hdepth := depth_eq_of_siblings horder hv hu ⟨v, hvstep, hvp⟩ hpu
  have heq := (depth_le_of_within horder (hwalks.mem horder hs t htw).1 hv hct).2 (by omega)
  exact hnested (congrArg (·.index) heq)

end Order

end Waymark.StepGraph
