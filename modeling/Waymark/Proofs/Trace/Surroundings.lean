import Waymark.Proofs.Trace.Descent
import Waymark.Proofs.Trace.Highlights

/-! What advanced mode shows around a path: first all decorated steps that hang on the selected one,
directly or further down, then the decorated roots of its verifiable, and none of them twice. -/

namespace Waymark.StepGraph
variable {g : StepGraph} {ss : List Step} {l : List Nat} {i j : Nat}

theorem expansion_of_outside (hi : ¬i < g.size) : g.expansion i = [] := if_neg hi

theorem nodup_expansion (i : Nat) : (g.expansion i).Nodup := by
  by_cases hi : i < g.size
  · obtain ⟨order, horder, hfound⟩ := exists_descends_expansion hi
    rw [hfound]
    exact horder.nodup.1.filter _
  · rw [expansion_of_outside hi]
    exact .nil

/-- A step expands to the decorated ones that hang on it, directly or further down. -/
theorem mem_expansion : j ∈ g.expansion i ↔
    j ≠ i ∧ g.isDecorated j ∧ Relation.TransGen g.Hangs i j := by
  by_cases hi : i < g.size
  · obtain ⟨order, horder, hfound⟩ := exists_descends_expansion hi
    rw [hfound, List.mem_filter]
    constructor
    · rintro ⟨hj, hdecorated⟩
      have hne : j ≠ i := fun heq => horder.nodup.2 j hj (heq ▸ List.mem_cons_self)
      obtain ⟨v, hv⟩ := (horder.ordered_below hi).2 j hj
      exact ⟨hne, hdecorated, hv.isBelow⟩
    · rintro ⟨hne, hdecorated, hbelow⟩
      refine ⟨?_, hdecorated⟩
      obtain ⟨hstack, hclosed⟩ := horder.closed
      have hmem : ∀ j, Relation.TransGen g.Hangs i j → j = i ∨ j ∈ order := by
        intro j h
        induction h with
        | single h =>
          simpa using hstack _ (mem_children.mpr ⟨h.1, h.2.2⟩)
        | @tail p c _ h ih =>
          have hc := mem_children.mpr ⟨h.1, h.2.2⟩
          rcases ih with rfl | hp
          · simpa using hstack _ hc
          · simpa using hclosed p hp c hc
      exact (hmem j hbelow).resolve_left hne
  · rw [expansion_of_outside hi]
    constructor
    · intro h
      cases h
    · rintro ⟨-, -, hbelow⟩
      obtain ⟨c, hc, -⟩ := Relation.TransGen.head'_iff.mp hbelow
      exact absurd hc.2.1 hi

-- A circle through the step itself and a second branch of it.
example : (ofSteps ([some 2, some 0, some 1, some 0, some 3].map fun parent =>
    ⟨0, parent, false, 0, none, some 0, none, none, 0⟩)).expansion 0 = [1, 2, 3, 4] := by decide

theorem exists_hangs (h : j ∈ g.expansion i) : ∃ p, g.Hangs p j := by
  obtain ⟨-, -, hbelow⟩ := mem_expansion.mp h
  obtain ⟨p, -, hp⟩ := Relation.TransGen.tail'_iff.mp hbelow
  exact ⟨p, hp⟩

/-- Going from steps to their places and back changes nothing. -/
theorem filterMap_step?_index (h : ∀ t ∈ ss, t ∈ g.steps) :
    (ss.map (·.index)).filterMap g.step? = ss := by
  induction ss with
  | nil => rfl
  | cons t ss ih =>
    obtain ⟨ht, hss⟩ := List.forall_mem_cons.mp h
    rw [List.map_cons, List.filterMap_cons_some (step?_of_mem ht), ih hss]

theorem exists_steps (h : ∀ i ∈ l, i < g.size) :
    ∃ ss : List Step, (∀ t ∈ ss, t ∈ g.steps) ∧ ss.map (·.index) = l := by
  induction l with
  | nil => exact ⟨[], fun t ht => absurd ht List.not_mem_nil, rfl⟩
  | cons i l ih =>
    obtain ⟨hi, hl⟩ := List.forall_mem_cons.mp h
    obtain ⟨ss, hss, hmap⟩ := ih hl
    have hstep : g.step? i = some g.steps[i] := List.getElem?_eq_getElem hi
    refine ⟨g.steps[i] :: ss, List.forall_mem_cons.mpr ⟨mem_of_step? hstep, hss⟩, ?_⟩
    rw [List.map_cons, hmap, index_eq_of_step? hstep]

/-- The decorated roots of a verifiable, in run order. -/
def roots (g : StepGraph) (verifiable : Nat) : List Step :=
  g.steps.filter fun t => t.verifiable = verifiable ∧ t.parent = none ∧ t.decoration ≠ none

theorem topLevel_eq (verifiable : Nat) :
    g.topLevel verifiable = (g.roots verifiable).map (·.index) := by
  unfold topLevel roots
  congr 1
  refine List.filter_congr fun t _ => ?_
  by_cases hverifiable : t.verifiable = verifiable <;> cases t.parent <;> cases t.decoration <;>
    simp [hverifiable]

/-- What surrounds a step, as steps: what it expands to hangs on another step, and so is no root. -/
theorem exists_surroundings (s : Step) : ∃ below : List Step,
    below.map (·.index) = g.expansion s.index ∧ (∀ t ∈ below, t ∈ g.steps) ∧
    ((below ++ g.roots s.verifiable).map (·.index)).Nodup ∧
    g.surroundings s = entries .uninteresting (below ++ g.roots s.verifiable) := by
  have hinside : ∀ j ∈ g.expansion s.index, j < g.size := by
    intro j hj
    obtain ⟨p, hp⟩ := exists_hangs hj
    exact hp.lt_size
  obtain ⟨below, hbelow, hmap⟩ := exists_steps hinside
  have hroots : ∀ t ∈ g.roots s.verifiable, t ∈ g.steps ∧ t.parent = none := by
    intro t ht
    obtain ⟨ht, hroot⟩ := List.mem_filter.mp ht
    exact ⟨ht, (of_decide_eq_true hroot).2.1⟩
  have hindex : ((g.roots s.verifiable).map (·.index)).Nodup :=
    List.pairwise_map.mpr (((pairwise_index g).sublist List.filter_sublist).imp Nat.ne_of_lt)
  refine ⟨below, hmap, hbelow, ?_, ?_⟩
  · rw [List.map_append, hmap]
    refine List.nodup_append.mpr ⟨nodup_expansion _, hindex, ?_⟩
    rintro j hj k hk rfl
    obtain ⟨p, hp⟩ := exists_hangs hj
    obtain ⟨t, ht, rfl⟩ := List.mem_map.mp hk
    have hparent := parent_eq_of_isParent (hroots t ht).1 hp.1
    rw [(hroots t ht).2] at hparent
    cases hparent
  · rw [surroundings, topLevel_eq, ← hmap, ← List.map_append, filterMap_step?_index]
    intro t ht
    rcases List.mem_append.mp ht with ht | ht
    · exact hbelow t ht
    · exact (hroots t ht).1

end Waymark.StepGraph
