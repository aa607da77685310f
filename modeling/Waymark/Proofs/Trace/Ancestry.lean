import Mathlib.Data.List.Basic
import Mathlib.Data.List.Perm.Subperm
import Mathlib.Logic.Relation
import Waymark.Trace.Step

/-! The tree of a run whose steps are in depth-first order: every step is recorded while all that
is around it is still open. What is below a step is then an unbroken stretch of the run. -/

namespace Waymark.StepGraph
variable {g : StepGraph} {s t u : Step} {ss : List Step} {a b c i j p q r : Nat}

/-- Step `p` is the parent of step `i`. -/
def IsParent (g : StepGraph) (p i : Nat) : Prop := ∃ s, g.step? i = some s ∧ s.parent = some p

/-- Step `i` is step `a` itself or somewhere below it. -/
abbrev Within (g : StepGraph) : Nat → Nat → Prop := Relation.ReflTransGen g.IsParent

/-- A step's parent, if it has one, is the step before it or an ancestor of that one. -/
def DepthFirst (g : StepGraph) : Prop := ∀ p i, g.IsParent p i → ∃ j, i = j + 1 ∧ g.Within p j

/-- Every parent comes before its children. -/
def ParentsFirst (g : StepGraph) : Prop := ∀ p i, g.IsParent p i → p < i

/-- The steps from one up to its root, the innermost first. -/
inductive Lineage (g : StepGraph) : Step → List Step → Prop
  | root {s : Step} : s.parent = none → Lineage g s [s]
  | up {s t : Step} {p : Nat} {ts : List Step} : s.parent = some p → g.step? p = some t →
      Lineage g t ts → Lineage g s (s :: ts)

theorem isParent_iff : g.IsParent p i ↔ (g.step? i).bind (·.parent) = some p :=
  Option.bind_eq_some_iff.symm

theorem step?_of_mem (h : s ∈ g.steps) : g.step? s.index = some s := by
  obtain ⟨i, hi⟩ := List.mem_iff_getElem?.mp h
  have hindex : s.index = i := index_eq_of_step? hi
  rw [hindex]
  exact hi

theorem mem_of_step? (h : g.step? i = some s) : s ∈ g.steps := List.mem_of_getElem? h

theorem index_lt_size (h : s ∈ g.steps) : s.index < g.size :=
  (List.getElem?_eq_some_iff.mp (step?_of_mem h)).1

theorem lt_size_of_step? (h : g.step? i = some s) : i < g.size :=
  index_eq_of_step? h ▸ index_lt_size (mem_of_step? h)

/-- Steps come in run order. -/
theorem pairwise_index (g : StepGraph) : g.steps.Pairwise fun t u => t.index < u.index := by
  apply List.pairwise_map.mp
  rw [g.map_index]
  exact List.pairwise_lt_range

/-- There are no more different places than the run has steps. -/
theorem length_le_of_lt {places : List Nat} {n : Nat} (hnodup : places.Nodup)
    (hlt : ∀ i ∈ places, i < n) : places.length ≤ n := by
  have hsubset : places ⊆ List.range n := fun i hi => List.mem_range.mpr (hlt i hi)
  have hlength := (List.subperm_of_subset hnodup hsubset).length_le
  rwa [List.length_range] at hlength

theorem eq_of_index_eq (hs : s ∈ g.steps) (ht : t ∈ g.steps) (h : s.index = t.index) : s = t := by
  have hstep := step?_of_mem hs
  rw [h, step?_of_mem ht] at hstep
  exact (Option.some.inj hstep).symm

theorem isParent_of_mem (hs : s ∈ g.steps) (hp : s.parent = some p) : g.IsParent p s.index :=
  ⟨s, step?_of_mem hs, hp⟩

theorem parent_eq_of_isParent (hs : s ∈ g.steps) (h : g.IsParent p s.index) :
    s.parent = some p := by
  obtain ⟨t, ht, hp⟩ := h
  obtain rfl := Option.some.inj ((step?_of_mem hs).symm.trans ht)
  exact hp

theorem IsParent.unique (hp : g.IsParent p i) (hq : g.IsParent q i) : p = q := by
  obtain ⟨s, hs, hp⟩ := hp
  obtain ⟨t, ht, hq⟩ := hq
  obtain rfl := Option.some.inj (hs.symm.trans ht)
  exact Option.some.inj (hp.symm.trans hq)

/-- A root is below nothing but itself. -/
theorem eq_of_within_root (hs : s ∈ g.steps) (hroot : s.parent = none)
    (h : g.Within a s.index) : a = s.index := by
  cases h.cases_tail with
  | inl heq => exact heq.symm
  | inr h =>
    obtain ⟨p, -, hp⟩ := h
    have hp := parent_eq_of_isParent hs hp
    simp [hroot] at hp

/-- What is below a step and not the step itself has its parent there too. -/
theorem Within.parent (h : g.Within a i) (hp : g.IsParent p i) (hne : a ≠ i) : g.Within a p := by
  cases h with
  | refl => exact absurd rfl hne
  | tail h hq => exact hp.unique hq ▸ h

/-- A lineage holds steps of the graph, each above the first. -/
theorem Lineage.mem (h : g.Lineage s ss) (hs : s ∈ g.steps) :
    ∀ t ∈ ss, t ∈ g.steps ∧ g.Within t.index s.index := by
  induction h with
  | root _ =>
    intro t ht
    obtain rfl := List.mem_singleton.mp ht
    exact ⟨hs, .refl⟩
  | up hp hstep _ ih =>
    intro t ht
    rcases List.mem_cons.mp ht with rfl | ht
    · exact ⟨hs, .refl⟩
    · obtain ⟨hmem, hwithin⟩ := ih (mem_of_step? hstep) t ht
      rw [index_eq_of_step? hstep] at hwithin
      exact ⟨hmem, hwithin.tail (isParent_of_mem hs hp)⟩

/-- A lineage ends with a root. -/
theorem Lineage.exists_root (h : g.Lineage s ss) (hs : s ∈ g.steps) :
    ∃ r ∈ g.steps, ss.getLast? = some r ∧ r.parent = none ∧ g.Within r.index s.index := by
  induction h with
  | root hroot => exact ⟨_, hs, rfl, hroot, .refl⟩
  | up hp hstep hup ih =>
    obtain ⟨r, hr, hlast, hroot, hwithin⟩ := ih (mem_of_step? hstep)
    rw [index_eq_of_step? hstep] at hwithin
    refine ⟨r, hr, ?_, hroot, hwithin.tail (isParent_of_mem hs hp)⟩
    cases hup <;> simpa using hlast

section Order
variable (horder : g.DepthFirst)
include horder

/-- Parents come before their children. -/
theorem lt_of_isParent (h : g.IsParent p i) : p < i := by
  induction i using Nat.strongRecOn generalizing p with
  | ind i ih =>
    obtain ⟨j, rfl, hwithin⟩ := horder p i h
    -- On the way down to the step before, every link goes forward.
    have hforward : ∀ k, g.Within p k → k ≤ j → p ≤ k := by
      intro k hk
      induction hk with
      | refl => intro _; exact Nat.le_refl p
      | tail _ hlink ihk =>
        intro hkj
        have hlt := ih _ (Nat.lt_succ_of_le hkj) hlink
        exact Nat.le_of_lt (Nat.lt_of_le_of_lt (ihk (by omega)) hlt)
    exact Nat.lt_succ_of_le (hforward j hwithin (Nat.le_refl j))

theorem DepthFirst.parentsFirst : g.ParentsFirst := fun _ _ h => lt_of_isParent horder h

theorem le_of_within (h : g.Within a i) : a ≤ i := by
  induction h with
  | refl => exact Nat.le_refl a
  | tail _ hlink ih =>
    have hlt := lt_of_isParent horder hlink
    omega

/-- The step before one below `a` is at `a` or below it too. -/
theorem within_pred (h : g.Within a (i + 1)) (hlt : a < i + 1) : g.Within a i := by
  cases h with
  | refl => omega
  | tail h hlink =>
    obtain ⟨j, hj, hwithin⟩ := horder _ _ hlink
    obtain rfl : i = j := by omega
    exact h.trans hwithin

/-- What is below a step is an unbroken stretch of the run that starts with the step. -/
theorem within_of_between (h : g.Within a i) (haj : a ≤ j) (hji : j ≤ i) : g.Within a j := by
  induction i with
  | zero =>
    obtain rfl : j = 0 := by omega
    exact h
  | succ i ih =>
    obtain rfl | hlt : j = i + 1 ∨ j ≤ i := by omega
    · exact h
    · exact ih (within_pred horder h (by omega)) hlt

/-- The branch of a child is over before the next child of its parent starts. -/
theorem lt_of_within_sibling (hc : g.IsParent p c) (ha : g.IsParent p a) (hca : c < a)
    (h : g.Within c i) : i < a := by
  by_contra hai
  have hwithin : g.Within c a := within_of_between horder h (by omega) (by omega)
  have hle := le_of_within horder (hwithin.parent ha (by omega))
  have hlt := lt_of_isParent horder hc
  omega

/-- Two steps under one roof, the earlier one no ancestor of the later one, are in the branches of
two children of one step. -/
theorem exists_fork (ht : g.Within r t.index) (hs : g.Within r s.index)
    (hlt : t.index < s.index) (hnot : ¬g.Within t.index s.index) :
    ∃ p c a, g.IsParent p c ∧ g.IsParent p a ∧ c < a ∧ g.Within c t.index ∧
      g.Within a s.index := by
  -- Down from the roof as long as both steps are below the same child.
  induction ht using Relation.ReflTransGen.head_induction_on with
  | refl => exact absurd hs hnot
  | @head r c hc hct ih =>
    by_cases hcs : g.Within c s.index
    · exact ih hcs
    · have hct_le := le_of_within horder hct
      have hrc := lt_of_isParent horder hc
      cases hs.cases_head with
      | inl heq => omega
      | inr h =>
        obtain ⟨a, ha, has⟩ := h
        have hne : c ≠ a := fun heq => hcs (heq ▸ has)
        obtain hca | hac : c < a ∨ a < c := by omega
        · exact ⟨r, c, a, hc, ha, hca, hct, has⟩
        · have hsc := lt_of_within_sibling horder ha hc hac has
          omega

/-- A step in the graph has its parent in the graph. -/
theorem exists_parent (hs : s ∈ g.steps) (hp : s.parent = some p) :
    ∃ t ∈ g.steps, t.index = p ∧ g.step? p = some t := by
  have hlt := lt_of_isParent horder (isParent_of_mem hs hp)
  have hp : p < g.steps.length := Nat.lt_trans hlt (index_lt_size hs)
  have hstep : g.step? p = some g.steps[p] := List.getElem?_eq_getElem hp
  exact ⟨g.steps[p], mem_of_step? hstep, index_eq_of_step? hstep, hstep⟩

theorem exists_lineage (hs : s ∈ g.steps) : ∃ ss, g.Lineage s ss := by
  generalize hi : s.index = i
  induction i using Nat.strongRecOn generalizing s with
  | ind i ih =>
    cases hp : s.parent with
    | none => exact ⟨[s], .root hp⟩
    | some p =>
      obtain ⟨t, ht, htp, hstep⟩ := exists_parent horder hs hp
      have hlt := lt_of_isParent horder (isParent_of_mem hs hp)
      obtain ⟨ts, hts⟩ := ih t.index (by omega) ht rfl
      exact ⟨s :: ts, .up hp hstep hts⟩

theorem Lineage.pairwise (h : g.Lineage s ss) (hs : s ∈ g.steps) :
    ss.Pairwise fun t u => u.index < t.index := by
  induction h with
  | root _ => exact List.pairwise_singleton _ _
  | up hp hstep hup ih =>
    refine List.Pairwise.cons (fun t ht => ?_) (ih (mem_of_step? hstep))
    have hle := le_of_within horder (hup.mem (mem_of_step? hstep) t ht).2
    have hlt := lt_of_isParent horder (isParent_of_mem hs hp)
    rw [index_eq_of_step? hstep] at hle
    omega

end Order

end Waymark.StepGraph
