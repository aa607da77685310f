import Waymark.Proofs.Trace.Roaming

/-! Walks back through a run in depth-first order. A walk never leaves the tree that it starts in,
comes through every ancestor of its start, and ends at the root. -/

namespace Waymark.StepGraph
variable {g : StepGraph} {s t u : Step} {ss ws : List Step} {seen : List Nat} {a p : Nat}

/-- A walk that goes on as long as there is a parent, and so ends at a step without one. -/
inductive Walks (g : StepGraph) : Step → List Step → Prop
  | stop {s : Step} : s.parent = none → Walks g s [s]
  | move {s t : Step} {ws : List Step} : g.next? s = some t → Walks g t ws → Walks g s (s :: ws)

theorem Walks.exists_root (h : g.Walks s ws) :
    ∃ r ∈ ws, ws.getLast? = some r ∧ r.parent = none := by
  induction h with
  | stop hroot => exact ⟨_, List.mem_singleton_self _, rfl, hroot⟩
  | move _ hwalks ih =>
    obtain ⟨r, hr, hlast, hroot⟩ := ih
    refine ⟨r, List.mem_cons_of_mem _ hr, ?_, hroot⟩
    cases hwalks <;> simpa using hlast

section Order
variable (horder : g.DepthFirst)
include horder

/-- A step with a parent has a next step: the parent, or the step before, which is below the parent
if it is not the parent itself. -/
theorem exists_next? (hs : s ∈ g.steps) (hp : s.parent = some p) :
    ∃ t ∈ g.steps, g.next? s = some t ∧ (t.index = p ∨ s.index = t.index + 1) ∧
      g.Within p t.index := by
  have hparent := isParent_of_mem hs hp
  by_cases hbranch : s.isBranch = true
  · obtain ⟨t, ht, htp, hstep⟩ := exists_parent horder hs hp
    refine ⟨t, ht, ?_, .inl htp, htp ▸ .refl⟩
    simp [next?, hp, hbranch, hstep]
  · obtain ⟨j, hj, hwithin⟩ := horder p s.index hparent
    have hlt : j < g.steps.length := by
      have hsize : s.index < g.steps.length := index_lt_size hs
      omega
    have hstep : g.step? j = some g.steps[j] := List.getElem?_eq_getElem hlt
    have hindex := index_eq_of_step? hstep
    refine ⟨g.steps[j], mem_of_step? hstep, ?_, .inr (by omega), by rwa [hindex]⟩
    simp [next?, hp, hbranch, hj, hstep]

theorem next?_cases (hs : s ∈ g.steps) (hp : s.parent = some p) (h : g.next? s = some t) :
    t ∈ g.steps ∧ (t.index = p ∨ s.index = t.index + 1) ∧ g.Within p t.index := by
  obtain ⟨t', ht', hnext, hwhere, hwithin⟩ := exists_next? horder hs hp
  obtain rfl := Option.some.inj (h.symm.trans hnext)
  exact ⟨ht', hwhere, hwithin⟩

/-- No walk ends at a step that it has seen: it goes back in the run all the way, and where there is
a parent there is a next step. -/
theorem Roams.walks (h : g.Roams seen s ws) (hseen : ∀ i ∈ seen, s.index < i) : g.Walks s ws := by
  induction ws generalizing seen s with
  | nil => cases h.start
  | cons v ws ih =>
    obtain ⟨hs, -, ⟨hws, hend⟩ | ⟨t, rest, hws, hnext, -, hrest⟩⟩ := h.cases
    · rw [hws]
      apply Walks.stop
      by_contra hparent
      obtain ⟨p, hp⟩ := Option.ne_none_iff_exists'.mp hparent
      obtain ⟨t, -, hnext, -, -⟩ := exists_next? horder hs hp
      have hlt := lt_of_next? horder.parentsFirst hs hnext
      rcases List.mem_cons.mp (hend t hnext) with heq | hmem
      · omega
      · have hlater := hseen _ hmem
        omega
    · obtain ⟨rfl, rfl⟩ := List.cons.inj hws
      have hlt := lt_of_next? horder.parentsFirst hs hnext
      refine .move hnext (ih hrest ?_)
      intro i hi
      rcases List.mem_cons.mp hi with rfl | hi
      · exact hlt
      · exact Nat.lt_trans hlt (hseen i hi)

theorem walks_walk (hs : s ∈ g.steps) : g.Walks s (g.walk s) :=
  (roams_walk hs).walks horder fun _ hi => absurd hi List.not_mem_nil

theorem Walks.mem (h : g.Walks s ws) (hs : s ∈ g.steps) :
    ∀ t ∈ ws, t ∈ g.steps ∧ t.index ≤ s.index := by
  induction h with
  | stop _ =>
    intro t ht
    obtain rfl := List.mem_singleton.mp ht
    exact ⟨hs, Nat.le_refl _⟩
  | move hnext _ ih =>
    intro t ht
    rcases List.mem_cons.mp ht with rfl | ht
    · exact ⟨hs, Nat.le_refl _⟩
    · obtain ⟨hmem, hle⟩ := ih (mem_of_next? hnext) t ht
      have hlt := lt_of_next? horder.parentsFirst hs hnext
      exact ⟨hmem, by omega⟩

theorem Walks.pairwise (h : g.Walks s ws) (hs : s ∈ g.steps) :
    ws.Pairwise fun t u => u.index < t.index := by
  induction h with
  | stop _ => exact List.pairwise_singleton _ _
  | move hnext hwalks ih =>
    have ht := mem_of_next? hnext
    refine List.Pairwise.cons (fun u hu => ?_) (ih ht)
    have hle := (hwalks.mem horder ht u hu).2
    have hlt := lt_of_next? horder.parentsFirst hs hnext
    omega

/-- A move stays below whatever is above its start, short of going beyond it. -/
theorem within_next? (hs : s ∈ g.steps) (h : g.next? s = some t) (hwithin : g.Within a s.index)
    (hne : a ≠ s.index) : g.Within a t.index := by
  obtain ⟨p, hp⟩ := parent_ne_none_of_next? h
  obtain ⟨-, -, hpt⟩ := next?_cases horder hs hp h
  exact (hwithin.parent (isParent_of_mem hs hp) hne).trans hpt

/-- A walk stays below every root that its start is below. -/
theorem Walks.within_root (h : g.Walks s ws) (hs : s ∈ g.steps) (hu : u ∈ g.steps)
    (hroot : u.parent = none) (hwithin : g.Within u.index s.index) :
    ∀ t ∈ ws, g.Within u.index t.index := by
  induction h with
  | stop _ =>
    intro t ht
    obtain rfl := List.mem_singleton.mp ht
    exact hwithin
  | @move s v ws hnext _ ih =>
    intro t ht
    rcases List.mem_cons.mp ht with rfl | ht
    · exact hwithin
    · obtain ⟨p, hp⟩ := parent_ne_none_of_next? hnext
      have hne : u.index ≠ s.index := by
        intro heq
        rw [eq_of_index_eq hu hs heq, hp] at hroot
        cases hroot
      exact ih (mem_of_next? hnext) (within_next? horder hs hnext hwithin hne) t ht

/-- A walk comes through every ancestor of its start: it cannot step over one, since everything
between the ancestor and a step below it is below the ancestor too. -/
theorem Walks.visits (h : g.Walks s ws) (hs : s ∈ g.steps) (hu : u ∈ g.steps)
    (hwithin : g.Within u.index s.index) : u ∈ ws := by
  induction h with
  | stop hroot =>
    exact List.mem_singleton.mpr (eq_of_index_eq hu hs (eq_of_within_root hs hroot hwithin))
  | @move s v ws hnext _ ih =>
    by_cases heq : u.index = s.index
    · exact eq_of_index_eq hu hs heq ▸ List.mem_cons_self
    · have hv := mem_of_next? hnext
      exact List.mem_cons_of_mem _ (ih hv (within_next? horder hs hnext hwithin heq))

/-- A walk that comes from behind a step to one between the step and its parent has come through
the step. -/
theorem Walks.visits_between (h : g.Walks s ws) (hs : s ∈ g.steps) (hu : u ∈ g.steps)
    (hp : g.IsParent p u.index) (ht : t ∈ ws) (hpt : p < t.index) (htu : t.index < u.index)
    (hus : u.index ≤ s.index) : u ∈ ws := by
  induction h with
  | stop _ =>
    obtain rfl := List.mem_singleton.mp ht
    omega
  | @move s v ws hnext hwalks ih =>
    by_cases heq : u.index = s.index
    · exact eq_of_index_eq hu hs heq ▸ List.mem_cons_self
    · obtain ⟨q, hq⟩ := parent_ne_none_of_next? hnext
      obtain ⟨hv, hwhere, -⟩ := next?_cases horder hs hq hnext
      have ht : t ∈ ws := by
        rcases List.mem_cons.mp ht with rfl | ht
        · omega
        · exact ht
      refine List.mem_cons_of_mem _ (ih hv ht ?_)
      by_contra hvu
      -- The walk would jump over the step to an ancestor of it, and so past the parent.
      obtain rfl : v.index = q := by omega
      have hqs : g.Within v.index s.index := .single (isParent_of_mem hs hq)
      have hqu := within_of_between horder hqs (by omega) hus
      have hle := le_of_within horder (hqu.parent hp (by omega))
      have htv := (hwalks.mem horder hv t ht).2
      omega

/-- A walk ends where the lineage of its start ends, at the root. -/
theorem Walks.getLast? (h : g.Walks s ws) (hs : s ∈ g.steps) (hlineage : g.Lineage s ss) :
    ws.getLast? = ss.getLast? := by
  obtain ⟨r, hr, hlast, hroot, hwithin⟩ := hlineage.exists_root hs
  obtain ⟨t, ht, hend, hstop⟩ := h.exists_root
  have hmem := (h.mem horder hs t ht).1
  have heq := eq_of_within_root hmem hstop (h.within_root horder hs hr hroot hwithin t ht)
  rw [hlast, hend, eq_of_index_eq hr hmem heq]

end Order

end Waymark.StepGraph
