import Waymark.Proofs.Trace.Bounds

/-! Traces of states on one path agree. The trace of a highlighted state goes on as that of the
state it is highlighted for, so that selecting it shows the rest of the path. -/

namespace Waymark.StepGraph
variable {g : StepGraph} {s t : Step} {before after : List Step} {mode : Mode}
  {maxDepth state : Nat}

/-- Once a step is recorded the bound on the depth is its own, as at the start of a walk from it. -/
theorem staircase_resume (hafter : t ∉ after)
    (h : t ∈ staircase maxDepth (before ++ t :: after)) (hbefore : t ∉ before) :
    ∃ recorded, recorded.Sublist before ∧
      staircase maxDepth (before ++ t :: after) = recorded ++ staircase t.depth (t :: after) := by
  induction before generalizing maxDepth with
  | nil =>
    rw [List.nil_append] at h ⊢
    refine ⟨[], .slnil, ?_⟩
    rw [staircase_start (decorated_of_mem_staircase h), List.nil_append]
    by_cases hrecord : t.decoration.isSome ∧ t.depth ≤ maxDepth
    · exact staircase_cons_of_pos hrecord
    · rw [staircase_cons_of_neg hrecord] at h
      exact absurd (staircase_sublist.subset h) hafter
  | cons v before ih =>
    obtain ⟨hne, hnot⟩ := List.ne_and_not_mem_of_not_mem_cons hbefore
    rw [List.cons_append] at h ⊢
    by_cases hrecord : v.decoration.isSome ∧ v.depth ≤ maxDepth
    · rw [staircase_cons_of_pos hrecord] at h ⊢
      obtain ⟨recorded, hsub, heq⟩ := ih ((List.mem_cons.mp h).resolve_left hne) hnot
      exact ⟨v :: recorded, hsub.cons_cons v, by rw [heq, List.cons_append]⟩
    · rw [staircase_cons_of_neg hrecord] at h ⊢
      obtain ⟨recorded, hsub, heq⟩ := ih h hnot
      exact ⟨recorded, hsub.cons v, heq⟩

theorem exists_of_mem_highlighted (hs : g.stepOfState? state = some s) {e : TraceEntry}
    (he : e ∈ g.highlighted mode state) :
    ∃ t ∈ staircase s.depth (g.walk s), t.decoration = some e.state := by
  rw [highlighted_eq hs] at he
  obtain ⟨t, ht, hd⟩ := List.mem_filterMap.mp he
  obtain ⟨d, htd, rfl⟩ := Option.map_eq_some_iff.mp hd
  exact ⟨t, ht, htd⟩

theorem trace_simple (state : Nat) : g.trace .simple state = g.highlighted .simple state := by
  cases hs : g.stepOfState? state with
  | none => simp [highlighted, trace, hs]
  | some s =>
    rw [highlighted_eq hs]
    simp [trace, hs, path]

/-- A path from a highlighted state on is what is left of the path that the state is highlighted
on. -/
theorem highlighted_of_highlighted (hdistinct : g.DistinctStates)
    (hs : g.stepOfState? state = some s) (hends : g.EndsClear s) {e : TraceEntry}
    (he : e ∈ g.highlighted mode state) :
    g.highlighted mode e.state = (g.highlighted mode state).dropWhile (·.state ≠ e.state) := by
  obtain ⟨t, ht, hd⟩ := exists_of_mem_highlighted hs he
  have hmem := (mem_of_stepOfState? hs).1
  have hroams := roams_walk hmem
  obtain ⟨before, after, hwalk⟩ := List.mem_iff_append.mp (staircase_sublist.subset ht)
  have hnodup : (before ++ t :: after).Nodup := hwalk ▸ hroams.once.of_map _
  obtain ⟨-, htail, hdisjoint⟩ := List.nodup_append.mp hnodup
  have htbefore : t ∉ before := fun h => hdisjoint t h t List.mem_cons_self rfl
  have hsteps : ∀ u ∈ before ++ t :: after, u ∈ g.steps :=
    fun u hu => (hroams.fresh u (hwalk ▸ hu)).1
  have htg := hsteps t (List.mem_append_right _ List.mem_cons_self)
  rw [hwalk] at ht
  obtain ⟨recorded, hsub, hstairs⟩ := staircase_resume (List.nodup_cons.mp htail).1 ht htbefore
  rw [highlighted_eq hs, highlighted_eq (stepOfState?_of_mem hdistinct htg hd),
    walk_of_walk hmem hends hwalk, hwalk, hstairs, entries, entries, List.filterMap_append,
    List.dropWhile_append_of_pos]
  · rw [staircase_start (by simp [hd]), List.filterMap_cons_some (by rw [hd]; rfl),
      List.dropWhile_cons_of_neg (by simp)]
  · -- Nothing recorded before is shown as the same state.
    intro e' he'
    obtain ⟨u, hu, hentry⟩ := List.mem_filterMap.mp he'
    obtain ⟨d', hud, rfl⟩ := Option.map_eq_some_iff.mp hentry
    refine decide_eq_true fun heq => ?_
    have hub := hsub.subset hu
    have hsame : u.decoration = t.decoration := hud.trans ((congrArg some heq).trans hd.symm)
    have hut : u = t := hdistinct u (hsteps u (List.mem_append_left _ hub)) t htg
      (by simp [hud]) hsame
    exact htbefore (hut ▸ hub)

/-- Traces along a path agree. Where the walk from a state ends for want of a next step, as it
always does if parents come first, the trace of any state highlighted on it highlights exactly what
is left of the path from there on. In simple mode that is all the trace has. -/
theorem highlighted_resumes (hdistinct : g.DistinctStates) :
    (g.ParentsFirst → ∀ s ∈ g.steps, g.EndsClear s) ∧
    ∀ mode state s, g.stepOfState? state = some s → g.EndsClear s →
      ∀ e ∈ g.highlighted mode state,
        g.highlighted mode e.state = (g.highlighted mode state).dropWhile (·.state ≠ e.state) ∧
        g.trace .simple e.state = (g.trace .simple state).dropWhile (·.state ≠ e.state) := by
  constructor
  · intro hfirst s hs
    exact endsClear_of_parentsFirst hfirst hs
  · intro mode state s hs hends e he
    refine ⟨highlighted_of_highlighted hdistinct hs hends he, ?_⟩
    rw [trace_simple, trace_simple]
    refine highlighted_of_highlighted hdistinct hs hends ?_
    rwa [highlighted_eq hs] at he ⊢

/-- A run with two states under its root, one in the other, and then a branch of it whose own step
is bare and holds two states side by side. -/
def forkedRun : List Step :=
  [(none, false, some 0), (some 0, false, some 1), (some 1, false, some 2), (some 0, true, none),
    (some 3, false, some 4), (some 3, false, some 5)].map
    fun (parent, isBranch, decoration) =>
      ⟨0, parent, isBranch, 0, none, decoration, none, none, 0⟩

theorem distinctStates_forkedRun : (ofSteps forkedRun).DistinctStates := by
  unfold DistinctStates
  decide

theorem parentsFirst_forkedRun : (ofSteps forkedRun).ParentsFirst := by
  rintro p i ⟨s, hs, hp⟩
  have hback : ∀ s ∈ (ofSteps forkedRun).steps, s.parent.all (· < s.index) := by decide
  have hlt := hback s (mem_of_step? hs)
  rw [hp, index_eq_of_step? hs] at hlt
  simpa using hlt

theorem highlighted_resumes_of_forked :
    let g := ofSteps forkedRun
    let shown := fun state : Nat => TraceEntry.mk state .interesting true
    g.DistinctStates ∧ g.ParentsFirst ∧ g.highlighted .advanced 5 = [5, 4, 0].map shown ∧
    ∃ s, g.stepOfState? 5 = some s ∧ g.EndsClear s ∧
      g.highlighted .advanced 4 = (g.highlighted .advanced 5).dropWhile (·.state ≠ 4) ∧
      g.trace .simple 4 = (g.trace .simple 5).dropWhile (·.state ≠ 4) := by
  have hshown :
      TraceEntry.mk 4 .interesting true ∈ (ofSteps forkedRun).highlighted .advanced 5 := by decide
  obtain ⟨s, hs, hmem⟩ : ∃ s, (ofSteps forkedRun).stepOfState? 5 = some s ∧
      s ∈ (ofSteps forkedRun).steps := ⟨_, rfl, by decide⟩
  obtain ⟨hclear, hresumes⟩ := highlighted_resumes distinctStates_forkedRun
  have hends := hclear parentsFirst_forkedRun s hmem
  exact ⟨distinctStates_forkedRun, parentsFirst_forkedRun, by decide, s, hs, hends,
    hresumes .advanced 5 s hs hends _ hshown⟩

end Waymark.StepGraph
