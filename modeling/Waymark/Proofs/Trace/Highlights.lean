import Waymark.Proofs.Trace.Staircase

/-! Which states a trace highlights when the run is in depth-first order: all that enclose the
selected one, and of the branches finished before only what a decorated step does not screen off. -/

namespace Waymark.StepGraph
variable {g : StepGraph} {steps : List Step} {s t : Step} {mode : Mode} {a d i p state : Nat}

/-- No state is shown by two steps. -/
def DistinctStates (g : StepGraph) : Prop :=
  ∀ t ∈ g.steps, ∀ u ∈ g.steps, t.decoration.isSome = true → t.decoration = u.decoration → t = u

/-- Steps `c` and `a` have one parent, and `c` comes first. -/
def EarlierSibling (g : StepGraph) (c a : Nat) : Prop :=
  c < a ∧ ∃ p, g.IsParent p c ∧ g.IsParent p a

/-- A step `t` is nested in the branch of `c`, an earlier sibling of `a`, and nothing on the way
back from `s` screens it off: `a` and the siblings up to it are bare, and `t` is not deeper than any
decorated step from `s` up to `a`. -/
structure Unscreened (g : StepGraph) (s t : Step) (c a : Nat) : Prop where
  nested : g.Within c t.index
  bare : ∀ u ∈ g.steps, u.index = a ∨ g.EarlierSibling c u.index ∧ g.EarlierSibling u.index a →
    u.decoration = none
  shallow : ∀ u ∈ g.steps, u.decoration.isSome = true → g.Within a u.index →
    g.Within u.index s.index → t.depth ≤ u.depth

/-- The entries of a trace that are highlighted. -/
def highlighted (g : StepGraph) (mode : Mode) (state : Nat) : List TraceEntry :=
  (g.trace mode state).filter (·.colour = .interesting)

/-- The states on the highlighted path, in the order of the trace. -/
def highlights (g : StepGraph) (mode : Mode) (state : Nat) : List Nat :=
  ((g.trace mode state).filter (·.colour = .interesting)).map (·.state)

theorem mem_of_stepOfState? (h : g.stepOfState? state = some s) :
    s ∈ g.steps ∧ s.decoration = some state :=
  ⟨List.mem_reverse.mp (List.mem_of_find?_eq_some h), by simpa using List.find?_some h⟩

theorem stepOfState?_eq_none : g.stepOfState? state = none ↔
    ∀ t ∈ g.steps, t.decoration ≠ some state := by
  simp [stepOfState?]

/-- A state that some step carries is shown by the last such step. -/
theorem exists_stepOfState? (h : ∃ t ∈ g.steps, t.decoration = some state) :
    ∃ s, g.stepOfState? state = some s ∧
      ∀ t ∈ g.steps, t.decoration = some state → t.index ≤ s.index := by
  cases hs : g.stepOfState? state with
  | none =>
    obtain ⟨t, ht, hd⟩ := h
    exact absurd hd (stepOfState?_eq_none.mp hs t ht)
  | some s =>
    refine ⟨s, rfl, ?_⟩
    intro t ht hd
    obtain ⟨-, later, earlier, hsplit, hlater⟩ := List.find?_eq_some_iff_append.mp hs
    have hsteps : g.steps = earlier.reverse ++ s :: later.reverse := by
      rw [← List.reverse_reverse g.steps, hsplit]
      simp
    have hrising := pairwise_index g
    rw [hsteps] at ht hrising
    rcases List.mem_append.mp ht with hmem | hmem
    · exact Nat.le_of_lt ((List.pairwise_append.mp hrising).2.2 t hmem s List.mem_cons_self)
    · rcases List.mem_cons.mp hmem with rfl | hmem
      · exact Nat.le_refl _
      · simpa [hd] using hlater t (List.mem_reverse.mp hmem)

theorem stepOfState?_of_mem (hdistinct : g.DistinctStates) (ht : t ∈ g.steps)
    (hd : t.decoration = some d) : g.stepOfState? d = some t := by
  cases hfind : g.stepOfState? d with
  | none =>
    have hnone := List.find?_eq_none.mp hfind t (List.mem_reverse.mpr ht)
    simp [hd] at hnone
  | some u =>
    obtain ⟨hu, hdu⟩ := mem_of_stepOfState? hfind
    rw [hdistinct t ht u hu (by simp [hd]) (hd.trans hdu.symm)]

theorem filter_entries (colour : Colour) (ss : List Step) :
    (entries colour ss).filter (·.colour = .interesting) =
      if colour = .interesting then entries colour ss else [] := by
  split
  · next h =>
    refine List.filter_eq_self.mpr fun e he => ?_
    obtain ⟨t, -, ht⟩ := List.mem_filterMap.mp he
    obtain ⟨d, -, rfl⟩ := Option.map_eq_some_iff.mp ht
    simpa using h
  · next h =>
    refine List.filter_eq_nil_iff.mpr fun e he => ?_
    obtain ⟨t, -, ht⟩ := List.mem_filterMap.mp he
    obtain ⟨d, -, rfl⟩ := Option.map_eq_some_iff.mp ht
    simpa using h

/-- What is shown around the path is not highlighted. -/
theorem highlighted_eq (hs : g.stepOfState? state = some s) :
    g.highlighted mode state = entries .interesting (staircase s.depth (g.walk s)) := by
  unfold highlighted trace
  rw [hs]
  cases mode with
  | simple => simp only [path, filter_entries, if_true]
  | advanced =>
    simp only [path, surroundings, List.filter_append, filter_entries, if_true, reduceCtorEq,
      if_false, List.nil_append]

theorem highlights_eq (hs : g.stepOfState? state = some s) :
    g.highlights mode state = (staircase s.depth (g.walk s)).filterMap (·.decoration) := by
  have hstates : ∀ ss : List Step, (entries .interesting ss).map (·.state) =
      ss.filterMap (·.decoration) := by
    intro ss
    simp [entries, List.map_filterMap, Option.map_map, Function.comp_def]
  rw [← hstates, ← highlighted_eq hs]
  rfl

/-- Each highlighted state leads back to the step recorded for it. -/
theorem map_stepOfState?_highlights (hdistinct : g.DistinctStates)
    (hs : g.stepOfState? state = some s) (hwalk : ∀ t ∈ g.walk s, t ∈ g.steps) :
    (g.highlights mode state).map g.stepOfState? =
      (staircase s.depth (g.walk s)).map some := by
  rw [highlights_eq hs]
  have hall : ∀ t ∈ staircase s.depth (g.walk s), t ∈ g.steps ∧ t.decoration.isSome = true :=
    fun t ht => ⟨hwalk t (staircase_sublist.subset ht), decorated_of_mem_staircase ht⟩
  generalize staircase s.depth (g.walk s) = recorded at hall
  induction recorded with
  | nil => rfl
  | cons t recorded ih =>
    obtain ⟨ht, hd⟩ := hall t List.mem_cons_self
    obtain ⟨d, hd⟩ := Option.isSome_iff_exists.mp hd
    rw [List.filterMap_cons_some hd, List.map_cons, List.map_cons,
      stepOfState?_of_mem hdistinct ht hd, ih fun u hu => hall u (List.mem_cons_of_mem t hu)]

/-- A run with two branches under its root: in the first a decorated step in one without
decoration, in the second the same. -/
def bareRun : List Step :=
  [(none, some 0), (some 0, none), (some 1, some 1), (some 0, none), (some 3, some 2)].map
    fun (parent, decoration) => ⟨0, parent, false, 0, none, decoration, none, none, 0⟩

theorem isParent_bareRun (h : (ofSteps bareRun).IsParent p i) :
    p = 0 ∧ i = 1 ∨ p = 1 ∧ i = 2 ∨ p = 0 ∧ i = 3 ∨ p = 3 ∧ i = 4 := by
  have hi : i < 5 := by
    obtain ⟨s, hs, -⟩ := h
    exact lt_size_of_step? hs
  have hparents : ∀ i < 5, ((ofSteps bareRun).step? i).bind (·.parent) =
      ([none, some 0, some 1, some 0, some 3][i]?).join := by decide
  have hp := (hparents i hi).symm.trans (isParent_iff.mp h)
  obtain rfl | rfl | rfl | rfl | rfl : i = 0 ∨ i = 1 ∨ i = 2 ∨ i = 3 ∨ i = 4 := by omega
  all_goals simp at hp
  all_goals omega

theorem depthFirst_bareRun : (ofSteps bareRun).DepthFirst := by
  have hlink : (ofSteps bareRun).IsParent 0 1 ∧ (ofSteps bareRun).IsParent 1 2 :=
    ⟨isParent_iff.mpr rfl, isParent_iff.mpr rfl⟩
  intro p i h
  rcases isParent_bareRun h with ⟨rfl, rfl⟩ | ⟨rfl, rfl⟩ | ⟨rfl, rfl⟩ | ⟨rfl, rfl⟩
  · exact ⟨0, rfl, .refl⟩
  · exact ⟨1, rfl, .refl⟩
  · exact ⟨2, rfl, .tail (.single hlink.1) hlink.2⟩
  · exact ⟨3, rfl, .refl⟩

theorem distinctStates_bareRun : (ofSteps bareRun).DistinctStates := by
  unfold DistinctStates
  decide

/-- The highlighted states enclose the selected one without a gap: in the order of the trace come
all decorated ancestors, from the innermost to the root, and nothing is highlighted that is not in
the same tree. The steps recorded go back in the run all the way, and the walk ends at the root. -/
theorem highlights_enclose (mode : Mode) (horder : (ofSteps steps).DepthFirst)
    (hdistinct : (ofSteps steps).DistinctStates)
    (hs : (ofSteps steps).stepOfState? state = some s) :
    let g := ofSteps steps
    ∃ (lineage recorded : List Step) (root : Step),
      g.Lineage s lineage ∧ lineage.getLast? = some root ∧ root.parent = none ∧
      (g.highlights mode state).map g.stepOfState? = recorded.map some ∧
      (lineage.filter (·.decoration.isSome)).Sublist recorded ∧
      (∀ t ∈ recorded, g.Within root.index t.index) ∧
      recorded.Pairwise (fun t u => u.index < t.index) ∧
      g.Walks s (g.walk s) ∧ (g.walk s).getLast? = some root := by
  intro g
  have hmem : s ∈ g.steps := (mem_of_stepOfState? hs).1
  have hwalks := walks_walk horder hmem
  have hfalling : (staircase s.depth (g.walk s)).Pairwise (fun t u => u.index < t.index) :=
    (hwalks.pairwise horder hmem).sublist staircase_sublist
  obtain ⟨lineage, hlineage⟩ := exists_lineage horder hmem
  obtain ⟨root, hroot, hlast, hnone, hwithin⟩ := hlineage.exists_root hmem
  refine ⟨lineage, staircase s.depth (g.walk s), root, hlineage, hlast, hnone,
    map_stepOfState?_highlights hdistinct hs fun t ht => (hwalks.mem horder hmem t ht).1,
    ?_, fun t ht => ?_, hfalling, hwalks, (hwalks.getLast? horder hmem hlineage).trans hlast⟩
  · have hrising := (hlineage.pairwise horder hmem).filter (·.decoration.isSome)
    refine sublist_of_falling hrising hfalling fun t ht => ?_
    obtain ⟨ht, hdecorated⟩ := List.mem_filter.mp ht
    obtain ⟨htg, habove⟩ := hlineage.mem hmem t ht
    exact mem_staircase_of_within horder hmem htg hdecorated habove
  · exact hwalks.within_root horder hmem hroot hnone hwithin t (staircase_sublist.subset ht)

theorem highlights_enclose_of_bare :
    let g := ofSteps bareRun
    g.DepthFirst ∧ g.DistinctStates ∧ g.highlights .advanced 2 = [2, 1, 0] ∧
    ∃ s, g.stepOfState? 2 = some s ∧ ∃ (lineage recorded : List Step) (root : Step),
      g.Lineage s lineage ∧ lineage.getLast? = some root ∧ root.parent = none ∧
      (g.highlights .advanced 2).map g.stepOfState? = recorded.map some ∧
      (lineage.filter (·.decoration.isSome)).Sublist recorded ∧
      (∀ t ∈ recorded, g.Within root.index t.index) ∧
      recorded.Pairwise (fun t u => u.index < t.index) ∧
      g.Walks s (g.walk s) ∧ (g.walk s).getLast? = some root :=
  ⟨depthFirst_bareRun, distinctStates_bareRun, by decide, _, rfl,
    highlights_enclose .advanced depthFirst_bareRun distinctStates_bareRun rfl⟩

/-- What is highlighted of finished branches. A highlighted state encloses the selected one, or it
is an earlier sibling of the selected step or of one of its ancestors. States nested in such a
sibling are skipped, unless nothing decorated screens them off. -/
theorem highlights_screened (mode : Mode) (horder : (ofSteps steps).DepthFirst)
    (hdistinct : (ofSteps steps).DistinctStates)
    (hs : (ofSteps steps).stepOfState? state = some s) :
    let g := ofSteps steps
    ∀ d ∈ g.highlights mode state, ∃ t, g.stepOfState? d = some t ∧
      (g.Within t.index s.index ∨ ∃ c a, g.EarlierSibling c a ∧ g.Within a s.index ∧
        (t.index = c ∨ g.Unscreened s t c a)) := by
  intro g d hd
  have hmem : s ∈ g.steps := (mem_of_stepOfState? hs).1
  have hwalks : g.Walks s (g.walk s) := walks_walk horder hmem
  -- The state belongs to a step that was recorded.
  rw [highlights_eq hs] at hd
  obtain ⟨t, ht, htd⟩ := List.mem_filterMap.mp hd
  have htw : t ∈ g.walk s := staircase_sublist.subset ht
  obtain ⟨htg, hts⟩ := hwalks.mem horder hmem t htw
  refine ⟨t, stepOfState?_of_mem hdistinct htg htd, ?_⟩
  by_cases hencloses : g.Within t.index s.index
  · exact .inl hencloses
  have hlt : t.index < s.index := by
    refine Nat.lt_of_le_of_ne hts fun heq => hencloses ?_
    rw [heq]
  obtain ⟨lineage, hlineage⟩ := exists_lineage horder hmem
  obtain ⟨root, hroot, -, hnone, hwithin⟩ := hlineage.exists_root hmem
  have htree := hwalks.within_root horder hmem hroot hnone hwithin t htw
  obtain ⟨p, c, a, hpc, hpa, hca, hct, has⟩ := exists_fork horder htree hwithin hlt hencloses
  refine .inr ⟨c, a, ⟨hca, p, hpc, hpa⟩, has, ?_⟩
  by_cases hself : t.index = c
  · exact .inl hself
  have has_le := le_of_within horder has
  refine .inr ⟨hct, fun u hu hbetween => ?_, fun u hu hdecorated hau hus => ?_⟩
  · have hpu : g.IsParent p u.index := by
      rcases hbetween with heq | ⟨⟨-, q, hqc, hqu⟩, -⟩
      · exact heq ▸ hpa
      · exact hqc.unique hpc ▸ hqu
    have hcu : c < u.index ∧ u.index ≤ a := by
      rcases hbetween with heq | ⟨⟨hcu, -⟩, hua, -⟩ <;> omega
    exact undecorated_of_nested horder hmem hu ht hpc hpu hct (.head hpa has) hself hcu.1
      (by omega)
  · have hta := lt_of_within_sibling horder hpc hpa hca hct
    have hau_le := le_of_within horder hau
    exact depth_le_of_index_lt (hwalks.pairwise horder hmem) ht
      (mem_staircase_of_within horder hmem hu hdecorated hus) (by omega)

theorem highlights_screened_of_bare :
    let g := ofSteps bareRun
    g.DepthFirst ∧ g.DistinctStates ∧ 1 ∈ g.highlights .simple 2 ∧
    ∃ s, g.stepOfState? 2 = some s ∧ ∀ d ∈ g.highlights .simple 2, ∃ t, g.stepOfState? d = some t ∧
      (g.Within t.index s.index ∨ ∃ c a, g.EarlierSibling c a ∧ g.Within a s.index ∧
        (t.index = c ∨ g.Unscreened s t c a)) :=
  ⟨depthFirst_bareRun, distinctStates_bareRun, by decide, _, rfl,
    highlights_screened .simple depthFirst_bareRun distinctStates_bareRun rfl⟩

theorem within_last_bareRun (h : (ofSteps bareRun).Within a 4) : a = 4 ∨ a = 3 ∨ a = 0 := by
  by_cases ha : a = 4
  · exact .inl ha
  have hthree := h.parent (p := 3) (isParent_iff.mpr rfl) ha
  by_cases ha : a = 3
  · exact .inr (.inl ha)
  have hroot := hthree.parent (p := 0) (isParent_iff.mpr rfl) ha
  have hle := le_of_within depthFirst_bareRun hroot
  omega

/-- A state nested in a finished branch is highlighted where nothing decorated screens it off. -/
theorem nested_state_highlighted :
    let g := ofSteps bareRun
    g.DepthFirst ∧ g.DistinctStates ∧ 1 ∈ g.highlights .simple 2 ∧
    ∃ s t, g.stepOfState? 2 = some s ∧ g.stepOfState? 1 = some t ∧
      ¬(g.Within t.index s.index ∨
        ∃ c a, g.EarlierSibling c a ∧ g.Within a s.index ∧ t.index = c) := by
  refine ⟨depthFirst_bareRun, distinctStates_bareRun, by decide, _, _, rfl, rfl, ?_⟩
  rintro (hwithin | ⟨c, a, ⟨hlt, p, hpc, hpa⟩, -, heq⟩)
  · have habove := within_last_bareRun hwithin
    simp at habove
  · obtain rfl : 2 = c := heq
    have hc := isParent_bareRun hpc
    have ha := isParent_bareRun hpa
    omega

end Waymark.StepGraph
