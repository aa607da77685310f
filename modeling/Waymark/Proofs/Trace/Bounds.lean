import Waymark.Proofs.Trace.Roaming
import Waymark.Proofs.Trace.Surroundings

/-! What a trace holds at most, and in what order, for a run whose steps have any parent links and
any depths: the decorated steps of a walk that none before them undercut. -/

namespace Waymark.StepGraph
variable {g : StepGraph} {s t : Step} {before after ws : List Step} {mode : Mode}
  {maxDepth state : Nat}

/-- Step `t` of a walk is decorated, and no decorated step walked before it is less deep. -/
def IsStair (ws : List Step) (t : Step) : Prop :=
  t.decoration.isSome ∧ ∀ u ∈ ws.takeWhile (· ≠ t), u.decoration.isSome → t.depth ≤ u.depth

instance (ws : List Step) (t : Step) : Decidable (IsStair ws t) :=
  inferInstanceAs (Decidable (_ ∧ _))

theorem takeWhile_ne (h : t ∉ before) : (before ++ t :: after).takeWhile (· ≠ t) = before := by
  rw [List.takeWhile_append_of_pos, List.takeWhile_cons_of_neg (by simp), List.append_nil]
  intro u hu
  exact decide_eq_true fun heq => h (heq ▸ hu)

/-- The bound on the depth sums up what was walked before: it admits what no decorated step there
undercuts. -/
theorem staircase_append (hnodup : (before ++ ws).Nodup)
    (hmax : ∀ d, d ≤ maxDepth ↔ ∀ u ∈ before, u.decoration.isSome → d ≤ u.depth) :
    staircase maxDepth ws = ws.filter fun t => IsStair (before ++ ws) t := by
  induction ws generalizing before maxDepth with
  | nil => rfl
  | cons t ws ih =>
    have ht : t ∉ before := fun hmem =>
      (List.nodup_append.mp hnodup).2.2 t hmem t List.mem_cons_self rfl
    have hstair : IsStair (before ++ t :: ws) t ↔ t.decoration.isSome ∧ t.depth ≤ maxDepth := by
      rw [IsStair, takeWhile_ne ht, hmax]
    have hsplit : before ++ t :: ws = (before ++ [t]) ++ ws := by simp
    rw [hsplit] at hnodup
    rw [List.filter_cons]
    by_cases hrecord : t.decoration.isSome ∧ t.depth ≤ maxDepth
    · rw [staircase_cons_of_pos hrecord, if_pos (decide_eq_true (hstair.mpr hrecord)), hsplit,
        ih hnodup]
      intro d
      constructor
      · intro hd u hu hdecorated
        rcases List.mem_append.mp hu with hu | hu
        · exact hd.trans ((hmax t.depth).mp hrecord.2 u hu hdecorated)
        · obtain rfl := List.mem_singleton.mp hu
          exact hd
      · intro h
        exact h t (List.mem_append_right _ List.mem_cons_self) hrecord.1
    · rw [staircase_cons_of_neg hrecord, if_neg (by simpa [hstair] using hrecord), hsplit,
        ih hnodup]
      intro d
      rw [hmax d]
      constructor
      · intro h u hu hdecorated
        rcases List.mem_append.mp hu with hu | hu
        · exact h u hu hdecorated
        · obtain rfl := List.mem_singleton.mp hu
          have hdeep : ¬u.depth ≤ maxDepth := fun hle => hrecord ⟨hdecorated, hle⟩
          have hd := (hmax d).mpr h
          omega
      · intro h u hu
        exact h u (List.mem_append_left _ hu)

theorem staircase_start (hs : s.decoration.isSome) :
    staircase s.depth (s :: ws) = s :: staircase s.depth ws :=
  staircase_cons_of_pos ⟨hs, Nat.le_refl _⟩

/-- What is recorded of a walk from a decorated step are its stairs. -/
theorem staircase_eq_filter (hs : s.decoration.isSome) (hnodup : (s :: ws).Nodup) :
    staircase s.depth (s :: ws) = (s :: ws).filter fun t => IsStair (s :: ws) t := by
  have hfirst : IsStair (s :: ws) s := ⟨hs, by simp⟩
  have hrest : staircase s.depth ws = ws.filter fun t => IsStair ([s] ++ ws) t := by
    refine staircase_append hnodup ?_
    intro d
    simp [hs]
  rw [staircase_start hs, List.filter_cons, if_pos (decide_eq_true hfirst), hrest]
  rfl

theorem length_entries_le (colour : Colour) (ss : List Step) :
    (entries colour ss).length ≤ ss.length := List.length_filterMap_le _ _

/-- Around a path no more is shown than the run has steps. -/
theorem length_surroundings_le (s : Step) : (g.surroundings s).length ≤ g.size := by
  obtain ⟨below, -, hbelow, hnodup, hsurroundings⟩ := exists_surroundings (g := g) s
  have hinside : ∀ i ∈ (below ++ g.roots s.verifiable).map (·.index), i < g.size := by
    intro i hi
    obtain ⟨t, ht, rfl⟩ := List.mem_map.mp hi
    apply index_lt_size
    rcases List.mem_append.mp ht with ht | ht
    · exact hbelow t ht
    · exact List.mem_of_mem_filter ht
  have hlength := length_le_of_lt hnodup hinside
  rw [List.length_map] at hlength
  rw [hsurroundings]
  exact (length_entries_le _ _).trans hlength

theorem length_path_le (hs : s ∈ g.steps) : (g.path s).length ≤ g.size := by
  have hentries : (g.path s).length ≤ (g.walk s).length :=
    (length_entries_le _ _).trans staircase_sublist.length_le
  exact hentries.trans (roams_walk hs).length_le

theorem length_trace_le (hs : g.stepOfState? state = some s) :
    (g.trace mode state).length ≤ 2 * g.size := by
  have hpath := length_path_le (mem_of_stepOfState? hs).1
  have hsurroundings := length_surroundings_le (g := g) s
  unfold trace
  rw [hs]
  cases mode with
  | simple => exact hpath.trans (by omega)
  | advanced =>
    simp only [List.length_append]
    omega

/-- What is recorded of the walk from a step with a state starts with the step, and is made up of
the stairs of the walk. -/
theorem staircase_walk (hs : s ∈ g.steps) (hdecorated : s.decoration.isSome) :
    staircase s.depth (g.walk s) = (g.walk s).filter (fun t => IsStair (g.walk s) t) ∧
      (staircase s.depth (g.walk s)).head? = some s := by
  have hroams := roams_walk hs
  obtain ⟨rest, hwalk⟩ := List.head?_eq_some_iff.mp hroams.start
  rw [hwalk] at hroams ⊢
  refine ⟨staircase_eq_filter hdecorated (hroams.once.of_map _), ?_⟩
  rw [staircase_start hdecorated]
  rfl

theorem head?_highlighted (hs : g.stepOfState? state = some s) :
    (g.highlighted mode state).head? = some ⟨state, .interesting, true⟩ := by
  obtain ⟨hmem, hd⟩ := mem_of_stepOfState? hs
  obtain ⟨rest, hrecorded⟩ :=
    List.head?_eq_some_iff.mp (staircase_walk hmem (by simp [hd])).2
  rw [highlighted_eq hs, hrecorded]
  simp [entries, hd]

/-- A trace always comes to its end, whatever the parent links: both the descent to what a step
expands to and the walk back from it do, and the walk takes no step twice. What is highlighted are,
in the order of the walk, its decorated steps that no decorated one before them undercuts, first
the selected one, and so their depths never rise. All in all a trace has at most two entries for
each step, and for a state that no step carries it has none. The steps are the given ones, numbered
by their places. -/
theorem trace_bounded (steps : List Step) (mode : Mode) (state : Nat) :
    let g := ofSteps steps
    g.Numbers steps ∧
    ((∀ t ∈ g.steps, t.decoration ≠ some state) → g.trace mode state = []) ∧
    ((∃ t ∈ g.steps, t.decoration = some state) → ∃ s ∈ g.steps, s.decoration = some state ∧
      (∀ t ∈ g.steps, t.decoration = some state → t.index ≤ s.index) ∧
      (∃ order, g.Descends [s.index] (g.children s.index) order ∧
        g.expansion s.index = order.filter g.isDecorated) ∧
      g.Roams [] s (g.walk s) ∧
      (let stairs := (g.walk s).filter fun t => IsStair (g.walk s) t
      g.highlighted mode state = entries .interesting stairs ∧
      stairs.Pairwise (fun t u => u.depth ≤ t.depth)) ∧
      (g.highlighted mode state).head? = some ⟨state, .interesting, true⟩ ∧
      (g.highlighted mode state).length ≤ g.size ∧
      (g.trace mode state).length ≤ 2 * g.size) := by
  intro g
  refine ⟨numbers_ofSteps steps, ?_, ?_⟩
  · intro hunknown
    unfold trace
    rw [stepOfState?_eq_none.mpr hunknown]
  · intro hknown
    obtain ⟨s, hs, hlast⟩ := exists_stepOfState? hknown
    obtain ⟨hmem, hd⟩ := mem_of_stepOfState? hs
    obtain ⟨hstairs, -⟩ := staircase_walk hmem (by simp [hd])
    refine ⟨s, hmem, hd, hlast, exists_descends_expansion (index_lt_size hmem), roams_walk hmem,
      ⟨?_, ?_⟩, head?_highlighted hs, ?_, length_trace_le hs⟩
    · rw [highlighted_eq hs, hstairs]
    · exact hstairs ▸ pairwise_staircase
    · rw [highlighted_eq hs]
      exact length_path_le hmem

end Waymark.StepGraph
