import Mathlib.Data.List.Chain
import Waymark.Proofs.Trace.Ancestry
import Waymark.Trace.Walk

/-! Walks back through a run whose parent links may lead anywhere. Such a walk ends at a step that
it has seen, if not before; as it comes to no step twice, it cannot go on for longer than the
run. -/

namespace Waymark.StepGraph
variable {g : StepGraph} {s t : Step} {before after ws ws' : List Step} {seen : List Nat}
  {limit : Nat}

/-- A walk that goes on as long as it can: it moves from each step to the next one, comes to none
twice nor to one seen before, and ends where it could only do so, or where there is no next step. -/
structure Roams (g : StepGraph) (seen : List Nat) (s : Step) (ws : List Step) : Prop where
  start : ws.head? = some s
  moves : ws.IsChain fun t u => g.next? t = some u
  once : (ws.map (·.index)).Nodup
  fresh : ∀ t ∈ ws, t ∈ g.steps ∧ t.index ∉ seen
  ends : ∀ t ∈ ws.getLast?, ∀ u, g.next? t = some u → u ∈ ws ∨ u.index ∈ seen

/-- The walk from a step ends for want of a next step, not at a step that it has come through. -/
def EndsClear (g : StepGraph) (s : Step) : Prop := ∀ t ∈ (g.walk s).getLast?, g.next? t = none

theorem parent_ne_none_of_next? (h : g.next? s = some t) : ∃ p, s.parent = some p := by
  cases hp : s.parent with
  | none => simp [next?, hp] at h
  | some p => exact ⟨p, rfl⟩

theorem mem_of_next? (h : g.next? s = some t) : t ∈ g.steps := by
  obtain ⟨p, hp⟩ := parent_ne_none_of_next? h
  simp only [next?, hp] at h
  split at h
  · exact mem_of_step? h
  · split at h
    · cases h
    · exact mem_of_step? h

/-- Where parents come first, every move goes back in the run. -/
theorem lt_of_next? (hfirst : g.ParentsFirst) (hs : s ∈ g.steps) (h : g.next? s = some t) :
    t.index < s.index := by
  obtain ⟨p, hp⟩ := parent_ne_none_of_next? h
  have hlt := hfirst p s.index (isParent_of_mem hs hp)
  simp only [next?, hp] at h
  split at h
  · have hindex := index_eq_of_step? h
    omega
  · split at h
    · cases h
    · have hindex := index_eq_of_step? h
      omega

theorem Roams.stop (hs : s ∈ g.steps) (hfresh : s.index ∉ seen)
    (hends : ∀ t, g.next? s = some t → t.index ∈ s.index :: seen) : g.Roams seen s [s] where
  start := rfl
  moves := .singleton s
  once := List.pairwise_singleton _ _
  fresh := by
    intro t ht
    obtain rfl := List.mem_singleton.mp ht
    exact ⟨hs, hfresh⟩
  ends := by
    intro t ht u hu
    obtain rfl := Option.some.inj ht
    rcases List.mem_cons.mp (hends u hu) with heq | hmem
    · exact .inl (List.mem_singleton.mpr (eq_of_index_eq (mem_of_next? hu) hs heq))
    · exact .inr hmem

theorem Roams.cons (hs : s ∈ g.steps) (hfresh : s.index ∉ seen) (hnext : g.next? s = some t)
    (h : g.Roams (s.index :: seen) t ws) : g.Roams seen s (s :: ws) where
  start := rfl
  moves := by
    refine h.moves.cons ?_
    intro u hu
    rw [h.start] at hu
    obtain rfl := Option.some.inj hu
    exact hnext
  once := by
    refine List.nodup_cons.mpr ⟨?_, h.once⟩
    intro hmem
    obtain ⟨u, hu, heq⟩ := List.mem_map.mp hmem
    exact (h.fresh u hu).2 (heq ▸ List.mem_cons_self)
  fresh := by
    intro u hu
    rcases List.mem_cons.mp hu with rfl | hu
    · exact ⟨hs, hfresh⟩
    · obtain ⟨hmem, hnot⟩ := h.fresh u hu
      exact ⟨hmem, fun hseen => hnot (List.mem_cons_of_mem _ hseen)⟩
  ends := by
    intro u hu v hv
    obtain ⟨rest, rfl⟩ := List.head?_eq_some_iff.mp h.start
    rw [List.getLast?_cons_cons] at hu
    rcases h.ends u hu v hv with hmem | hmem
    · exact .inl (List.mem_cons_of_mem _ hmem)
    · rcases List.mem_cons.mp hmem with heq | hmem
      · exact .inl (List.mem_cons.mpr (.inl (eq_of_index_eq (mem_of_next? hv) hs heq)))
      · exact .inr hmem

/-- A walk is over after its first step, or goes on with a walk from the next one. -/
theorem Roams.cases (h : g.Roams seen s ws) :
    s ∈ g.steps ∧ s.index ∉ seen ∧
    ((ws = [s] ∧ ∀ t, g.next? s = some t → t.index ∈ s.index :: seen) ∨
      ∃ t rest, ws = s :: rest ∧ g.next? s = some t ∧ t.index ∉ s.index :: seen ∧
        g.Roams (s.index :: seen) t rest) := by
  obtain ⟨rest, rfl⟩ := List.head?_eq_some_iff.mp h.start
  obtain ⟨hs, hfresh⟩ := h.fresh s List.mem_cons_self
  refine ⟨hs, hfresh, ?_⟩
  cases rest with
  | nil =>
    left
    refine ⟨rfl, ?_⟩
    intro t ht
    rcases h.ends s rfl t ht with hmem | hmem
    · obtain rfl := List.mem_singleton.mp hmem
      exact List.mem_cons_self
    · exact List.mem_cons_of_mem _ hmem
  | cons t rest =>
    right
    obtain ⟨hnext, hmoves⟩ := List.isChain_cons_cons.mp h.moves
    obtain ⟨hnot, honce⟩ := List.nodup_cons.mp h.once
    have hlater : ∀ u ∈ t :: rest, u.index ∉ s.index :: seen := by
      intro u hu hmem
      rcases List.mem_cons.mp hmem with heq | hmem
      · exact hnot (List.mem_map.mpr ⟨u, hu, heq⟩)
      · exact (h.fresh u (List.mem_cons_of_mem _ hu)).2 hmem
    refine ⟨t, t :: rest, rfl, hnext, hlater t List.mem_cons_self, rfl, hmoves, honce, ?_, ?_⟩
    · intro u hu
      exact ⟨(h.fresh u (List.mem_cons_of_mem _ hu)).1, hlater u hu⟩
    · intro u hu v hv
      rcases h.ends u (by rwa [List.getLast?_cons_cons]) v hv with hmem | hmem
      · rcases List.mem_cons.mp hmem with rfl | hmem
        · exact .inr List.mem_cons_self
        · exact .inl hmem
      · exact .inr (List.mem_cons_of_mem _ hmem)

/-- There is one way only for a walk to go. -/
theorem Roams.unique (h : g.Roams seen s ws) (h' : g.Roams seen s ws') : ws = ws' := by
  induction ws generalizing seen s ws' with
  | nil => cases h.start
  | cons v ws ih =>
    obtain ⟨-, -, hcase⟩ := h.cases
    obtain ⟨-, -, hcase'⟩ := h'.cases
    rcases hcase with ⟨hws, hend⟩ | ⟨t, rest, hws, hnext, hfresh, hrest⟩
    · rcases hcase' with ⟨rfl, -⟩ | ⟨t, rest, -, hnext, hfresh, -⟩
      · exact hws
      · exact absurd (hend t hnext) hfresh
    · obtain ⟨rfl, rfl⟩ := List.cons.inj hws
      rcases hcase' with ⟨-, hend⟩ | ⟨t', rest', rfl, hnext', -, hrest'⟩
      · exact absurd (hend t hnext) hfresh
      · obtain rfl := Option.some.inj (hnext.symm.trans hnext')
        rw [ih hrest hrest']

theorem walkFrom_of_mem (h : s.index ∈ seen) : g.walkFrom limit seen s = [] := by
  cases limit with
  | zero => rfl
  | succ limit => rw [walkFrom, if_pos (by simpa using h)]

theorem roams_walkFrom (hs : s ∈ g.steps) (hfresh : s.index ∉ seen) (hseen : seen.Nodup)
    (hinside : ∀ i ∈ seen, i < g.size) (hturns : limit + seen.length = g.size) :
    g.Roams seen s (g.walkFrom limit seen s) := by
  induction limit generalizing seen s with
  | zero =>
    -- All steps were seen, and so the next one too.
    have hlength := length_le_of_lt (List.nodup_cons.mpr ⟨hfresh, hseen⟩)
      (List.forall_mem_cons.mpr ⟨index_lt_size hs, hinside⟩)
    rw [List.length_cons] at hlength
    omega
  | succ limit ih =>
    rw [walkFrom, if_neg (by simpa using hfresh)]
    cases hnext : g.next? s with
    | none => exact .stop hs hfresh fun t ht => by simp [hnext] at ht
    | some t =>
      by_cases hmem : t.index ∈ s.index :: seen
      · simp only [walkFrom_of_mem hmem]
        refine .stop hs hfresh ?_
        intro u hu
        obtain rfl := Option.some.inj (hnext.symm.trans hu)
        exact hmem
      · refine .cons hs hfresh hnext (ih (mem_of_next? hnext) hmem ?_ ?_ ?_)
        · exact List.nodup_cons.mpr ⟨hfresh, hseen⟩
        · exact List.forall_mem_cons.mpr ⟨index_lt_size hs, hinside⟩
        · rw [List.length_cons]
          omega

theorem roams_walk (hs : s ∈ g.steps) : g.Roams [] s (g.walk s) :=
  roams_walkFrom hs List.not_mem_nil .nil (fun _ hi => absurd hi List.not_mem_nil) rfl

/-- A walk comes to no more steps than the run has. -/
theorem Roams.length_le (h : g.Roams seen s ws) : ws.length ≤ g.size := by
  have hinside : ∀ i ∈ ws.map (·.index), i < g.size := by
    intro i hi
    obtain ⟨t, ht, rfl⟩ := List.mem_map.mp hi
    exact index_lt_size (h.fresh t ht).1
  have hlength := length_le_of_lt h.once hinside
  rwa [List.length_map] at hlength

/-- Where parents come first, a walk goes back in the run all the way and cannot come to a step
again. -/
theorem endsClear_of_parentsFirst (hfirst : g.ParentsFirst) (hs : s ∈ g.steps) :
    g.EndsClear s := by
  have hroams := roams_walk hs
  have hfalling : (g.walk s).IsChain fun t u => u.index < t.index := by
    refine List.isChain_iff_getElem.mpr ?_
    intro k hk
    exact lt_of_next? hfirst (hroams.fresh _ (List.getElem_mem _)).1
      (List.isChain_iff_getElem.mp hroams.moves k hk)
  have htrans : Trans (fun t u : Step => u.index < t.index) (fun t u : Step => u.index < t.index)
      (fun t u : Step => u.index < t.index) := ⟨fun htu huv => Nat.lt_trans huv htu⟩
  replace hfalling := List.isChain_iff_pairwise.mp hfalling
  intro t ht
  cases hnext : g.next? t with
  | none => rfl
  | some u =>
    obtain ⟨before, hwalk⟩ := List.getLast?_eq_some_iff.mp ht
    have htw : t ∈ g.walk s := List.mem_of_getLast? ht
    have hlt := lt_of_next? hfirst (hroams.fresh t htw).1 hnext
    rcases hroams.ends t ht u hnext with hu | hu
    · rw [hwalk] at hu hfalling
      rcases List.mem_append.mp hu with hu | hu
      · have hlater := (List.pairwise_append.mp hfalling).2.2 u hu t List.mem_cons_self
        omega
      · obtain rfl := List.mem_singleton.mp hu
        omega
    · cases hu

/-- What is left of a walk that ends for want of a next step is the walk from there. -/
theorem walk_of_walk (hs : s ∈ g.steps) (hends : g.EndsClear s)
    (hsplit : g.walk s = before ++ t :: after) : g.walk t = t :: after := by
  have hroams := roams_walk hs
  rw [hsplit] at hroams
  have ht : t ∈ g.steps := (hroams.fresh t (List.mem_append_right _ List.mem_cons_self)).1
  refine (roams_walk ht).unique ⟨rfl, ?_, ?_, ?_, ?_⟩
  · exact (List.isChain_append.mp hroams.moves).2.1
  · have honce := hroams.once
    rw [List.map_append] at honce
    exact (List.nodup_append.mp honce).2.1
  · exact fun u hu => hroams.fresh u (List.mem_append_right _ hu)
  · intro u hu v hv
    have hlast : u ∈ (g.walk s).getLast? := by
      rw [hsplit, List.getLast?_append, hu]
      rfl
    rw [hends u hlast] at hv
    cases hv

end Waymark.StepGraph
