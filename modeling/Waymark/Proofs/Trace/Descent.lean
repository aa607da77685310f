import Mathlib.Data.List.Infix
import Waymark.Proofs.Trace.Ancestry

/-! What a step expands to: the decorated steps below it, in depth-first order. The descent goes
down child links with a stack and a memory of what it has seen, also where links run in circles. -/

namespace Waymark.StepGraph
variable {g : StepGraph} {seen stack order u u' v w : List Nat}
  {c i j limit p q top : Nat}

/-- Step `c` hangs on step `p`: its parent link leads to `p`, which is another step of the run. -/
def Hangs (g : StepGraph) (p c : Nat) : Prop := g.IsParent p c ∧ p < g.size ∧ p ≠ c

/-- The way down to a step from one above it, told by the steps that it comes to. It does not come
back to where it starts but at its very end. -/
inductive Way (g : StepGraph) (top : Nat) : List Nat → Nat → Prop
  | child {c : Nat} : g.Hangs top c → Way g top [c] c
  | down {way : List Nat} {p c : Nat} : Way g top way p → p ≠ top → g.Hangs p c →
      Way g top (way ++ [c]) c

/-- In depth-first order below `top` step `j` comes before step `k`: the ways down to them compare
like words. So what is above comes first, and of two branches the one whose step comes first. -/
def ComesBefore (g : StepGraph) (top j k : Nat) : Prop :=
  ∃ v w, g.Way top v j ∧ g.Way top w k ∧ v < w

/-- The steps that a descent comes to, in this order: it takes the next step from the stack, passes
over it if it was seen before, and puts the steps right below it on top of the stack otherwise. -/
inductive Descends (g : StepGraph) : (seen stack order : List Nat) → Prop
  | done {seen : List Nat} : Descends g seen [] []
  | again {seen stack order : List Nat} {i : Nat} : i ∈ seen → Descends g seen stack order →
      Descends g seen (i :: stack) order
  | visit {seen stack order : List Nat} {i : Nat} : i ∉ seen →
      Descends g (i :: seen) (g.children i ++ stack) order →
      Descends g seen (i :: stack) (i :: order)

/-- A step of the run with a decoration. -/
def isDecorated (g : StepGraph) (i : Nat) : Bool := (g.step? i).any (·.decoration.isSome)

/-- The number of parent links that lead to no step seen so far. -/
def unseenLinks (g : StepGraph) (seen : List Nat) : Nat :=
  g.steps.countP fun s => s.parent.any fun p => !seen.contains p

theorem mem_children : c ∈ g.children p ↔ g.IsParent p c ∧ p ≠ c := by
  simp only [children, List.mem_map, List.mem_filter, Bool.and_eq_true, beq_iff_eq, bne_iff_ne]
  constructor
  · rintro ⟨s, ⟨hs, hp, hne⟩, rfl⟩
    exact ⟨isParent_of_mem hs hp, Ne.symm hne⟩
  · rintro ⟨⟨s, hs, hp⟩, hne⟩
    have hindex := index_eq_of_step? hs
    exact ⟨s, ⟨mem_of_step? hs, hp, by rw [hindex]; exact Ne.symm hne⟩, hindex⟩

/-- Children come in run order. -/
theorem pairwise_children (p : Nat) : (g.children p).Pairwise (· < ·) :=
  List.pairwise_map.mpr ((pairwise_index g).sublist List.filter_sublist)

theorem hangs_of_mem_children (hp : p < g.size) (h : c ∈ g.children p) : g.Hangs p c := by
  obtain ⟨hparent, hne⟩ := mem_children.mp h
  exact ⟨hparent, hp, hne⟩

theorem Hangs.lt_size (h : g.Hangs p c) : c < g.size := by
  obtain ⟨⟨s, hs, -⟩, -⟩ := h
  exact lt_size_of_step? hs

theorem Hangs.unique (hp : g.Hangs p c) (hq : g.Hangs q c) : p = q := IsParent.unique hp.1 hq.1

/-- Every step has one parent, and so there is only one way down to it. -/
theorem Way.unique (hv : g.Way top v j) (hw : g.Way top w j) : v = w := by
  induction hv generalizing w with
  | child h =>
    cases hw with
    | child _ => rfl
    | down _ hne h' => exact absurd (h'.unique h) hne
  | down _ hne h ih =>
    cases hw with
    | child h' => exact absurd (h.unique h') hne
    | down hw _ h' =>
      obtain rfl := h.unique h'
      rw [ih hw]

theorem Way.isBelow (h : g.Way top v j) : Relation.TransGen g.Hangs top j := by
  induction h with
  | child h => exact .single h
  | down _ _ h ih => exact ih.tail h

theorem Way.lt_size (h : g.Way top v j) : j < g.size := by
  cases h with
  | child h => exact h.lt_size
  | down _ _ h => exact h.lt_size

theorem Way.to_child (h : g.Way top v i) (hne : i ≠ top) (hc : c ∈ g.children i) :
    g.Way top (v ++ [c]) c :=
  h.down hne (hangs_of_mem_children h.lt_size hc)

/-- Two ways part: the first takes an earlier step than the second where they do. -/
def Parts (v w : List Nat) : Prop :=
  ∃ (u v' w' : List Nat) (c d : Nat), v = u ++ c :: v' ∧ w = u ++ d :: w' ∧ c < d

theorem Parts.lt (h : Parts v w) (hv : v <+: u) (hw : w <+: u') : u < u' := by
  obtain ⟨r, v', w', c, d, rfl, rfl, hlt⟩ := h
  obtain ⟨x, rfl⟩ := hv
  obtain ⟨y, rfl⟩ := hw
  simp only [List.append_assoc, List.cons_append]
  exact List.append_left_lt (List.cons_lt_cons_iff.mpr (.inl hlt))

theorem Parts.append (h : Parts v w) (x : List Nat) : Parts (v ++ x) w := by
  obtain ⟨r, v', w', c, d, rfl, rfl, hlt⟩ := h
  exact ⟨r, v' ++ x, w', c, d, by simp, rfl, hlt⟩

theorem lt_of_prefix (h : v ++ [c] <+: w) : v < w := by
  obtain ⟨x, rfl⟩ := h
  have hlt : v ++ [] < v ++ c :: x := List.append_left_lt (List.nil_lt_cons c x)
  simpa using hlt

/-- The ways down to two steps part, and the first step is in the earlier branch. -/
def Apart (g : StepGraph) (top b c : Nat) : Prop :=
  ∃ v w, g.Way top v b ∧ g.Way top w c ∧ Parts v w

/-- The way down to step `j` leads through step `b`. -/
def Through (g : StepGraph) (top b j : Nat) : Prop :=
  ∃ v w, g.Way top v b ∧ g.Way top w j ∧ v <+: w

theorem Way.through_self (h : g.Way top v j) : g.Through top j j :=
  ⟨v, v, h, h, List.prefix_refl v⟩

/-- The way down through a child leads through its parent, which comes before all on it. -/
theorem Way.through_child (hv : g.Way top v i) (hne : i ≠ top) (hc : c ∈ g.children i)
    (h : g.Through top c j) : g.ComesBefore top i j ∧ g.Through top i j := by
  obtain ⟨v', w, hv', hw, hprefix⟩ := h
  obtain rfl := hv'.unique (hv.to_child hne hc)
  constructor
  · exact ⟨v, w, hv, hw, lt_of_prefix hprefix⟩
  · exact ⟨v, w, hv, hw, (List.prefix_append v [c]).trans hprefix⟩

theorem Apart.comesBefore (h : g.Apart top i c) (hj : g.Through top c j) :
    g.ComesBefore top i j := by
  obtain ⟨v, w, hv, hw, hparts⟩ := h
  obtain ⟨w', x, hw', hx, hprefix⟩ := hj
  obtain rfl := hw.unique hw'
  exact ⟨v, x, hv, hx, hparts.lt (List.prefix_refl v) hprefix⟩

/-- The children of a step are in branches that part, and each parts from what the step parts
from. -/
theorem Way.pairwise_apart (hv : g.Way top v i) (hne : i ≠ top)
    (h : (i :: stack).Pairwise (g.Apart top)) :
    (g.children i ++ stack).Pairwise (g.Apart top) := by
  obtain ⟨hfirst, hrest⟩ := List.pairwise_cons.mp h
  refine List.pairwise_append.mpr ⟨?_, hrest, ?_⟩
  · refine (pairwise_children i).imp_of_mem ?_
    intro c d hc hd hlt
    exact ⟨_, _, hv.to_child hne hc, hv.to_child hne hd, v, [], [], c, d, rfl, rfl, hlt⟩
  · intro c hc b hb
    obtain ⟨v', w, hv', hw, hparts⟩ := hfirst b hb
    obtain rfl := hv.unique hv'
    exact ⟨_, w, hv.to_child hne hc, hw, hparts.append [c]⟩

/-- Whatever is on the stack is in branches that part, the earlier ones on top. So what comes out is
in depth-first order, since a step goes before what is below it and that before the rest. -/
theorem Descends.ordered (h : g.Descends seen stack order) (htop : top ∈ seen)
    (hways : ∀ b ∈ stack, ∃ v, g.Way top v b) (hapart : stack.Pairwise (g.Apart top)) :
    order.Pairwise (g.ComesBefore top) ∧ ∀ j ∈ order, ∃ b ∈ stack, g.Through top b j := by
  induction h with
  | done => exact ⟨.nil, fun j hj => by cases hj⟩
  | again _ _ ih =>
    obtain ⟨-, hways⟩ := List.forall_mem_cons.mp hways
    obtain ⟨hordered, hthrough⟩ := ih htop hways (List.pairwise_cons.mp hapart).2
    refine ⟨hordered, ?_⟩
    intro j hj
    obtain ⟨b, hb, hbj⟩ := hthrough j hj
    exact ⟨b, List.mem_cons_of_mem _ hb, hbj⟩
  | @visit seen stack order i hi _ ih =>
    have hne : i ≠ top := fun heq => hi (heq ▸ htop)
    obtain ⟨⟨v, hv⟩, hways⟩ := List.forall_mem_cons.mp hways
    have hways' : ∀ b ∈ g.children i ++ stack, ∃ v, g.Way top v b := by
      intro b hb
      rcases List.mem_append.mp hb with hb | hb
      · exact ⟨_, hv.to_child hne hb⟩
      · exact hways b hb
    obtain ⟨hordered, hthrough⟩ :=
      ih (List.mem_cons_of_mem i htop) hways' (hv.pairwise_apart hne hapart)
    constructor
    · refine List.pairwise_cons.mpr ⟨?_, hordered⟩
      intro j hj
      obtain ⟨b, hb, hbj⟩ := hthrough j hj
      rcases List.mem_append.mp hb with hb | hb
      · exact (hv.through_child hne hb hbj).1
      · exact ((List.pairwise_cons.mp hapart).1 b hb).comesBefore hbj
    · intro j hj
      rcases List.mem_cons.mp hj with rfl | hj
      · exact ⟨j, List.mem_cons_self, hv.through_self⟩
      · obtain ⟨b, hb, hbj⟩ := hthrough j hj
        rcases List.mem_append.mp hb with hb | hb
        · exact ⟨i, List.mem_cons_self, (hv.through_child hne hb hbj).2⟩
        · exact ⟨b, List.mem_cons_of_mem _ hb, hbj⟩

/-- A descent from a step comes to what is below it, in depth-first order. -/
theorem Descends.ordered_below (hi : i < g.size) (h : g.Descends [i] (g.children i) order) :
    order.Pairwise (g.ComesBefore i) ∧ ∀ j ∈ order, ∃ v, g.Way i v j := by
  have hways : ∀ c ∈ g.children i, g.Way i [c] c :=
    fun c hc => .child (hangs_of_mem_children hi hc)
  obtain ⟨hordered, hthrough⟩ := h.ordered List.mem_cons_self (fun c hc => ⟨[c], hways c hc⟩) <| by
    refine (pairwise_children i).imp_of_mem ?_
    intro c d hc hd hlt
    exact ⟨[c], [d], hways c hc, hways d hd, [], [], [], c, d, rfl, rfl, hlt⟩
  refine ⟨hordered, ?_⟩
  intro j hj
  obtain ⟨-, -, -, w, -, hw, -⟩ := hthrough j hj
  exact ⟨w, hw⟩

/-- No step is visited twice. -/
theorem Descends.nodup (h : g.Descends seen stack order) :
    order.Nodup ∧ ∀ j ∈ order, j ∉ seen := by
  induction h with
  | done => exact ⟨.nil, fun j hj => by cases hj⟩
  | again _ _ ih => exact ih
  | visit hi _ ih =>
    obtain ⟨hnodup, hfresh⟩ := ih
    refine ⟨List.nodup_cons.mpr ⟨fun hmem => hfresh _ hmem List.mem_cons_self, hnodup⟩, ?_⟩
    intro j hj
    rcases List.mem_cons.mp hj with rfl | hj
    · exact hi
    · exact fun hseen => hfresh j hj (List.mem_cons_of_mem _ hseen)

/-- Nothing is left out: what is on the stack is seen in the end, and so are the children of all
that is visited. -/
theorem Descends.closed (h : g.Descends seen stack order) :
    (∀ b ∈ stack, b ∈ seen ∨ b ∈ order) ∧
      ∀ j ∈ order, ∀ c ∈ g.children j, c ∈ seen ∨ c ∈ order := by
  induction h with
  | done => exact ⟨fun b hb => absurd hb List.not_mem_nil, fun j hj => absurd hj List.not_mem_nil⟩
  | again hi _ ih =>
    refine ⟨fun b hb => ?_, ih.2⟩
    rcases List.mem_cons.mp hb with rfl | hb
    · exact .inl hi
    · exact ih.1 b hb
  | @visit seen stack order i _ _ ih =>
    have hlater : ∀ b, b ∈ i :: seen ∨ b ∈ order → b ∈ seen ∨ b ∈ i :: order := by
      intro b hb
      rcases hb with hb | hb
      · rcases List.mem_cons.mp hb with rfl | hb
        · exact .inr List.mem_cons_self
        · exact .inl hb
      · exact .inr (List.mem_cons_of_mem i hb)
    refine ⟨fun b hb => ?_, fun j hj c hc => ?_⟩
    · rcases List.mem_cons.mp hb with rfl | hb
      · exact .inr List.mem_cons_self
      · exact hlater b (ih.1 b (List.mem_append_right _ hb))
    · rcases List.mem_cons.mp hj with rfl | hj
      · exact hlater c (ih.1 c (List.mem_append_left _ hc))
      · exact hlater c (ih.2 j hj c hc)

theorem length_children (i : Nat) :
    (g.children i).length = g.steps.countP fun s => s.parent == some i && s.index != i := by
  rw [children, List.length_map, List.countP_eq_length_filter]

/-- A visit uses up the links that lead to the step, and puts no more steps on the stack. -/
theorem unseenLinks_cons (hi : i ∉ seen) :
    (g.children i).length + g.unseenLinks (i :: seen) ≤ g.unseenLinks seen := by
  rw [length_children, unseenLinks, unseenLinks]
  generalize g.steps = steps
  induction steps with
  | nil => simp
  | cons s steps ih =>
    simp only [List.countP_cons]
    cases hp : s.parent with
    | none => simpa using ih
    | some p =>
      by_cases hpi : p = i
      · subst hpi
        have hfresh : (!seen.contains p) = true := by simpa using hi
        have hseen : (!(p :: seen).contains p) = false := by simp
        simp only [Option.any_some, hfresh, hseen, beq_self_eq_true, Bool.false_eq_true, if_false,
          if_true, Bool.true_and]
        split <;> omega
      · have hsame : (i :: seen).contains p = seen.contains p := by simp [hpi]
        have hother : (some p == some i && s.index != i) = false := by simp [hpi]
        simp only [Option.any_some, hsame, hother, Bool.false_eq_true, if_false]
        split <;> omega

/-- The descent is not cut short as long as turns are left for all that may come on the stack. -/
theorem exists_descends (h : stack.length + g.unseenLinks seen < limit) :
    ∃ order, g.Descends seen stack order ∧
      g.descend limit seen stack = order.filter g.isDecorated := by
  induction limit generalizing seen stack with
  | zero => omega
  | succ limit ih =>
    cases stack with
    | nil => exact ⟨[], .done, rfl⟩
    | cons i stack =>
      simp only [List.length_cons] at h
      by_cases hi : i ∈ seen
      · have hturns : stack.length + g.unseenLinks seen < limit := by omega
        obtain ⟨order, horder, hfound⟩ := ih hturns
        refine ⟨order, .again hi horder, ?_⟩
        rw [← hfound, descend, if_pos (by simpa using hi)]
      · have hlinks := unseenLinks_cons (g := g) hi
        have hturns :
            (g.children i ++ stack).length + g.unseenLinks (i :: seen) < limit := by
          rw [List.length_append]
          omega
        obtain ⟨order, horder, hfound⟩ := ih hturns
        refine ⟨i :: order, .visit hi horder, ?_⟩
        rw [descend, if_neg (by simpa using hi), List.filter_cons, ← hfound]
        rfl

/-- The descent from a step comes to its end. -/
theorem exists_descends_expansion (hi : i < g.size) :
    ∃ order, g.Descends [i] (g.children i) order ∧
      g.expansion i = order.filter g.isDecorated := by
  rw [expansion, if_pos hi]
  apply exists_descends
  have hlinks : (g.children i).length + g.unseenLinks [i] ≤ g.unseenLinks [] :=
    unseenLinks_cons List.not_mem_nil
  have hsize : g.unseenLinks [] ≤ g.size := List.countP_le_length
  omega

end Waymark.StepGraph
