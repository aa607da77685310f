import Mathlib.Data.List.Chain
import Waymark.Proofs.Trace.Ancestry

/-! How depths are found: by climbing from every step until a root, a depth found before or a step
of the same climb stops it. A root gets depth 0, every other step one more than its parent, and a
circle of links is cut above one of its steps. -/

namespace Waymark.StepGraph
variable {links known : List (Option Nat)} {found : Nat → Option Nat} {chain seen : List Nat}
  {cursor : Option Nat} {a d i j k m n depth limit p q start : Nat}

/-- The parent link of step `i` leads to step `p`. -/
def Above (links : List (Option Nat)) (p i : Nat) : Prop := (links[i]?).join = some p

/-- Parent links lead to steps of the run. -/
def Inside (links : List (Option Nat)) : Prop := ∀ i p, Above links p i → p < links.length

/-- From step `i` parent links lead to a root, and there are `n` of them. -/
inductive Height (links : List (Option Nat)) : Nat → Nat → Prop
  | root {i : Nat} : (links[i]?).join = none → Height links i 0
  | up {i p n : Nat} : Above links p i → Height links p n → Height links i (n + 1)

/-- Parent links lead from each of two steps to the other. With one step twice: they lead back to
it. -/
def Around (links : List (Option Nat)) (i j : Nat) : Prop :=
  Relation.TransGen (Above links) i j ∧ Relation.TransGen (Above links) j i

/-- A depth is right for a step: a root has none above it, a step on a circle may be where the
circle is cut, and all others are one deeper than their parent. -/
inductive Fits (links : List (Option Nat)) (found : Nat → Option Nat) (i : Nat) : Nat → Prop
  | root : (links[i]?).join = none → Fits links found i 0
  | below {p d : Nat} : Above links p i → found p = some d → Fits links found i (d + 1)
  | cut {p d : Nat} : Above links p i → found p = some d → Around links i i → Fits links found i 0

/-- The depths found so far are right, and no circle is cut twice. -/
structure Lawful (links : List (Option Nat)) (found : Nat → Option Nat) : Prop where
  fits : ∀ i d, found i = some d → Fits links found i d
  single : ∀ i j, found i = some 0 → found j = some 0 → Around links i j → i = j

theorem Above.unique (hp : Above links p i) (hq : Above links q i) : p = q :=
  Option.some.inj (hp.symm.trans hq)

theorem Height.unique (hm : Height links i m) (hn : Height links i n) : m = n := by
  induction hm generalizing n with
  | root hroot =>
    cases hn with
    | root _ => rfl
    | up hup _ => simp [Above, hroot] at hup
  | up hup _ ih =>
    cases hn with
    | root hroot => simp [Above, hroot] at hup
    | up hup' hn =>
      obtain rfl := Above.unique hup hup'
      rw [ih hn]

/-- What is above a step from which the links lead to a root has fewer links above it. -/
theorem Height.lt_of_above (h : Height links i n) (ha : Relation.TransGen (Above links) a i) :
    ∃ k < n, Height links a k := by
  induction ha generalizing n with
  | single hlink =>
    cases h with
    | root hroot => simp [Above, hroot] at hlink
    | up hup h =>
      obtain rfl := Above.unique hup hlink
      exact ⟨_, Nat.lt_succ_self _, h⟩
  | tail _ hlink ih =>
    cases h with
    | root hroot => simp [Above, hroot] at hlink
    | up hup h =>
      obtain rfl := Above.unique hup hlink
      obtain ⟨k, hk, ha⟩ := ih h
      exact ⟨k, by omega, ha⟩

theorem Height.not_around (h : Height links i n) : ¬Around links i i := by
  intro haround
  obtain ⟨k, hk, h'⟩ := h.lt_of_above haround.1
  have hsame := h.unique h'
  omega

/-- The parent of a step on a circle is on it too. -/
theorem Around.parent (h : Around links i i) (hp : Above links p i) : Around links p i := by
  obtain ⟨q, hiq, hqi⟩ := Relation.TransGen.tail'_iff.mp h.1
  obtain rfl := Above.unique hqi hp
  refine ⟨.single hqi, ?_⟩
  rcases Relation.reflTransGen_iff_eq_or_transGen.mp hiq with rfl | hiq
  · exact .single hqi
  · exact hiq

theorem Around.trans (hij : Around links i j) (hjk : Around links j k) : Around links i k :=
  ⟨hij.1.trans hjk.1, hjk.2.trans hij.2⟩

theorem Around.symm (h : Around links i j) : Around links j i := ⟨h.2, h.1⟩

/-- Once the depth of a step is known, so are all depths above it. -/
theorem Lawful.known_above (h : Lawful links found) (ha : Relation.TransGen (Above links) a i)
    (hd : found i = some d) : ∃ e, found a = some e := by
  induction ha generalizing d with
  | single hlink =>
    cases h.fits _ _ hd with
    | root hroot => simp [Above, hroot] at hlink
    | below hp he => exact ⟨_, hp.unique hlink ▸ he⟩
    | cut hp he _ => exact ⟨_, hp.unique hlink ▸ he⟩
  | tail _ hlink ih =>
    cases h.fits _ _ hd with
    | root hroot => simp [Above, hroot] at hlink
    | below hp he => exact ih (hp.unique hlink ▸ he)
    | cut hp he _ => exact ih (hp.unique hlink ▸ he)

/-- Below the depth of a step every number is the depth of some step. -/
theorem Lawful.exists_of_le (h : Lawful links found) (hd : found i = some d) (hm : m ≤ d) :
    ∃ j, found j = some m := by
  induction d generalizing i with
  | zero =>
    obtain rfl : m = 0 := by omega
    exact ⟨i, hd⟩
  | succ d ih =>
    cases h.fits _ _ hd with
    | below _ he =>
      obtain rfl | hle : m = d + 1 ∨ m ≤ d := by omega
      · exact ⟨i, hd⟩
      · exact ih he hle

/-- With as many different depths up to its own, no step is as deep as there are steps. -/
theorem Lawful.lt (h : Lawful links found) (hinside : ∀ i d, found i = some d → i < n)
    (hd : found i = some d) : d < n := by
  have hsubset : List.range (d + 1) ⊆ (List.range n).filterMap found := by
    intro m hm
    have hle := List.mem_range.mp hm
    obtain ⟨j, hj⟩ := h.exists_of_le hd (Nat.le_of_lt_succ hle)
    exact List.mem_filterMap.mpr ⟨j, List.mem_range.mpr (hinside j m hj), hj⟩
  have hlength := (List.subperm_of_subset List.nodup_range hsubset).length_le
  have hfilter := List.length_filterMap_le found (List.range n)
  simp only [List.length_range] at hlength hfilter
  omega

/-- The steps of a climb, the last one first: each is the parent of the one behind it, none comes
twice, and the depth of none is known. -/
structure Strand (links known : List (Option Nat)) (chain : List Nat) : Prop where
  linked : chain.IsChain (Above links)
  nodup : chain.Nodup
  inside : ∀ i ∈ chain, i < links.length
  fresh : ∀ i ∈ chain, (known[i]?).join = none

/-- Where a climb ends and which depth its last step gets: at a root, below a step of known depth,
or below a step of the climb itself. -/
inductive Tops (links known : List (Option Nat)) (chain : List Nat) (i : Nat) : Nat → Prop
  | root : (links[i]?).join = none → Tops links known chain i 0
  | known {p d : Nat} : Above links p i → (known[p]?).join = some d →
      Tops links known chain i (d + 1)
  | again {p : Nat} : Above links p i → p ∈ chain → Tops links known chain i 0

theorem climb_strand (hinside : Inside links) (hseen : Strand links known seen)
    (hcursor : ∀ i ∈ seen.head?, (links[i]?).join = cursor)
    (hnext : ∀ i ∈ cursor, i < links.length) (hturns : limit + seen.length = links.length + 1) :
    let climbed := climb links known limit seen cursor
    Strand links known climbed.1 ∧
      ∀ i ∈ climbed.1.head?, Tops links known climbed.1 i climbed.2 := by
  induction limit generalizing seen cursor with
  | zero =>
    have hlength := length_le_of_lt hseen.nodup hseen.inside
    omega
  | succ limit ih =>
    cases cursor with
    | none => exact ⟨hseen, fun i hi => .root (hcursor i hi)⟩
    | some p =>
      unfold climb
      cases hp : (known[p]?).join with
      | some d => exact ⟨hseen, fun i hi => .known (hcursor i hi) hp⟩
      | none =>
        by_cases hmem : p ∈ seen
        · simp only [List.contains_eq_mem, hmem, decide_true, if_true]
          exact ⟨hseen, fun i hi => .again (hcursor i hi) hmem⟩
        · simp only [List.contains_eq_mem, hmem, decide_false, Bool.false_eq_true, if_false]
          refine ih ⟨?_, List.nodup_cons.mpr ⟨hmem, hseen.nodup⟩, ?_, ?_⟩ ?_ ?_ ?_
          · exact List.isChain_cons.mpr ⟨hcursor, hseen.linked⟩
          · intro i hi
            rcases List.mem_cons.mp hi with rfl | hi
            · exact hnext i rfl
            · exact hseen.inside i hi
          · intro i hi
            rcases List.mem_cons.mp hi with rfl | hi
            · exact hp
            · exact hseen.fresh i hi
          · intro i hi
            obtain rfl := Option.some.inj hi
            rfl
          · exact fun i hi => hinside p i hi
          · simp only [List.length_cons]
            omega

theorem mem_climb (h : i ∈ seen) : i ∈ (climb links known limit seen cursor).1 := by
  induction limit generalizing seen cursor with
  | zero => exact h
  | succ limit ih =>
    cases cursor with
    | none => exact h
    | some c =>
      unfold climb
      split
      · exact h
      · split
        · exact h
        · exact ih (List.mem_cons_of_mem _ h)

theorem length_fill : (fill known chain depth).length = known.length := by
  induction chain generalizing known depth with
  | nil => rfl
  | cons i chain ih => exact ih.trans List.length_set

theorem fill_of_not_mem (h : i ∉ chain) : (fill known chain depth)[i]? = known[i]? := by
  induction chain generalizing known depth with
  | nil => rfl
  | cons j chain ih =>
    obtain ⟨hne, hnot⟩ := List.ne_and_not_mem_of_not_mem_cons h
    rw [fill, ih hnot, List.getElem?_set_ne (Ne.symm hne)]

theorem fill_of_getElem? (hnodup : chain.Nodup) (hbound : i < known.length)
    (h : chain[m]? = some i) : (fill known chain depth)[i]? = some (some (depth + m)) := by
  induction chain generalizing known depth m with
  | nil => cases h
  | cons j chain ih =>
    obtain ⟨hnot, hrest⟩ := List.nodup_cons.mp hnodup
    cases m with
    | zero =>
      obtain rfl := Option.some.inj h
      rw [fill, fill_of_not_mem hnot, List.getElem?_set_self hbound]
      rfl
    | succ m =>
      have hset : (fill (known.set j (some depth)) chain (depth + 1))[i]? =
          some (some (depth + 1 + m)) := ih hrest (by rwa [List.length_set]) h
      rw [fill, hset, Nat.add_assoc, Nat.add_comm 1]

/-- The step that a climb came to last is above all others of it. -/
theorem Strand.above (h : Strand links known (i :: chain)) (hj : j ∈ chain) :
    Relation.TransGen (Above links) i j := by
  have hlinked := h.linked.imp fun _ _ hlink => Relation.TransGen.single hlink
  exact (List.pairwise_cons.mp (List.isChain_iff_pairwise.mp hlinked)).1 j hj

/-- What is known once a climb is filled in: the depths from before, and along the climb one more
from step to step. -/
theorem join_fill (hlength : known.length = links.length) (h : Strand links known chain) :
    (((fill known chain depth)[i]?).join = some d ↔
      (known[i]?).join = some d ∨ ∃ m, chain[m]? = some i ∧ d = depth + m) := by
  by_cases hmem : i ∈ chain
  · obtain ⟨m, hm⟩ := List.mem_iff_getElem?.mp hmem
    have hbound : i < known.length := hlength ▸ h.inside i hmem
    rw [fill_of_getElem? h.nodup hbound hm, h.fresh i hmem]
    constructor
    · intro hd
      exact .inr ⟨m, hm, (Option.some.inj hd).symm⟩
    · rintro (hd | ⟨m', hm', rfl⟩)
      · cases hd
      · obtain rfl := (List.getElem?_inj (List.getElem?_eq_some_iff.mp hm).1 h.nodup).mp
          (hm.trans hm'.symm)
        rfl
  · rw [fill_of_not_mem hmem]
    constructor
    · exact .inl
    · rintro (hd | ⟨m, hm, -⟩)
      · exact hd
      · exact absurd (List.mem_of_getElem? hm) hmem

/-- Of a strand every step but the first has its parent right before it. -/
theorem Strand.exists_parent (h : Strand links known chain) (hi : chain[m + 1]? = some i) :
    ∃ p, chain[m]? = some p ∧ Above links p i := by
  obtain ⟨hlt, rfl⟩ := List.getElem?_eq_some_iff.mp hi
  exact ⟨chain[m], List.getElem?_eq_getElem _, List.isChain_iff_getElem.mp h.linked m hlt⟩

theorem Strand.around (h : Strand links known chain) (hi : i ∈ chain.head?) (hp : p ∈ chain)
    (hlink : Above links p i) : Around links i i := by
  obtain ⟨rest, rfl⟩ := List.head?_eq_some_iff.mp hi
  rcases List.mem_cons.mp hp with rfl | hp
  · exact ⟨.single hlink, .single hlink⟩
  · exact ⟨(h.above hp).tail hlink, (h.above hp).tail hlink⟩

/-- A climb along which the depths are known afterwards, and right. A circle that it closes has no
known depth before, since with one step all steps above it would be known. -/
theorem lawful_fill (hlength : known.length = links.length)
    (hknown : Lawful links fun i => (known[i]?).join) (h : Strand links known chain)
    (htop : ∀ i ∈ chain.head?, Tops links known chain i depth) :
    Lawful links fun i => ((fill known chain depth)[i]?).join := by
  constructor
  · intro i d hd
    rcases (join_fill hlength h).mp hd with hd | ⟨m, hm, rfl⟩
    · cases hknown.fits i d hd with
      | root hroot => exact .root hroot
      | below hp he => exact .below hp ((join_fill hlength h).mpr (.inl he))
      | cut hp he haround => exact .cut hp ((join_fill hlength h).mpr (.inl he)) haround
    · cases m with
      | zero =>
        have hhead : i ∈ chain.head? := List.head?_eq_getElem?.trans hm
        cases htop i hhead with
        | root hroot => exact .root hroot
        | known hp he => exact .below hp ((join_fill hlength h).mpr (.inl he))
        | again hp hmem =>
          obtain ⟨k, hk⟩ := List.mem_iff_getElem?.mp hmem
          exact .cut hp ((join_fill hlength h).mpr (.inr ⟨k, hk, rfl⟩)) (h.around hhead hmem hp)
      | succ m =>
        obtain ⟨p, hp, hlink⟩ := h.exists_parent hm
        exact .below hlink ((join_fill hlength h).mpr (.inr ⟨m, hp, rfl⟩))
  · intro i j hi hj haround
    rcases (join_fill hlength h).mp hi with hi | ⟨m, hm, hzero⟩
    · rcases (join_fill hlength h).mp hj with hj | ⟨m, hm, -⟩
      · exact hknown.single i j hi hj haround
      · obtain ⟨e, he⟩ := hknown.known_above haround.2 hi
        rw [h.fresh j (List.mem_of_getElem? hm)] at he
        cases he
    · rcases (join_fill hlength h).mp hj with hj | ⟨k, hk, hzero'⟩
      · obtain ⟨e, he⟩ := hknown.known_above haround.1 hj
        rw [h.fresh i (List.mem_of_getElem? hm)] at he
        cases he
      · obtain rfl : m = 0 := by omega
        obtain rfl : k = 0 := by omega
        exact Option.some.inj (hm.symm.trans hk)

/-- The climb from a step of unknown depth starts with the step, and has turns for all steps. -/
theorem climb_start (hinside : Inside links) (hstart : start < links.length)
    (hunknown : (known[start]?).join = none) :
    let climbed := climb links known (links.length + 1) [] (some start)
    Strand links known climbed.1 ∧ (∀ i ∈ climbed.1.head?, Tops links known climbed.1 i climbed.2) ∧
      start ∈ climbed.1 := by
  have hempty : Strand links known [] := by
    constructor
    · exact .nil
    · exact .nil
    · exact fun i hi => absurd hi List.not_mem_nil
    · exact fun i hi => absurd hi List.not_mem_nil
  have hnext : ∀ i ∈ some start, i < links.length := by
    intro i hi
    obtain rfl := Option.some.inj hi
    exact hstart
  obtain ⟨hstrand, htop⟩ := climb_strand hinside hempty (fun i hi => by cases hi) hnext rfl
  refine ⟨hstrand, htop, ?_⟩
  unfold climb
  rw [hunknown]
  exact mem_climb List.mem_cons_self

/-- What holds of the depths found so far once the first `k` steps have had their turn. -/
structure Settled (links : List (Option Nat)) (k : Nat) (known : List (Option Nat)) : Prop where
  length : known.length = links.length
  lawful : Lawful links fun i => (known[i]?).join
  done : ∀ i < k, ∃ d, (known[i]?).join = some d

theorem settled_settle (hinside : Inside links)
    (hstart : start < links.length) (h : Settled links start known) :
    Settled links (start + 1) (settle links known start) := by
  unfold settle
  cases hjoin : (known[start]?).join with
  | some d =>
    refine ⟨h.length, h.lawful, fun i hi => ?_⟩
    obtain rfl | hi : i = start ∨ i < start := by omega
    · exact ⟨d, hjoin⟩
    · exact h.done i hi
  | none =>
    have hclimbed := climb_start hinside hstart hjoin
    generalize climb links known (links.length + 1) [] (some start) = climbed at *
    obtain ⟨chain, depth⟩ := climbed
    obtain ⟨hstrand, htop, hmem⟩ := hclimbed
    refine ⟨length_fill.trans h.length, lawful_fill h.length h.lawful hstrand htop, fun i hi => ?_⟩
    obtain rfl | hi : i = start ∨ i < start := by omega
    · obtain ⟨m, hm⟩ := List.mem_iff_getElem?.mp hmem
      exact ⟨depth + m, (join_fill h.length hstrand).mpr (.inr ⟨m, hm, rfl⟩)⟩
    · obtain ⟨d, hd⟩ := h.done i hi
      exact ⟨d, (join_fill h.length hstrand).mpr (.inl hd)⟩

theorem settled_range (hinside : Inside links) (hk : k ≤ links.length) : Settled links k
    ((List.range k).foldl (settle links) (links.map fun _ => none)) := by
  induction k with
  | zero =>
    have hnone : ∀ i d : Nat, ((links.map fun _ => (none : Option Nat))[i]?).join ≠ some d := by
      intro i d
      rw [List.getElem?_map]
      cases links[i]? <;> simp
    refine ⟨List.length_map .., ⟨?_, ?_⟩, fun i hi => absurd hi (Nat.not_lt_zero i)⟩
    · exact fun i d hd => absurd hd (hnone i d)
    · exact fun i j hi => absurd hi (hnone i 0)
  | succ k ih =>
    rw [List.range_succ, List.foldl_append]
    exact settled_settle hinside hk (ih (by omega))

theorem length_depths (hinside : Inside links) : (depths links).length = links.length := by
  simp only [depths, List.length_map]
  exact (settled_range hinside (Nat.le_refl links.length)).length

/-- Every step has a depth in the end, and depths follow the parent links. -/
theorem lawful_depths (hinside : Inside links) :
    Lawful links fun i => (depths links)[i]? := by
  have hsettled := settled_range hinside (Nat.le_refl links.length)
  have hfound : (fun i : Nat => (depths links)[i]?) = fun i =>
      (((List.range links.length).foldl (settle links) (links.map fun _ => none))[i]?).join := by
    funext i
    unfold depths
    rw [List.getElem?_map]
    by_cases hi : i < links.length
    · obtain ⟨d, hd⟩ := hsettled.done i hi
      rw [hd, Option.join_eq_some_iff.mp hd]
      rfl
    · rw [List.getElem?_eq_none (by rw [hsettled.length]; omega)]
      rfl
  rw [hfound]
  exact hsettled.lawful

-- A step on its own circle, a circle of three with a step hanging on it, and a later parent.
example :
    depths [some 0, some 2, some 3, some 1, some 2, some 6, none] = [0, 2, 1, 0, 2, 1, 0] := by
  decide

end Waymark.StepGraph
