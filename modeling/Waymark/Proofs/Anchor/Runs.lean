import Waymark.Anchor.Pinning
import Waymark.Proofs.Anchor.Weaving
import Waymark.Proofs.Text.Extent

/-! Runs of anchors. The ranges found while a text is scanned are the places of its runs, and
deleting them leaves what is left when every anchor is dropped. -/

namespace Waymark.Anchor
open Text
variable {t pre rest run done gap : Text} {c : Char} {r : Range} {rs : List Range}

theorem ne_feed_of_isGlyph (h : isGlyph c) : c ≠ '\n' := by
  rintro rfl
  exact absurd h (by decide)

theorem ne_return_of_isGlyph (h : isGlyph c) : c ≠ '\r' := by
  rintro rfl
  exact absurd h (by decide)

theorem strip_append {t u : Text} : strip (t ++ u) = strip t ++ strip u := List.filter_append ..

theorem strip_cons_of_not (h : ¬ isGlyph c) : strip (c :: t) = c :: strip t := by
  simp [strip, h]

theorem strip_cons_of_isGlyph (h : isGlyph c) : strip (c :: t) = strip t := by
  simp [strip, h]

theorem strip_glyph : strip [glyph] = [] := rfl

theorem strip_eq_nil (h : ∀ c ∈ t, isGlyph c) : strip t = [] := by
  simpa [strip] using h

theorem strip_eq_self (h : ∀ c ∈ t, ¬ isGlyph c) : strip t = t := by
  simpa [strip] using h

theorem not_isGlyph_of_mem_strip (h : c ∈ strip t) : ¬ isGlyph c := by
  simpa using (List.mem_filter.mp h).2

theorem strip_strip : strip (strip t) = strip t :=
  strip_eq_self fun _ => not_isGlyph_of_mem_strip

/-- In the text `rest` behind `pre`: a run of anchors that goes on at neither end, and where
it is. -/
def IsRunBehind (pre rest : Text) (r : Range) : Prop :=
  ∃ mid run post, rest = mid ++ run ++ post ∧
    r = ⟨extent (pre ++ mid), extent (pre ++ mid ++ run)⟩ ∧ run ≠ [] ∧ (∀ c ∈ run, isGlyph c) ∧
    (∀ c ∈ (pre ++ mid).getLast?, ¬ isGlyph c) ∧ (∀ c ∈ post.head?, ¬ isGlyph c)

/-- A run of anchors in a text that is as long as it can be. -/
def IsRun (t : Text) (r : Range) : Prop := IsRunBehind [] t r

/-- Reads the text `rest` behind `pre` by one other character or one whole run at a time, and
collects where the runs are. -/
inductive RunsBehind : (pre rest : Text) → List Range → Prop
  | nil {pre : Text} : RunsBehind pre [] []
  | gap {pre rest : Text} {c : Char} {rs : List Range} : ¬ isGlyph c →
      RunsBehind (pre ++ [c]) rest rs → RunsBehind pre (c :: rest) rs
  | run {pre run rest : Text} {rs : List Range} : run ≠ [] → (∀ c ∈ run, isGlyph c) →
      (∀ c ∈ rest.head?, ¬ isGlyph c) → RunsBehind (pre ++ run) rest rs →
      RunsBehind pre (run ++ rest) (⟨extent pre, extent (pre ++ run)⟩ :: rs)

/-- A scan that is inside a run or outside of any collects the runs. -/
theorem runsFrom_runsBehind (rest : Text) :
    (∀ pre, RunsBehind pre rest (runsFrom (extent pre) none rest)) ∧
    ∀ pre run, run ≠ [] → (∀ c ∈ run, isGlyph c) →
      RunsBehind pre (run ++ rest) (runsFrom (extent (pre ++ run)) (some (extent pre)) rest) := by
  induction rest with
  | nil =>
    refine ⟨fun pre => .nil, ?_⟩
    intro pre run hne hrun
    exact .run hne hrun (by simp) .nil
  | cons c rest ih =>
    obtain ⟨outside, inside⟩ := ih
    by_cases hc : isGlyph c
    · constructor
      · intro pre
        rw [runsFrom, if_pos hc, ← extent_concat]
        exact inside pre [c] (by simp) (by simpa using hc)
      · intro pre run hne hrun
        rw [runsFrom, if_pos hc, ← extent_concat, List.append_assoc, ← List.singleton_append,
          ← List.append_assoc]
        apply inside pre (run ++ [c]) (by simp)
        intro d hd
        rcases List.mem_append.mp hd with hd | hd
        · exact hrun d hd
        · simpa [List.mem_singleton.mp hd] using hc
    · have behind : ∀ pre, RunsBehind pre (c :: rest)
          (runsFrom ((extent pre).after c) none rest) := by
        intro pre
        rw [← extent_concat]
        exact .gap hc (outside _)
      constructor
      · intro pre
        rw [runsFrom, if_neg hc]
        exact behind pre
      · intro pre run hne hrun
        rw [runsFrom, if_neg hc]
        exact .run hne hrun (by simpa using hc) (behind _)

theorem runs_runsBehind (t : Text) : RunsBehind [] t (runs t) := (runsFrom_runsBehind t).1 []

/-- Both ends of a run resolve to where they are: neither is behind a return. -/
theorem indexAt_ends_of_run (pre rest : Text) (hne : run ≠ []) (hrun : ∀ c ∈ run, isGlyph c) :
    indexAt (pre ++ (run ++ rest)) (extent pre) = pre.length ∧
    indexAt (pre ++ (run ++ rest)) (extent (pre ++ run)) = (pre ++ run).length := by
  constructor
  · apply indexAt_extent
    rintro ⟨-, hnil | hhead⟩
    · exact hne (List.append_eq_nil_iff.mp hnil).1
    · obtain ⟨c, run, rfl⟩ := List.exists_cons_of_ne_nil hne
      exact ne_feed_of_isGlyph (hrun c (by simp)) (by simpa using hhead)
  · rw [← List.append_assoc]
    apply indexAt_extent
    rintro ⟨hlast, -⟩
    rw [List.getLast?_append, List.getLast?_eq_some_getLast hne, Option.some_or] at hlast
    exact ne_return_of_isGlyph (hrun _ (List.getLast_mem hne)) (Option.some.inj hlast)

theorem splice_run (hne : run ≠ []) (hrun : ∀ c ∈ run, isGlyph c) :
    (TextEdit.delete ⟨extent pre, extent (pre ++ run)⟩).splice (pre ++ (run ++ rest)) =
      ⟨pre.length, (pre ++ run).length, [], (List.prefix_append pre run).length_le⟩ := by
  obtain ⟨hstart, hstop⟩ := indexAt_ends_of_run pre rest hne hrun
  simp [TextEdit.splice, hstart, hstop]

/-- Weaves the deletions of the runs into a text that has been read up to a gap. -/
theorem weave_runsBehind (h : RunsBehind pre rest rs) (done gap : Text)
    (hpre : pre = done ++ gap) (ht : t = pre ++ rest) :
    Splice.weave done.length (gap ++ rest) (rs.map fun r => (TextEdit.delete r).splice t) =
      some (gap ++ strip rest) := by
  induction h generalizing done gap with
  | nil => simp [Splice.weave, strip]
  | @gap pre rest c rs hc _ ih =>
    have := ih done (gap ++ [c]) (by simp [hpre]) (by simp [ht])
    simpa [strip_cons_of_not hc] using this
  | @run pre run rest rs hne hrun _ _ ih =>
    have htail := ih (pre ++ run) [] (by simp) (by simp [ht])
    rw [List.map_cons, ht, splice_run hne hrun, Splice.weave_cons_eq_some, ← ht]
    refine ⟨by simp [hpre], strip rest, ?_, ?_⟩
    · have hdrop : (pre ++ run).length - done.length = (gap ++ run).length := by
        simp only [hpre, List.length_append]
        omega
      simpa only [hdrop, ← List.append_assoc, List.drop_left, List.nil_append] using htail
    · have htake : pre.length - done.length = gap.length := by simp [hpre]
      rw [htake, List.take_left, strip_append, strip_eq_nil hrun]
      simp

/-- Deleting the runs is never refused and leaves the text without its anchors. -/
theorem result?_deletions (uri : String) (t : Text) :
    (deletions uri t).result? t = some (strip t) := by
  have h := weave_runsBehind (runs_runsBehind t) [] [] rfl rfl
  simp only [List.nil_append, List.length_nil] at h
  simpa [EditBatch.result?, deletions, List.map_map, Function.comp_def, Splice.sort_of_weave h]
    using h

theorem takeWhile_run (hrun : ∀ c ∈ run, isGlyph c) (hrest : ∀ c ∈ rest.head?, ¬ isGlyph c) :
    (run ++ rest).takeWhile isGlyph = run := by
  rw [List.takeWhile_append_of_pos hrun]
  cases rest with
  | nil => simp
  | cons c rest => simp [show ¬ isGlyph c from hrest c rfl]

theorem isRunBehind_gap (hc : ¬ isGlyph c) :
    IsRunBehind (pre ++ [c]) rest r ↔ IsRunBehind pre (c :: rest) r := by
  constructor
  · rintro ⟨mid, run, post, rfl, rfl, hne, hrun, hmid, hpost⟩
    exact ⟨c :: mid, run, post, by simp, by simp, hne, hrun, by simpa using hmid, hpost⟩
  · rintro ⟨mid, run, post, hrest, rfl, hne, hrun, hmid, hpost⟩
    cases mid with
    | nil =>
      obtain ⟨d, run, rfl⟩ := List.exists_cons_of_ne_nil hne
      obtain ⟨rfl, -⟩ : c = d ∧ rest = run ++ post := by simpa using hrest
      exact absurd (hrun c (by simp)) hc
    | cons d mid =>
      obtain ⟨rfl, rfl⟩ : c = d ∧ rest = mid ++ run ++ post := by simpa using hrest
      exact ⟨mid, run, post, rfl, by simp, hne, hrun, by simpa using hmid, hpost⟩

/-- Where a text begins with a run, a run in it is that one or lies behind it. -/
theorem isRunBehind_run (hne : run ≠ []) (hrun : ∀ c ∈ run, isGlyph c)
    (hpre : ∀ c ∈ pre.getLast?, ¬ isGlyph c) (hrest : ∀ c ∈ rest.head?, ¬ isGlyph c) :
    IsRunBehind pre (run ++ rest) r ↔
      r = ⟨extent pre, extent (pre ++ run)⟩ ∨ IsRunBehind (pre ++ run) rest r := by
  constructor
  · rintro ⟨mid, run', post, heq, rfl, hne', hrun', hmid, hpost⟩
    rw [List.append_assoc] at heq
    rcases List.append_eq_append_iff.mp heq with ⟨mid', rfl, rfl⟩ | ⟨tail, htail, hend⟩
    · right
      exact ⟨mid', run', post, by simp, by simp, hne', hrun', by simpa using hmid, hpost⟩
    · left
      rcases List.eq_nil_or_concat mid with rfl | ⟨init, c, rfl⟩
      · have hsame : run' = run := by
          rw [← takeWhile_run hrun' hpost, ← takeWhile_run hrun hrest, heq, List.nil_append]
        simp [hsame]
      · -- A run that began inside the first one would not begin behind some other character.
        exact absurd (hrun c (by simp [htail])) (hmid c (by simp))
  · rintro (rfl | ⟨mid, run', post, rfl, rfl, hne', hrun', hmid, hpost⟩)
    · exact ⟨[], run, rest, by simp, by simp, hne, hrun, by simpa using hpre, hrest⟩
    · exact ⟨run ++ mid, run', post, by simp, by simp, hne', hrun', by simpa using hmid, hpost⟩

/-- What is collected is where the runs are. Behind a run the scan is only ever before another
character, which is why either end of the gap may be the one that is known. -/
theorem mem_iff_isRunBehind (h : RunsBehind pre rest rs)
    (hgap : (∀ c ∈ pre.getLast?, ¬ isGlyph c) ∨ ∀ c ∈ rest.head?, ¬ isGlyph c) :
    r ∈ rs ↔ IsRunBehind pre rest r := by
  induction h with
  | nil =>
    refine ⟨fun h => by simp at h, ?_⟩
    rintro ⟨mid, run, post, heq, -, hne, -⟩
    exact absurd (List.append_eq_nil_iff.mp (List.append_eq_nil_iff.mp heq.symm).1).2 hne
  | @gap pre rest c rs hc _ ih => rw [ih (by simp [hc]), isRunBehind_gap hc]
  | @run pre run rest rs hne hrun hrest _ ih =>
    have hpre : ∀ c ∈ pre.getLast?, ¬ isGlyph c := by
      refine hgap.resolve_right fun hhead => ?_
      obtain ⟨c, run, rfl⟩ := List.exists_cons_of_ne_nil hne
      exact hhead c (by simp) (hrun c (by simp))
    rw [List.mem_cons, ih (.inr hrest), isRunBehind_run hne hrun hpre hrest]

theorem mem_runs_iff : r ∈ runs t ↔ IsRun t r :=
  mem_iff_isRunBehind (runs_runsBehind t) (.inl (by simp))

theorem start_lt_stop_of_mem (h : r ∈ runs t) : r.start < r.stop := by
  obtain ⟨mid, run, post, -, rfl, hne, -⟩ := mem_runs_iff.mp h
  exact extent_lt_append hne

/-- Between two runs there is another character. -/
theorem pairwise_runsBehind (h : RunsBehind pre rest rs)
    (hgap : (∀ c ∈ pre.getLast?, ¬ isGlyph c) ∨ ∀ c ∈ rest.head?, ¬ isGlyph c) :
    rs.Pairwise (fun a b => a.stop < b.start) := by
  induction h with
  | nil => exact .nil
  | @gap pre rest c rs hc _ ih => exact ih (by simp [hc])
  | @run pre run rest rs hne hrun hrest htail ih =>
    refine List.pairwise_cons.mpr ⟨?_, ih (.inr hrest)⟩
    intro r hr
    obtain ⟨mid, run', post, rfl, rfl, hne', hrun', -⟩ :=
      (mem_iff_isRunBehind htail (.inr hrest)).mp hr
    apply extent_lt_append
    rintro rfl
    obtain ⟨c, run', rfl⟩ := List.exists_cons_of_ne_nil hne'
    exact hrest c (by simp) (hrun' c (by simp))

theorem runs_eq_nil_iff : runs t = [] ↔ ∀ c ∈ t, ¬ isGlyph c := by
  have hrun : ∀ {pre rest rs}, RunsBehind pre rest rs → (rs = [] ↔ ∀ c ∈ rest, ¬ isGlyph c) := by
    intro pre rest rs h
    induction h with
    | nil => simp
    | gap hc _ ih => simp [hc, ih]
    | @run pre run rest rs hne hrun _ _ _ =>
      obtain ⟨c, run, rfl⟩ := List.exists_cons_of_ne_nil hne
      simp [hrun c (by simp)]
  exact hrun (runs_runsBehind t)

theorem strip?_eq_none_iff : strip? t = none ↔ ∀ c ∈ t, ¬ isGlyph c := by
  simp [strip?]

theorem strip?_of_runs (h : runs t ≠ []) : strip? t = some (strip t) := by
  have : strip? t ≠ none := fun hnone => h (runs_eq_nil_iff.mpr (strip?_eq_none_iff.mp hnone))
  unfold strip? at this ⊢
  split <;> simp_all

end Waymark.Anchor
