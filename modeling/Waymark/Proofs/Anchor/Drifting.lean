import Waymark.Proofs.Anchor.Pins
import Waymark.Proofs.Anchor.Places
import Waymark.Proofs.Anchor.Sowing
import Waymark.Proofs.Marker.Counting

/-! What becomes of a place when anchors are put into a text that has anchors already. The anchors
of the first place of a line always go in at this place, and those of the other places of the line
go in too far to the left. -/

namespace Waymark.Anchor
open Text
variable {s t post head line A R : Text} {p : Position} {board : Board} {k : Nat}

/-- The places of a board in a text that go with some of its markers. -/
theorem countP_le_places {f : Marker → Bool} {g : Nat → Bool}
    (h : ∀ m ∈ board.markers, f m = true → g (t.indexAt m.origin) = true) :
    board.markers.countP f ≤ (places t board).countP g := by
  rw [places, List.countP_map]
  exact List.countP_mono_left h

section
variable (h : IsPlace s p head line post) (hvalid : ∀ m ∈ board.markers, m.origin.IsIn s)
include h hvalid

/-- Where no marker is to the left, the anchors of a place go in right there once more. -/
theorem exists_sow_leftmost (hfree : strip line = line)
    (hleft : ∀ m ∈ board.markers, ¬ m.origin.LeftOf p) (hA : EndsLine A) (hhead : strip A = head)
    (hR : strip R = post) :
    ∃ A' R' n, sown board (A ++ line ++ R) = A' ++ line ++ (List.replicate n glyph ++ R') ∧
      EndsLine A' ∧ strip A' = head ∧ strip R' = post ∧
      board.markers.countP (·.origin = p) ≤ n := by
  have hextent := h.extent_append_line hA hhead
  have hreturn := h.not_behindReturn hfree hhead hR
  have hapart : ∀ k ∈ places (A ++ line ++ R) board,
      k < A.length ∨ (A ++ line).length ≤ k := by
    intro k hk
    obtain ⟨m, hm, rfl⟩ := List.mem_map.mp hk
    by_cases hbefore : m.origin < p
    · left
      rw [List.append_assoc]
      refine h.indexAt_lt (hvalid m hm) ?_ hA hhead _
      rcases Position.lt_def.mp hbefore with hline | ⟨hline, hcharacter⟩
      · exact hline
      · exact absurd ⟨hline, hcharacter⟩ (hleft m hm)
    · exact .inr (le_indexAt_of_not_lt (hextent ▸ hbefore) hreturn)
  have hline : sow (fun k => (places (A ++ line ++ R) board).count (A.length + k)) line = line := by
    refine sow_eq_self fun k hk => List.count_eq_zero.mpr fun hmem => ?_
    have hcases := hapart _ hmem
    rw [List.length_append] at hcases
    omega
  obtain ⟨R', hsow, hR'⟩ := exists_sowThrough
    (fun k => (places (A ++ line ++ R) board).count ((A ++ line).length + k)) R
  have hsown : sown board (A ++ line ++ R) =
      sow (fun k => (places (A ++ line ++ R) board).count k) A ++ line ++
        (List.replicate ((places (A ++ line ++ R) board).count ((A ++ line).length + 0)) glyph ++
          R') := by
    rw [sown, sowThrough_append, sow_append, hline, hsow]
  refine ⟨_, R', _, hsown, ?_, ?_, hR'.trans hR, ?_⟩
  · intro c hc
    rw [getLast?_sow] at hc
    exact hA c hc
  · rw [strip_sow, hhead]
  · refine countP_le_places fun m _ horigin => ?_
    have hplace : indexAt (A ++ line ++ R) m.origin = (A ++ line).length := by
      rw [of_decide_eq_true horigin, ← hextent, indexAt_extent hreturn]
    rw [hplace]
    exact beq_self_eq_true _

end

/-- The anchors of markers that are to the left of a place go in before the character that is before
the place, wherever this has come to be. -/
theorem exists_sow_behind {v : Text} {d : Char} (h : IsPlace s p head (v ++ [d]) post)
    (hvalid : ∀ m ∈ board.markers, m.origin.IsIn s) {V : Text} (hA : EndsLine A)
    (hhead : strip A = head) (hV : strip V = v) :
    ∃ A' V' R', sown board (A ++ (V ++ d :: R)) = A' ++ (V' ++ d :: R') ∧
      EndsLine A' ∧ strip A' = head ∧ strip V' = v ∧
      count V + board.markers.countP (·.origin.LeftOf p) ≤ count V' := by
  have hwithin : ∀ m ∈ board.markers, decide (m.origin.LeftOf p) = true →
      decide (A.length ≤ indexAt (A ++ (V ++ d :: R)) m.origin ∧
        indexAt (A ++ (V ++ d :: R)) m.origin ≤ A.length + V.length) = true := by
    intro m hm hleft
    obtain ⟨hline, hcharacter⟩ : m.origin.LeftOf p := of_decide_eq_true hleft
    apply decide_eq_true
    constructor
    · refine le_indexAt_of_not_lt ?_ (not_behindReturn_of_endsLine hA _)
      rw [h.extent_eq hA hhead, Position.lt_def]
      dsimp only
      omega
    · obtain ⟨pre, rest, hpre, horigin, -⟩ := exists_prefix_of_isIn (hvalid m hm)
      have hlt : extent pre < extent (head ++ (v ++ [d])) := by
        rw [horigin, h.reaches]
        exact .inr ⟨hline, hcharacter⟩
      obtain ⟨hbegins, hshorter⟩ := prefix_of_extent_lt ⟨rest, hpre.symm⟩ ⟨post, h.text.symm⟩ hlt
      have hstripped : pre <+: strip (A ++ V) := by
        rw [strip_append, hhead, hV]
        rw [← List.append_assoc] at hbegins hshorter
        rw [List.length_append, List.length_singleton] at hshorter
        exact List.prefix_of_prefix_length_le hbegins (List.prefix_append ..) (by omega)
      have hle := indexAt_le_of_prefix hstripped (d :: R)
      rwa [List.append_assoc, List.length_append, horigin] at hle
  have hsown : sown board (A ++ (V ++ d :: R)) =
      sow (fun k => (places (A ++ (V ++ d :: R)) board).count k) A ++
        (sowThrough (fun k => (places (A ++ (V ++ d :: R)) board).count (A.length + k)) V ++
          d :: sowThrough (fun k => (places (A ++ (V ++ d :: R)) board).count
            (A.length + (V.length + (k + 1)))) R) := by
    rw [sown, sowThrough_append, sowThrough_append_cons]
  refine ⟨_, _, _, hsown, ?_, ?_, ?_, ?_⟩
  · intro c hc
    rw [getLast?_sow] at hc
    exact hA c hc
  · rw [strip_sow, hhead]
  · rw [strip_sowThrough, hV]
  · rw [count_sowThrough]
    exact Nat.add_le_add_left (countP_le_places hwithin) _

/-- The anchors that stand right behind a place are its own. -/
theorem isPin_of_leftmost (h : IsPlace s p head line post) (hfree : strip line = line)
    (hA : EndsLine A) (hhead : strip A = head) (hR : strip R = post) {j n : Nat} (hj : j < n) :
    let t := A ++ line ++ (List.replicate n glyph ++ R)
    IsPin t p (Range.behind p j) (t.indexAt (Range.behind p j).start) := by
  intro t
  let before := A ++ line ++ List.replicate j glyph
  let after := List.replicate (n - (j + 1)) glyph ++ R
  have hsplit : t = before ++ glyph :: after := by
    have hcopies : List.replicate n glyph =
        List.replicate j glyph ++ glyph :: List.replicate (n - (j + 1)) glyph := by
      rw [← List.replicate_succ, ← List.replicate_add]
      congr 1
      omega
    simp only [t, before, after, hcopies, List.append_assoc, List.cons_append]
  have hbefore : strip before = head ++ line := by
    rw [strip_append, strip_append, strip_replicate, hhead, hfree, List.append_nil]
  have hafter : strip after = post := by
    rw [strip_append, strip_replicate, hR, List.nil_append]
  have hcolumns : extent (List.replicate j glyph) = ⟨0, j⟩ := by
    have hwidth := utf16Length_eq_add_count (List.replicate j glyph)
    rw [strip_replicate, count_replicate] at hwidth
    rw [extent_of_noFeed (by simp [glyph]), hwidth]
    simp [utf16Length]
  have hextent : extent before = (Range.behind p j).start := by
    rw [extent_append, h.extent_append_line hA hhead, hcolumns]
    simp [Position.add_def, Range.behind]
  have hpin := isPin_of_split before after (by rw [hbefore, h.reaches])
    (by rw [hbefore, hafter]; exact h.nameable)
  rw [← hsplit, hextent] at hpin
  have hrange : (⟨(Range.behind p j).start, (Range.behind p j).start.after glyph⟩ : Range) =
      Range.behind p j := rfl
  rw [hrange] at hpin
  rwa [hpin.start]

/-- With too many anchors before it on the line, what is before a place is longer than what is
before the range. -/
theorem strip_take_ne {v V : Text} {d : Char} (h : IsPlace s p head (v ++ [d]) post)
    (hA : EndsLine A) (hhead : strip A = head) (hV : strip V = v) {j : Nat} (hj : j < count V)
    (hk : extent ((A ++ (V ++ d :: R)).take k) = (Range.behind p j).start) :
    strip ((A ++ (V ++ d :: R)).take k) ≠ s.take (s.indexAt p) := by
  intro hsame
  have hplace : s.take (s.indexAt p) = head ++ (v ++ [d]) := by
    rw [h.indexAt_eq, h.text, List.take_left]
  rw [hplace] at hsame
  have hmore : (strip (A ++ V)).length < (strip ((A ++ (V ++ d :: R)).take k)).length := by
    rw [hsame, strip_append, hhead, hV]
    simp
  have hlonger : (A ++ V).length < ((A ++ (V ++ d :: R)).take k).length :=
    length_lt_of_strip ⟨d :: R, by simp⟩ (List.take_prefix ..) hmore
  have hreach : (A ++ V ++ [d]) <+: (A ++ (V ++ d :: R)).take k := by
    refine List.prefix_of_prefix_length_le ⟨R, by simp⟩ (List.take_prefix ..) ?_
    rw [List.length_append, List.length_singleton]
    exact hlonger
  apply not_extent_lt_of_prefix hreach
  have hfeed : '\n' ∉ V ++ [d] := by
    intro hmem
    rcases List.mem_append.mp hmem with hinV | hd
    · have hinv : '\n' ∈ strip V := List.mem_filter.mpr ⟨hinV, rfl⟩
      rw [hV] at hinv
      exact h.feedless (List.mem_append_left _ hinv)
    · exact h.feedless (List.mem_append_right _ hd)
  have hcolumn : p.character + count V = utf16Length (V ++ [d]) := by
    rw [h.position_eq, utf16Length_concat, utf16Length_concat, utf16Length_eq_add_count V, hV]
    dsimp only
    omega
  rw [hk, List.append_assoc, extent_append, h.extent_eq hA hhead, extent_of_noFeed hfeed,
    ← hcolumn, Position.lt_def]
  right
  simp only [Range.behind, Position.add_def, if_true]
  omega

section
variable (hvalid : ∀ m ∈ board.markers, m.origin.IsIn s) (hfree : ∀ c ∈ s, ¬ isGlyph c)
include hvalid hfree

/-- However often the anchors go in, those of the first place of a line stand right behind it. -/
theorem exists_iterate_leftmost (h : IsPlace s p head line post)
    (hleft : ∀ m ∈ board.markers, ¬ m.origin.LeftOf p) (i : Nat) :
    ∃ A R n, (sown board)^[i + 1] s = A ++ line ++ (List.replicate n glyph ++ R) ∧
      EndsLine A ∧ strip A = head ∧ strip R = post ∧ board.markers.countP (·.origin = p) ≤ n := by
  obtain ⟨hhead, hline, hpost⟩ := h.strip_eq hfree
  induction i with
  | zero =>
    have hsow := exists_sow_leftmost h hvalid hline hleft h.whole hhead hpost
    rwa [← h.text] at hsow
  | succ i ih =>
    obtain ⟨A, R, n, htext, hA, hhead, hR, -⟩ := ih
    rw [Function.iterate_succ_apply', htext]
    refine exists_sow_leftmost h hvalid hline hleft hA hhead ?_
    rw [strip_append, strip_replicate, hR, List.nil_append]

/-- Each time the anchors go in, those to the left of a place come before it once more. -/
theorem exists_iterate_behind {v : Text} {d : Char} (h : IsPlace s p head (v ++ [d]) post)
    (i : Nat) : ∃ A V R, (sown board)^[i] s = A ++ (V ++ d :: R) ∧ EndsLine A ∧ strip A = head ∧
      strip V = v ∧ i * board.markers.countP (·.origin.LeftOf p) ≤ count V := by
  induction i with
  | zero =>
    obtain ⟨hhead, -, -⟩ := h.strip_eq hfree
    have hv : strip v = v := strip_eq_self fun c hc => hfree c (by rw [h.text]; simp [hc])
    refine ⟨head, v, post, ?_, h.whole, hhead, hv, ?_⟩
    · rw [Function.iterate_zero_apply, h.text]
      simp
    · rw [Nat.zero_mul]
      exact Nat.zero_le _
  | succ i ih =>
    obtain ⟨A, V, R, htext, hA, hhead, hV, hcount⟩ := ih
    obtain ⟨A', V', R', hsown, hA', hhead', hV', hmore⟩ :=
      exists_sow_behind h hvalid (R := R) hA hhead hV
    refine ⟨A', V', R', ?_, hA', hhead', hV', ?_⟩
    · rw [Function.iterate_succ_apply', htext, hsown]
    · rw [Nat.succ_mul]
      omega

variable {m : Marker} (hm : m ∈ Board.layOut true board.markers)
include hm

/-- The first time, every marker is over an anchor at its origin. -/
theorem isPin_sown :
    IsPin (sown board s) m.origin m.range ((sown board s).indexAt m.range.start) := by
  obtain ⟨t, hresult, hpins⟩ := exists_result?_insertions "" hfree hvalid
  rw [result?_insertions_eq_sown] at hresult
  rw [Option.some.inj hresult]
  exact isPin_of_mem_layOut hpins hm

/-- With nothing to the left of it, a marker stays over an anchor at its origin. -/
theorem isPin_iterate
    (hleft : ∀ m' ∈ Board.layOut true board.markers, ¬ m'.origin.LeftOf m.origin) (n : Nat) :
    let t := (sown board)^[n + 1] s
    IsPin t m.origin m.range (t.indexAt m.range.start) := by
  have hin : m.origin.IsIn s := (Board.forall_origin_layOut (P := (·.IsIn s))).mpr hvalid m hm
  have hfirst : ∀ m' ∈ board.markers, ¬ m'.origin.LeftOf m.origin :=
    (Board.forall_origin_layOut (P := fun p => ¬ p.LeftOf m.origin)).mp hleft
  obtain ⟨head, line, post, hplace⟩ := exists_isPlace hin
  obtain ⟨j, hj, hrange⟩ := Board.range_of_leftmost hm hfirst
  obtain ⟨A, R, k, htext, hA, hhead, hR, hk⟩ :=
    exists_iterate_leftmost hvalid hfree hplace hfirst n
  obtain ⟨-, hline, -⟩ := hplace.strip_eq hfree
  intro t
  have hpin := isPin_of_leftmost hplace hline hA hhead hR (Nat.lt_of_lt_of_le hj hk)
  rw [← htext, ← hrange] at hpin
  exact hpin

/-- The anchors have gone in more than once. Of the markers at a place with others to the left, one
has a range that does not begin where its origin has come to be. -/
theorem exists_misplaced
    (hleft : ∃ m' ∈ Board.layOut true board.markers, m'.origin.LeftOf m.origin) (n : Nat) :
    ∃ m₁ ∈ Board.layOut true board.markers, m₁.origin = m.origin ∧
      ∀ k, extent (((sown board)^[n + 2] s).take k) = m₁.range.start →
        strip (((sown board)^[n + 2] s).take k) ≠ s.take (s.indexAt m.origin) := by
  obtain ⟨m₀, hm₀, horigin₀⟩ : ∃ m₀ ∈ board.markers, m₀.origin = m.origin :=
    (Board.exists_origin_layOut (P := (· = m.origin))).mp ⟨m, hm, rfl⟩
  obtain ⟨m', hm', hbefore⟩ : ∃ m' ∈ board.markers, m'.origin.LeftOf m.origin :=
    (Board.exists_origin_layOut (P := (·.LeftOf m.origin))).mp hleft
  rw [← horigin₀] at hbefore ⊢
  obtain ⟨head, line, post, hplace⟩ := exists_isPlace (hvalid m₀ hm₀)
  obtain ⟨m₁, hm₁, horigin, j, hj, hrange⟩ := Board.exists_range_of_first hm₀
  -- A place with something to the left is not at the start of its line.
  obtain ⟨v, d, rfl⟩ : ∃ v d, line = v ++ [d] := by
    rcases List.eq_nil_or_concat line with rfl | ⟨v, d, rfl⟩
    · have hcolumn := congrArg Position.character hplace.position_eq
      have hless := hbefore.2
      rw [hcolumn] at hless
      exact absurd hless (Nat.not_lt_zero _)
    · exact ⟨v, d, by simp⟩
  obtain ⟨A, V, R, htext, hA, hhead, hV, hcount⟩ :=
    exists_iterate_behind hvalid hfree hplace (n + 2)
  have hsome : 0 < board.markers.countP (·.origin.LeftOf m₀.origin) :=
    List.countP_pos_iff.mpr ⟨m', hm', decide_eq_true hbefore⟩
  have hmany : j < count V := by
    rw [Nat.add_mul] at hcount
    omega
  refine ⟨m₁, hm₁, horigin, fun k hk => ?_⟩
  rw [htext, hrange] at hk
  rw [htext]
  exact strip_take_ne hplace hA hhead hV hmany hk

end

/-- The anchors that go in depend on the origins only. -/
theorem sown_congr {board' : Board}
    (h : board.markers.map Board.unplaced = board'.markers.map Board.unplaced) :
    sown board = sown board' := by
  funext t
  have hresult := result?_insertions_eq_sown "" board t
  rw [insertions_congr h, result?_insertions_eq_sown] at hresult
  exact (Option.some.inj hresult).symm

end Waymark.Anchor
