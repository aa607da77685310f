import Mathlib.Data.List.Nodup
import Waymark.Proofs.Anchor.Insertion
import Waymark.Proofs.Marker.Layout
import Waymark.Proofs.Text.Resolving

/-! Where anchors come to stand. The text gets them by weaving in inserts, the board gets their
ranges by counting along lines; each range turns out to be over the anchor that went in for it. -/

namespace Waymark.Anchor
open Text
variable {t pre rest out : Text} {p q origin : Position} {r : Range} {line : Option Nat}
  {count k n slot : Nat} {entries : List (Marker × Nat)} {ranges : List (Nat × Range)}

/-- Character `k` of a text is the anchor of a marker with this origin and this range: the range is
over the anchor alone, and without anchors the text before it is what goes before the origin. -/
structure IsPin (t : Text) (origin : Position) (r : Range) (k : Nat) : Prop where
  glyph : t[k]? = some glyph
  range : r = ⟨extent (t.take k), extent (t.take (k + 1))⟩
  start : t.indexAt r.start = k
  stop : t.indexAt r.stop = k + 1
  width : r.stop = ⟨r.start.line, r.start.character + 1⟩
  before : strip (t.take k) = (strip t).take ((strip t).indexAt origin)
  origin : extent (strip (t.take k)) = origin

theorem isPin_of_split (before after : Text) (h : extent (strip before) = origin)
    (hreturn : ¬ BehindReturn (strip before) (strip after)) : IsPin (before ++ glyph :: after)
      origin ⟨extent before, (extent before).after glyph⟩ before.length := by
  have htake : (before ++ glyph :: after).take (before.length + 1) = before ++ [glyph] := by
    rw [List.take_length_add_append, List.take_succ_cons, List.take_zero]
  have hstart : ¬ BehindReturn before (glyph :: after) := by
    rintro ⟨-, hnil | hhead⟩
    · simp at hnil
    · exact absurd (Option.some.inj hhead) (by decide)
  have hstop : ¬ BehindReturn (before ++ [glyph]) after := by
    rintro ⟨hlast, -⟩
    rw [List.getLast?_concat] at hlast
    exact absurd (Option.some.inj hlast) (by decide)
  have hstrip : strip (before ++ glyph :: after) = strip before ++ strip after := by
    rw [strip_append, strip_cons_of_isGlyph (by decide)]
  refine ⟨by simp, ?_, indexAt_extent hstart, ?_, rfl, ?_, ?_⟩
  · rw [htake, List.take_left, extent_concat]
  · have hk := indexAt_extent hstop
    rwa [List.append_assoc, extent_concat, List.length_append] at hk
  · rw [List.take_left, hstrip, ← h, indexAt_extent hreturn, List.take_left]
  · rw [List.take_left, h]

/-- From character `n` on, the anchors of some markers, one behind the other. -/
inductive PinsFrom (t : Text) : (n : Nat) → List (Marker × Nat) → List (Nat × Range) → Prop
  | nil {n : Nat} : PinsFrom t n [] []
  | cons {n k slot : Nat} {m : Marker} {r : Range} {entries : List (Marker × Nat)}
      {ranges : List (Nat × Range)} : n ≤ k → IsPin t m.origin r k →
      PinsFrom t (k + 1) entries ranges →
      PinsFrom t n ((m, slot) :: entries) ((slot, r) :: ranges)

/-- The splice that puts the anchor of a marker in. -/
def pinOf (t : Text) (e : Marker × Nat) : Splice := pin (t.indexAt e.1.origin)

/-- A place that is not before the end of `pre` lies in what follows. -/
theorem exists_split_of_isIn (hp : p.IsIn (pre ++ rest))
    (hk : pre.length ≤ indexAt (pre ++ rest) p) : ∃ mid post, rest = mid ++ post ∧
      extent (pre ++ mid) = p ∧ indexAt (pre ++ rest) p = (pre ++ mid).length ∧
      ¬ BehindReturn (pre ++ mid) post := by
  obtain ⟨before, post, ht, rfl, hreturn⟩ := exists_prefix_of_isIn hp
  rw [ht, indexAt_extent hreturn] at hk ⊢
  obtain ⟨mid, rfl⟩ : pre <+: before :=
    List.prefix_of_prefix_length_le ⟨rest, rfl⟩ ⟨post, ht.symm⟩ hk
  refine ⟨mid, post, ?_, rfl, rfl, hreturn⟩
  simpa using ht

/-- Goes along the text and the sorted markers. What has been read is `pre`, what has been written
is `out`; they differ by anchors, and along the last line by as many columns as the board counts. -/
theorem exists_weave_pins {s : Text} (hs : s = pre ++ rest) (hfree : ∀ c ∈ rest, ¬ isGlyph c)
    (hout : strip out = pre) (hextent : extent out = Board.shifted line count (extent pre))
    (hline : ∀ l ∈ line, l ≤ (extent pre).line)
    (hin : ∀ e ∈ entries, e.1.origin.IsIn s)
    (hfrom : ∀ e ∈ entries, pre.length ≤ s.indexAt e.1.origin)
    (horder : entries.Pairwise fun a b => s.indexAt a.1.origin ≤ s.indexAt b.1.origin) :
    ∃ tail, Splice.weave pre.length rest (entries.map (pinOf s)) = some tail ∧
      strip tail = rest ∧
      PinsFrom (out ++ tail) out.length entries (Board.shiftFrom line count entries) := by
  induction entries generalizing pre rest out line count with
  | nil => exact ⟨rest, rfl, strip_eq_self hfree, .nil⟩
  | cons e entries ih =>
    obtain ⟨m, slot⟩ := e
    obtain ⟨hbehind, horder⟩ := List.pairwise_cons.mp horder
    obtain ⟨mid, post, rfl, horigin, hk, hreturn⟩ :=
      exists_split_of_isIn (hs ▸ hin (m, slot) (by simp)) (hs ▸ hfrom (m, slot) (by simp))
    rw [← hs] at hk
    have hmid : strip mid = mid := strip_eq_self fun c hc => hfree c (by simp [hc])
    have hpost : ∀ c ∈ post, ¬ isGlyph c := fun c hc => hfree c (by simp [hc])
    have hbefore : strip (out ++ mid) = pre ++ mid := by rw [strip_append, hout, hmid]
    have hstart : extent (out ++ mid) = Board.shifted line count m.origin := by
      rw [extent_append, hextent, Board.shifted_add hline, ← extent_append, horigin]
    have hstop : extent (out ++ mid ++ [glyph]) = Board.shifted (some m.origin.line)
        ((if line = some m.origin.line then count else 0) + 1) m.origin := by
      rw [extent_concat, hstart, Board.shifted_self]
      rfl
    have hread : s = pre ++ mid ++ post := by rw [hs, List.append_assoc]
    have hwritten : strip (out ++ mid ++ [glyph]) = pre ++ mid := by
      rw [strip_append, hbefore, strip_glyph, List.append_nil]
    obtain ⟨tail, hweave, htail, hpins⟩ := ih hread hpost hwritten (by rw [hstop, horigin])
      (by simp [horigin]) (fun e he => hin e (by simp [he])) (fun e he => hk ▸ hbehind e he) horder
    have hpin := isPin_of_split (out ++ mid) tail (by rw [hbefore, horigin])
      (by rwa [hbefore, htail])
    rw [hstart] at hpin
    refine ⟨mid ++ glyph :: tail, ?_, ?_, ?_⟩
    · rw [List.map_cons, Splice.weave_cons_eq_some]
      simp only [pinOf, pin, hk, List.length_append, Nat.add_sub_cancel_left, List.take_left,
        List.drop_left]
      exact ⟨Nat.le_add_right .., tail, by simpa using hweave, by simp⟩
    · rw [strip_append, hmid, strip_cons_of_isGlyph (by decide), htail]
    · rw [← List.append_assoc]
      refine .cons (by simp) hpin ?_
      simpa [Nat.add_assoc] using hpins

/-- Laying the markers out anew does not change where their anchors go. -/
theorem insertions_congr {uri : String} {board board' : Board}
    (h : board.markers.map Board.unplaced = board'.markers.map Board.unplaced) :
    insertions uri board = insertions uri board' := by
  have horigin : ∀ board : Board, insertions uri board =
      ⟨uri, (board.markers.map Board.unplaced).map fun m => .insert m.origin [glyph]⟩ := by
    intro board
    rw [insertions, List.map_map]
    rfl
  rw [horigin, horigin, h]

/-- The inserts for a board are made in the order in which the board counts the anchors. -/
theorem sort_pins {s : Text} {board : Board} (hweave : Splice.weave 0 s
      ((Order.sort Board.comesFirst board.markers.zipIdx).map (pinOf s)) = some t) :
    Order.sort Splice.le ((places s board).map pin) =
      (Order.sort Board.comesFirst board.markers.zipIdx).map (pinOf s) := by
  apply Order.sort_eq_of_perm Splice.le_total Splice.le_trans
  · have hplaces : (places s board).map pin = board.markers.zipIdx.map (pinOf s) := by
      calc (places s board).map pin
        _ = (board.markers.zipIdx.map (·.1)).map fun m => pin (s.indexAt m.origin) := by
          rw [List.zipIdx_map_fst, places, List.map_map]
          rfl
        _ = board.markers.zipIdx.map (pinOf s) := by
          rw [List.map_map]
          rfl
    rw [hplaces]
    exact Order.sort_perm.map _
  · exact (Splice.pairwise_of_weave hweave).2
  · intro a ha b hb hab hba
    obtain ⟨e, -, rfl⟩ := List.mem_map.mp ha
    obtain ⟨e', -, rfl⟩ := List.mem_map.mp hb
    simp only [Splice.le_iff, pinOf, pin] at hab hba
    have hk : s.indexAt e.1.origin = s.indexAt e'.1.origin := by omega
    simp only [pinOf, hk]

/-- Into a text without anchors, the anchors of a board go where its ranges will be. -/
theorem exists_result?_insertions {s : Text} {board : Board} (uri : String)
    (hfree : ∀ c ∈ s, ¬ isGlyph c) (hin : ∀ m ∈ board.markers, m.origin.IsIn s) :
    ∃ t, (insertions uri board).result? s = some t ∧
      PinsFrom t 0 (Order.sort Board.comesFirst board.markers.zipIdx)
        (Board.anchorRanges board.markers) := by
  have hentries : ∀ e ∈ Order.sort Board.comesFirst board.markers.zipIdx, e.1.origin.IsIn s := by
    intro e he
    exact hin e.1 (List.mem_of_getElem? (List.mk_mem_zipIdx_iff_getElem?.mp (Order.mem_sort.mp he)))
  have horder : (Order.sort Board.comesFirst board.markers.zipIdx).Pairwise
      fun a b => s.indexAt a.1.origin ≤ s.indexAt b.1.origin := by
    refine (Order.pairwise_sort Board.comesFirst_total Board.comesFirst_trans).imp ?_
    intro a b hab
    apply indexAt_mono
    rcases Board.comesFirst_iff.mp hab with hlt | ⟨heq, -⟩
    · exact fun hgt => Position.lt_irrefl (Position.lt_trans hlt hgt)
    · rw [heq]
      exact Position.lt_irrefl
  have hstart : extent [] = Board.shifted none 0 (extent []) := rfl
  obtain ⟨t, hweave, -, hpins⟩ := exists_weave_pins (show s = [] ++ s from rfl) hfree rfl hstart
    (by simp) hentries (by simp) horder
  refine ⟨t, ?_, hpins⟩
  rw [result?_insertions, sort_pins hweave]
  exact hweave

theorem exists_isPin_of_mem (h : PinsFrom t n entries ranges) (hr : (slot, r) ∈ ranges) :
    ∃ m, (m, slot) ∈ entries ∧ n ≤ t.indexAt r.start ∧
      IsPin t m.origin r (t.indexAt r.start) := by
  induction h with
  | nil => simp at hr
  | @cons n k slot' m r' entries ranges hk hpin _ ih =>
    rcases List.mem_cons.mp hr with heq | hr
    · obtain ⟨rfl, rfl⟩ := Prod.mk.inj heq
      rw [hpin.start]
      exact ⟨m, by simp, hk, hpin⟩
    · obtain ⟨m, hm, hle, hpin⟩ := ih hr
      exact ⟨m, by simp [hm], by omega, hpin⟩

/-- Ranges that are counted one behind the other start at different characters. -/
theorem pairwise_of_pinsFrom (h : PinsFrom t n entries ranges) :
    ranges.Pairwise fun a b => t.indexAt a.2.start < t.indexAt b.2.start := by
  induction h with
  | nil => exact .nil
  | cons hk hpin htail ih =>
    refine List.pairwise_cons.mpr ⟨?_, ih⟩
    rintro ⟨slot, r⟩ hr
    obtain ⟨m, -, hle, -⟩ := exists_isPin_of_mem htail hr
    rw [hpin.start]
    exact hle

section
variable {ms : List Marker} (h : PinsFrom t 0 (Order.sort Board.comesFirst ms.zipIdx)
  (Board.anchorRanges ms))
include h

theorem isPin_of_mem_layOut {m : Marker} (hm : m ∈ Board.layOut true ms) :
    IsPin t m.origin m.range (t.indexAt m.range.start) := by
  obtain ⟨i, hi⟩ := List.mem_iff_getElem?.mp hm
  obtain ⟨m', hm', hr, horigin⟩ := Board.exists_of_getElem?_layOut hi
  obtain ⟨m'', hm'', -, hpin⟩ := exists_isPin_of_mem h hr
  have hsame : ms[i]? = some m'' := List.mk_mem_zipIdx_iff_getElem?.mp (Order.mem_sort.mp hm'')
  rw [hm', Option.some.injEq] at hsame
  rwa [horigin, hsame]

/-- Different places on the board have different anchors. -/
theorem nodup_layOut : ((Board.layOut true ms).map fun m => t.indexAt m.range.start).Nodup := by
  have hnodup : ((Board.anchorRanges ms).map fun a => t.indexAt a.2.start).Nodup :=
    List.pairwise_map.mpr ((pairwise_of_pinsFrom h).imp Nat.ne_of_lt)
  refine List.pairwise_map.mpr (List.pairwise_iff_getElem.mpr ?_)
  intro i j hi hj hij heq
  obtain ⟨-, -, hr, -⟩ := Board.exists_of_getElem?_layOut (List.getElem?_eq_getElem hi)
  obtain ⟨-, -, hr', -⟩ := Board.exists_of_getElem?_layOut (List.getElem?_eq_getElem hj)
  have hsame := congrArg Prod.fst (List.inj_on_of_nodup_map hnodup hr hr' heq)
  exact Nat.ne_of_lt hij hsame

end

end Waymark.Anchor
