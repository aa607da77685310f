import Waymark.Proofs.Anchor.Runs

/-! Putting anchors in. The batch for a board adds one glyph for each marker and leaves the rest
of the text as it is, wherever the markers are. -/

namespace Waymark.Anchor
variable {t u : Text} {n : Nat} {uri : String} {board : Board}

/-- The splice that puts one anchor in. -/
def pin (n : Nat) : Splice := ⟨n, n, [glyph], Nat.le_refl n⟩

/-- Where the anchors of a board go in a text. -/
def places (t : Text) (board : Board) : List Nat := board.markers.map fun m => t.indexAt m.origin

theorem result?_insertions : (insertions uri board).result? t =
    Splice.weave 0 t (Order.sort Splice.le ((places t board).map pin)) := by
  simp [EditBatch.result?, insertions, TextEdit.splice, places, pin, Function.comp_def]

theorem exists_pin_of_mem {s : Splice} {ns : List Nat}
    (h : s ∈ Order.sort Splice.le (ns.map pin)) : ∃ n, s = pin n := by
  obtain ⟨n, -, rfl⟩ := List.mem_map.mp (Order.mem_sort.mp h)
  exact ⟨n, rfl⟩

/-- Without the anchors, the text is the one it was. -/
theorem strip_of_insertions (h : (insertions uri board).result? t = some u) :
    strip u = strip t := by
  rw [result?_insertions] at h
  apply Splice.filter_weave h
  intro s hs
  obtain ⟨n, rfl⟩ := exists_pin_of_mem hs
  exact ⟨rfl, strip_glyph⟩

theorem flatMap_text_pins {ss : List Splice} (h : ∀ s ∈ ss, ∃ n, s = pin n) :
    ss.flatMap (·.text) = List.replicate ss.length glyph := by
  induction ss with
  | nil => rfl
  | cons s ss ih =>
    obtain ⟨n, rfl⟩ := h s (by simp)
    rw [List.flatMap_cons, ih (fun a ha => h a (by simp [ha]))]
    rfl

/-- One glyph comes in for each marker. -/
theorem perm_of_insertions (h : (insertions uri board).result? t = some u) :
    u.Perm (List.replicate board.size glyph ++ t) := by
  rw [result?_insertions] at h
  have hperm := Splice.weave_perm h (by
    intro s hs
    obtain ⟨n, rfl⟩ := exists_pin_of_mem hs
    rfl)
  rw [flatMap_text_pins (fun s hs => exists_pin_of_mem hs)] at hperm
  simpa [Board.size, places] using hperm

theorem glyph_mem_of_insertions (h : (insertions uri board).result? t = some u)
    (hb : board.isEmpty = false) : glyph ∈ u := by
  rw [(perm_of_insertions h).mem_iff, List.mem_append, List.mem_replicate]
  left
  exact ⟨by simpa [Board.size, Board.isEmpty] using hb, rfl⟩

/-- Into a text without anchors come as many as there are markers, all of the one kind. -/
theorem count_of_insertions (h : (insertions uri board).result? t = some u)
    (hfree : ∀ c ∈ t, ¬ isGlyph c) :
    u.count glyph = board.size ∧ ∀ c ∈ u, isGlyph c → c = glyph := by
  have hperm := perm_of_insertions h
  have hcount : t.count glyph = 0 :=
    List.count_eq_zero.mpr fun hmem => hfree glyph hmem (by decide)
  constructor
  · rw [hperm.count_eq, List.count_append, List.count_replicate_self, hcount, Nat.add_zero]
  · intro c hc hglyph
    rcases List.mem_append.mp (hperm.mem_iff.mp hc) with hnew | hold
    · exact (List.mem_replicate.mp hnew).2
    · exact absurd hglyph (hfree c hold)

end Waymark.Anchor
