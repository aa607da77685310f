import Waymark.Proofs.Anchor.Pins
import Waymark.Proofs.Anchor.Saving
import Waymark.Proofs.Session.Anchoring

/-! Showing the states of a run: old anchors go, new ones come, and every marker is over its own. -/

namespace Waymark

namespace Session
variable {ε : Type} [Editor ε] {s : Session} {e : ε} {o : Anchor.Outcome}

theorem removeMarkers_of_idle (own : Editor.uri e = s.uri) (idle : s.guard = .idle) :
    s.removeMarkers e = ⟨(Anchor.delete s.board e).outcome,
      { s with board := (Anchor.delete s.board e).board }, (Anchor.delete s.board e).editor⟩ :=
  attempt_of_idle own idle

/-- Showing the states succeeds only if the old anchors could be taken out. -/
theorem delete_of_showStates_ok (own : Editor.uri e = s.uri) (h : (s.showStates e).outcome = .ok o)
    (ho : o ≠ .busy) : s.guard = .idle ∧ ∃ o', (Anchor.delete s.board e).outcome = .ok o' := by
  have idle : s.guard = .idle := by
    cases hholder : s.guard.holder with
    | none => rw [Anchor.Guard.idle, ← hholder]
    | some op =>
      have hbusy := perform_of_isBusy own (by simp [Anchor.Guard.isBusy, hholder]) .showStates
      rw [perform] at hbusy
      rw [hbusy] at h
      exact absurd (Except.ok.inj h).symm ho
  refine ⟨idle, ?_⟩
  cases hdelete : (Anchor.delete s.board e).outcome with
  | ok o' => exact ⟨o', rfl⟩
  | error error =>
    rw [showStates, removeMarkers_of_idle own idle, hdelete] at h
    cases h

variable [LawfulEditor ε]

/-- Once the old anchors are out, showing the states comes down to putting the new ones in. -/
theorem showStates_of_delete_ok (own : Editor.uri e = s.uri) (idle : s.guard = .idle)
    (h : (Anchor.delete s.board e).outcome = .ok o) :
    let a := Anchor.insert (Anchor.delete s.board e).board (Anchor.delete s.board e).editor
    s.showStates e =
      ⟨a.outcome, { s with board := a.board, shown := s.shown || a.outcome.isOk }, a.editor⟩ := by
  intro a
  let removed : Session := { s with board := (Anchor.delete s.board e).board }
  have hremove : s.removeMarkers e = ⟨.ok o, removed, (Anchor.delete s.board e).editor⟩ := by
    rw [removeMarkers_of_idle own idle, h]
  have hadd : removed.addMarkers (Anchor.delete s.board e).editor =
      ⟨a.outcome, { s with board := a.board }, a.editor⟩ :=
    attempt_of_idle (s := removed) (Anchor.uri_delete.trans own) idle
  have hbusy : o ≠ .busy := (Anchor.delete_of_ok h).1
  simp only [showStates, hremove]
  cases o with
  | busy => exact absurd rfl hbusy
  | applied | unchanged =>
    simp only [hadd]
    cases a.outcome <;> simp [Except.isOk, Except.toBool]

/-- What showing the states leaves behind when it succeeds. -/
theorem showStates_of_ok (own : Editor.uri e = s.uri) (hb : s.board.isEmpty = false)
    (h : (s.showStates e).outcome = .ok o) (ho : o ≠ .busy) :
    s.guard = .idle ∧ o = .applied s.board.size ∧ Editor.uri (s.showStates e).editor = s.uri ∧
    (s.showStates e).session =
      { s with board := ⟨Board.layOut true s.board.markers, true⟩, shown := true } ∧
    (Anchor.insertions s.uri s.board).result? (Anchor.strip (Editor.text e)) =
      some (Editor.text (s.showStates e).editor) := by
  obtain ⟨idle, o', hdelete⟩ := delete_of_showStates_ok own h ho
  obtain ⟨-, hboard, htext⟩ := Anchor.delete_of_ok hdelete
  have hb' : (Anchor.delete s.board e).board.isEmpty = false := by
    rwa [hboard, Board.isEmpty_setAnchored]
  rw [showStates_of_delete_ok own idle hdelete] at h ⊢
  obtain ⟨rfl, hinsert, hresult⟩ := Anchor.insert_of_ok hb' h
  have huri : Editor.uri (Anchor.delete s.board e).editor = s.uri := Anchor.uri_delete.trans own
  refine ⟨idle, ?_, Anchor.uri_insert.trans huri, ?_, ?_⟩
  · rw [hboard, Board.size_setAnchored]
  · have hlaid : (Anchor.delete s.board e).board.setAnchored true =
        ⟨Board.layOut true s.board.markers, true⟩ := by
      rw [hboard, Board.setAnchored_false_true]
    dsimp only at h
    simp [h, hinsert.trans hlaid, Except.isOk, Except.toBool]
  · rw [← hresult, huri, htext, hboard]
    congr 1
    exact Anchor.insertions_congr (Board.map_unplaced_setAnchored false).symm

section
variable {b : Buffer} {t : Text}

theorem savable_showStates (own : b.document.uri = s.uri) (hb : s.board.isEmpty = false)
    (h : (s.showStates b).outcome = .ok o) (ho : o ≠ .busy) : (s.showStates b).editor.Savable := by
  obtain ⟨idle, o', hdelete⟩ := delete_of_showStates_ok own h ho
  rw [showStates_of_delete_ok own idle hdelete] at h ⊢
  refine Anchor.savable_insert ?_ h
  rwa [(Anchor.delete_of_ok hdelete).2.1, Board.isEmpty_setAnchored]

/-- Nothing but saving can keep the states from being shown. -/
theorem showStates_of_savable (own : b.document.uri = s.uri) (idle : s.guard = .idle)
    (hb : s.board.isEmpty = false) (savable : b.Savable)
    (hresult : (Anchor.insertions s.uri s.board).result? (Anchor.strip (Editor.text b)) = some t) :
    (s.showStates b).outcome = .ok (.applied s.board.size) := by
  obtain ⟨⟨o, hdelete⟩, hsavable⟩ := Anchor.delete_of_savable s.board savable
  obtain ⟨-, hboard, htext⟩ := Anchor.delete_of_ok hdelete
  have hsame : Anchor.insertions s.uri (s.board.setAnchored false) =
      Anchor.insertions s.uri s.board :=
    Anchor.insertions_congr (Board.map_unplaced_setAnchored false)
  have huri : Editor.uri (Anchor.delete s.board b).editor = s.uri := Anchor.uri_delete.trans own
  rw [showStates_of_delete_ok own idle hdelete, hboard, Anchor.insert_of_not_isEmpty
    (by rwa [Board.isEmpty_setAnchored]), huri, hsame]
  rw [← htext] at hresult
  have hedit := Anchor.edit_of_savable .add (s.board.setAnchored false) hsavable huri.symm hresult
  simpa [EditBatch.size, Anchor.insertions, Board.size] using hedit.1

/-- Showing the states once more finds the same places for the anchors. -/
theorem showStates_again (own : b.document.uri = s.uri) (hb : s.board.isEmpty = false)
    (h : (s.showStates b).outcome = .ok o) (ho : o ≠ .busy) :
    let again := (s.showStates b).session.showStates (s.showStates b).editor
    again.outcome = .ok o ∧ again.editor.document.text = (s.showStates b).editor.document.text ∧
      again.session = (s.showStates b).session := by
  have savable := savable_showStates own hb h ho
  obtain ⟨idle, rfl, own', hsession, htext⟩ := showStates_of_ok own hb h ho
  let shown : Session :=
    { s with board := ⟨Board.layOut true s.board.markers, true⟩, shown := true }
  have hb' : shown.board.isEmpty = false := by simpa [shown, Board.isEmpty] using hb
  have hsize : shown.board.size = s.board.size := by simp [shown, Board.size]
  have hplaces : (Anchor.insertions shown.uri shown.board).result?
      (Anchor.strip (Editor.text (s.showStates b).editor)) =
      some (Editor.text (s.showStates b).editor) := by
    rw [Anchor.strip_of_insertions htext, Anchor.strip_strip, ← htext,
      Anchor.insertions_congr (Board.map_unplaced_layOut true)]
  have hagain : (shown.showStates (s.showStates b).editor).outcome =
      .ok (.applied shown.board.size) :=
    showStates_of_savable own' idle hb' savable hplaces
  obtain ⟨-, -, -, hsession', htext'⟩ := showStates_of_ok (s := shown) own' hb' hagain (by simp)
  simp only [hsession]
  refine ⟨hsize ▸ hagain, Option.some.inj (htext'.symm.trans hplaces), ?_⟩
  rw [hsession']
  simp only [shown, Board.layOut_true_layOut]

/-- When the states are shown, each marker is over one anchor of its own, and without the anchors
the text before that is what goes before the marker's origin. Nothing else has come into the text.
Showing them again changes neither text nor markers. -/
theorem showStates_pins (s : Session) (b : Buffer) (own : b.document.uri = s.uri)
    (nonempty : s.board.isEmpty = false)
    (valid : ∀ m ∈ s.board.markers, m.origin.IsIn (Anchor.strip b.document.text)) :
    let after := s.showStates b
    let t := after.editor.document.text
    let ms := after.session.board.markers
    let again := after.session.showStates after.editor
    (s.guard = .idle → b.Savable → after.outcome = .ok (.applied s.board.size)) ∧
    ∀ o, after.outcome = .ok o → o ≠ .busy →
      Anchor.strip t = Anchor.strip b.document.text ∧
      t.count Anchor.glyph = s.board.size ∧ (∀ c ∈ t, Anchor.isGlyph c → c = Anchor.glyph) ∧
      ms.map Board.unplaced = s.board.markers.map Board.unplaced ∧
      after.session = { s with board := ⟨ms, true⟩, shown := true } ∧
      (∀ m ∈ ms, Anchor.IsPin t m.origin m.range (t.indexAt m.range.start)) ∧
      (ms.map fun m => t.indexAt m.range.start).Nodup ∧
      again.outcome = .ok o ∧ again.editor.document.text = t ∧ again.session = after.session := by
  intro after t ms again
  have hfree : ∀ c ∈ Anchor.strip b.document.text, ¬ Anchor.isGlyph c :=
    fun _ => Anchor.not_isGlyph_of_mem_strip
  obtain ⟨u, hresult, hpins⟩ := Anchor.exists_result?_insertions s.uri hfree valid
  refine ⟨fun idle savable => showStates_of_savable own idle nonempty savable hresult, ?_⟩
  intro o h ho
  obtain ⟨idle, rfl, huri, hsession, htext⟩ := showStates_of_ok own nonempty h ho
  obtain rfl : u = t := Option.some.inj (hresult.symm.trans htext)
  have hms : ms = Board.layOut true s.board.markers := by
    simp only [ms, after, hsession]
  have hstrip : Anchor.strip t = Anchor.strip b.document.text :=
    (Anchor.strip_of_insertions hresult).trans Anchor.strip_strip
  obtain ⟨hcount, honly⟩ := Anchor.count_of_insertions hresult hfree
  refine ⟨hstrip, hcount, honly, ?_, ?_, ?_, ?_, ?_⟩
  · rw [hms, Board.map_unplaced_layOut]
  · rw [hsession, hms]
  · rw [hms]
    exact fun m => Anchor.isPin_of_mem_layOut hpins
  · rw [hms]
    exact Anchor.nodup_layOut hpins
  · exact showStates_again own nonempty h ho

/-- A text with stale anchors of both kinds, a surrogate pair and a line that ends in a return, in a
file of its own. -/
def staleBuffer : Buffer where
  document := ⟨"d", some ⟨[47, 102]⟩,
    ['a', Anchor.glyph, '😀', '\r', '\n', Anchor.legacyGlyph, 'b'], 0⟩
  disk := ⟨⟨[([[102]], .file [] false)]⟩, []⟩

/-- A session with two markers at one place and one before them that is behind the pair. -/
def crowdedMarkers : Session :=
  { ofUri "d" with
    board := .ofMarkers [.plain 0 ⟨0, 3⟩, .plain 1 ⟨0, 1⟩, .plain 2 ⟨0, 1⟩, .plain 3 ⟨1, 1⟩] }

theorem showStates_pins_of_stale :
    let after := crowdedMarkers.showStates staleBuffer
    let t := after.editor.document.text
    after.outcome = .ok (.applied 4) ∧
    t = ['a', Anchor.glyph, Anchor.glyph, '😀', Anchor.glyph, '\r', '\n', 'b', Anchor.glyph] ∧
    after.session.board.markers.map (·.range) = [⟨⟨0, 5⟩, ⟨0, 6⟩⟩, ⟨⟨0, 1⟩, ⟨0, 2⟩⟩,
      ⟨⟨0, 2⟩, ⟨0, 3⟩⟩, ⟨⟨1, 1⟩, ⟨1, 2⟩⟩] ∧
    (∀ m ∈ after.session.board.markers,
      Anchor.IsPin t m.origin m.range (t.indexAt m.range.start)) ∧
    (after.session.showStates after.editor).editor.document.text = t := by
  intro after t
  have savable : staleBuffer.Savable := by
    intro p hp contents
    obtain rfl := Option.some.inj hp
    exact ⟨_, rfl⟩
  obtain ⟨hsucceeds, hpins⟩ := showStates_pins crowdedMarkers staleBuffer rfl rfl (by decide)
  have houtcome : after.outcome = .ok (.applied 4) := hsucceeds rfl savable
  obtain ⟨-, -, -, -, -, hpin, -⟩ := hpins (.applied 4) houtcome (by simp)
  exact ⟨houtcome, by decide, by decide, hpin, by decide⟩

end

end Session

end Waymark
