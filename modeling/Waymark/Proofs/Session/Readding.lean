import Waymark.Proofs.Anchor.Drifting
import Waymark.Proofs.Anchor.Saving
import Waymark.Proofs.Session.Anchoring

/-! Adding the markers again while they are in. Each time the anchors go in anew at the origins,
which do not count the anchors that are there, and the ranges stay as they were. -/

namespace Waymark

namespace Anchor
variable {ε : Type} [Editor ε] [LawfulEditor ε] {board : Board} {e : ε} {o : Outcome}

theorem insert_of_ok_sown (h : (insert board e).outcome = .ok o) :
    Editor.text (insert board e).editor = sown board (Editor.text e) ∧
    (insert board e).board = if board.isEmpty then board else board.setAnchored true := by
  cases hb : board.isEmpty with
  | true =>
    rw [insert_of_isEmpty hb, sown_of_isEmpty hb]
    exact ⟨rfl, rfl⟩
  | false =>
    obtain ⟨-, hboard, hresult⟩ := insert_of_ok hb h
    rw [result?_insertions_eq_sown] at hresult
    exact ⟨(Option.some.inj hresult).symm, hboard⟩

/-- Nothing but saving can keep anchors from being put in. -/
theorem insert_of_savable {b : Buffer} (board : Board) (h : b.Savable) :
    ∃ o, (insert board b).outcome = .ok o ∧ o ≠ .busy ∧ (insert board b).editor.Savable := by
  cases hb : board.isEmpty with
  | true =>
    rw [insert_of_isEmpty hb]
    exact ⟨.unchanged, rfl, by simp, h⟩
  | false =>
    rw [insert_of_not_isEmpty hb]
    obtain ⟨houtcome, hsavable⟩ :=
      edit_of_savable .add board h rfl (result?_insertions_eq_sown (Editor.uri b) board _)
    exact ⟨_, houtcome, by simp, hsavable⟩

end Anchor

namespace Session
variable {ε : Type} [Editor ε] {s s' : Session} {e e' : ε} {o : Anchor.Outcome} {n : Nat}

/-- Adding the markers so many times has succeeded each time, with nothing in between. -/
inductive Added (s : Session) (e : ε) : Nat → Session → ε → Prop
  | none : Added s e 0 s e
  | again {n : Nat} {s' : Session} {e' : ε} {o : Anchor.Outcome} : Added s e n s' e' →
      (s'.addMarkers e').outcome = .ok o → o ≠ .busy →
      Added s e (n + 1) (s'.addMarkers e').session (s'.addMarkers e').editor

/-- Markers are added by putting their anchors in, or not at all. -/
theorem addMarkers_of_ok (h : (s.addMarkers e).outcome = .ok o) (ho : o ≠ .busy) :
    (Anchor.insert s.board e).outcome = .ok o ∧ s.addMarkers e = ⟨.ok o,
      { s with board := (Anchor.insert s.board e).board }, (Anchor.insert s.board e).editor⟩ := by
  by_cases own : Editor.uri e = s.uri
  · by_cases busy : s.guard.isBusy = true
    · rw [addMarkers, attempt_of_isBusy .add own busy] at h
      exact absurd (Except.ok.inj h).symm ho
    · have idle : s.guard = .idle := by
        cases hholder : s.guard.holder with
        | none => rw [Anchor.Guard.idle, ← hholder]
        | some op => exact absurd (by simp [Anchor.Guard.isBusy, hholder]) busy
      have hadd : s.addMarkers e = ⟨(Anchor.insert s.board e).outcome,
          { s with board := (Anchor.insert s.board e).board },
          (Anchor.insert s.board e).editor⟩ := attempt_of_idle own idle
      rw [hadd] at h ⊢
      dsimp only at h
      rw [h]
      exact ⟨rfl, rfl⟩
  · rw [addMarkers, attempt, if_neg own] at h
    cases h

variable [LawfulEditor ε]

/-- Every time, the anchors are put in as they are for the board of the start. -/
theorem Added.text_board (h : Added s e n s' e') (unanchored : s.board.anchored = false) :
    Editor.text e' = (Anchor.sown s.board)^[n] (Editor.text e) ∧
    s'.board = s.board.setAnchored (decide (0 < n) && !s.board.isEmpty) := by
  induction h with
  | none => exact ⟨rfl, (Board.setAnchored_eq_self unanchored).symm⟩
  | @again n s' e' o _ hok ho ih =>
    obtain ⟨htext, hboard⟩ := ih
    obtain ⟨hinsert, hadd⟩ := addMarkers_of_ok hok ho
    obtain ⟨hsown, hafter⟩ := Anchor.insert_of_ok_sown hinsert
    have hsame : Anchor.sown s'.board = Anchor.sown s.board := by
      apply Anchor.sown_congr
      rw [hboard, Board.map_unplaced_setAnchored]
    rw [hadd]
    constructor
    · rw [hsown, hsame, htext, Function.iterate_succ_apply']
    · dsimp only
      rw [hafter, hboard, Board.isEmpty_setAnchored]
      cases hempty : s.board.isEmpty with
      | true => simp
      | false =>
        cases n with
        | zero => simp [Board.setAnchored_eq_self unanchored]
        | succ n => simp [Board.setAnchored_eq_self Board.anchored_setAnchored]

/-- Once added, the markers have the ranges over the anchors that went in first. -/
theorem Added.markers (h : Added s e (n + 1) s' e') (unanchored : s.board.anchored = false) :
    s'.board.markers = Board.layOut true s.board.markers := by
  rw [(h.text_board unanchored).2]
  cases hempty : s.board.isEmpty with
  | true =>
    have hnone : s.board.markers = [] := List.isEmpty_iff.mp hempty
    simp [Board.setAnchored, unanchored, hnone, Board.layOut]
  | false => simp [Board.setAnchored, unanchored]

/-- In a document that can be saved the markers can be added as often as one likes. -/
theorem exists_added {b : Buffer} (own : b.document.uri = s.uri) (idle : s.guard = .idle)
    (savable : b.Savable) (n : Nat) : ∃ s' b', Added s b n s' b' ∧ Editor.uri b' = s'.uri ∧
      s'.guard = .idle ∧ b'.Savable := by
  induction n with
  | zero => exact ⟨s, b, .none, own, idle, savable⟩
  | succ n ih =>
    obtain ⟨s', b', hadded, own', idle', savable'⟩ := ih
    obtain ⟨o, houtcome, ho, hsavable⟩ := Anchor.insert_of_savable s'.board savable'
    have hadd : s'.addMarkers b' = ⟨(Anchor.insert s'.board b').outcome,
        { s' with board := (Anchor.insert s'.board b').board },
        (Anchor.insert s'.board b').editor⟩ := attempt_of_idle own' idle'
    refine ⟨_, _, .again hadded (by rw [hadd]; exact houtcome) ho, ?_, ?_, ?_⟩
    · rw [hadd]
      exact Anchor.uri_insert.trans own'
    · rw [hadd]
      exact idle'
    · rw [hadd]
      exact hsavable

/-- The markers of a run can be added to its document time and again, if it can be saved. However
often they are added, only anchors come into the text, and the ranges stay those of the first time.
They are right the first time, and for the markers that are first on their lines they always are.
But from the second time on, of the markers at any other place one has a range that does not begin
where its origin has come to be. -/
theorem added_markers_placed (s₀ s : Session) (b : Buffer) (snapshot : Snapshot) (n : Nat)
    (stored : s₀.storeSnapshot snapshot = .ok s) (own : b.document.uri = s.uri)
    (glyphFree : ∀ c ∈ b.document.text, ¬ Anchor.isGlyph c)
    (valid : ∀ m ∈ snapshot.markers, m.origin.IsIn b.document.text) :
    (s.guard = .idle → b.Savable → ∃ s' b', Added s b (n + 1) s' b') ∧
    ∀ s' b', Added s b (n + 1) s' b' →
      let original := b.document.text
      let t := b'.document.text
      let ms := s'.board.markers
      Anchor.strip t = original ∧ t.count Anchor.glyph = (n + 1) * s.board.size ∧
      (∀ c ∈ t, Anchor.isGlyph c → c = Anchor.glyph) ∧
      ms = Board.layOut true s.board.markers ∧
      (∀ m ∈ ms, n = 0 ∨ (∀ m' ∈ ms, ¬ m'.origin.LeftOf m.origin) →
        Anchor.IsPin t m.origin m.range (t.indexAt m.range.start)) ∧
      (n ≠ 0 → ∀ m ∈ ms, (∃ m' ∈ ms, m'.origin.LeftOf m.origin) →
        ∃ m₁ ∈ ms, m₁.origin = m.origin ∧ ∀ k, Text.extent (t.take k) = m₁.range.start →
          Anchor.strip (t.take k) ≠ original.take (original.indexAt m.origin)) := by
  constructor
  · intro idle savable
    obtain ⟨s', b', hadded, -⟩ := exists_added own idle savable (n + 1)
    exact ⟨s', b', hadded⟩
  intro s' b' added original t ms
  have hboard : s.board = .ofMarkers snapshot.markers := by
    unfold storeSnapshot at stored
    split at stored
    · rw [← Except.ok.inj stored]
    · cases stored
  have unanchored : s.board.anchored = false := by rw [hboard]; rfl
  have hvalid : ∀ m ∈ s.board.markers, m.origin.IsIn original := by
    have hlaid : s.board.markers = Board.layOut false snapshot.markers := by rw [hboard]; rfl
    rw [hlaid]
    exact (Board.forall_origin_layOut (P := (·.IsIn original))).mpr valid
  have htext : t = (Anchor.sown s.board)^[n + 1] original := (added.text_board unanchored).1
  have hms : ms = Board.layOut true s.board.markers := added.markers unanchored
  obtain ⟨hstrip, hcount, honly⟩ := Anchor.iterate_sown s.board glyphFree (n + 1)
  rw [← htext] at hstrip hcount honly
  refine ⟨hstrip, hcount, honly, hms, ?_, ?_⟩
  · rw [hms, htext]
    rintro m hm (rfl | hleft)
    · exact Anchor.isPin_sown hvalid glyphFree hm
    · exact Anchor.isPin_iterate hvalid glyphFree hm hleft n
  · intro hn m hm hleft
    obtain ⟨k, rfl⟩ := Nat.exists_eq_succ_of_ne_zero hn
    rw [hms] at hm hleft ⊢
    rw [htext]
    exact Anchor.exists_misplaced hvalid glyphFree hm hleft k

/-- A run with a marker behind a surrogate pair and two of different states at the end of the line
that follows. -/
def pairSnapshot : Snapshot :=
  ⟨"d", [], [.plain 0 ⟨0, 2⟩, .plain 1 ⟨1, 1⟩, .plain 2 ⟨1, 1⟩], none, none⟩

/-- The document of that run, in no file. -/
def pairBuffer : Buffer := ⟨.ofText "d" ['😀', '\r', '\n', 'b'], ⟨⟨[]⟩, []⟩⟩

/-- Where each marker is first on its line, all of them are in place after the second time too. -/
theorem added_markers_placed_of_pair :
    let s := { ofUri "d" with board := .ofMarkers pairSnapshot.markers }
    let once := s.addMarkers pairBuffer
    let twice := once.session.addMarkers once.editor
    let t := Editor.text twice.editor
    t = ['😀', Anchor.glyph, Anchor.glyph, '\r', '\n', 'b', Anchor.glyph, Anchor.glyph,
      Anchor.glyph, Anchor.glyph] ∧
    ∀ m ∈ twice.session.board.markers,
      Anchor.IsPin t m.origin m.range (t.indexAt m.range.start) := by
  intro s once twice t
  have added : Added s pairBuffer (1 + 1) twice.session twice.editor :=
    .again (.again .none (o := .applied 3) rfl (by simp)) (o := .applied 3) rfl (by simp)
  obtain ⟨-, hall⟩ := added_markers_placed (ofUri "d") s pairBuffer pairSnapshot 1 rfl rfl
    (Anchor.runs_eq_nil_iff.mp rfl) (by decide)
  obtain ⟨-, -, -, -, hpin, -⟩ := hall twice.session twice.editor added
  exact ⟨by decide, fun m hm => hpin m hm (.inr (by revert m; decide))⟩

/-- The second time, the anchor of a line's second place goes in before its first character. The
range of that place's marker then has nothing but anchors before it. -/
theorem second_addition_misplaces :
    let s := { ofUri "d" with board := .ofMarkers [.plain 0 ⟨0, 0⟩, .plain 1 ⟨0, 1⟩] }
    let once := s.addMarkers (⟨.ofText "d" ['a', 'b'], ⟨⟨[]⟩, []⟩⟩ : Buffer)
    let twice := once.session.addMarkers once.editor
    let t := Editor.text twice.editor
    once.outcome = .ok (.applied 2) ∧ twice.outcome = .ok (.applied 2) ∧
    t = [Anchor.glyph, Anchor.glyph, Anchor.glyph, 'a', Anchor.glyph, 'b'] ∧
    twice.session.board.markers.map (·.range) = [⟨⟨0, 0⟩, ⟨0, 1⟩⟩, ⟨⟨0, 2⟩, ⟨0, 3⟩⟩] ∧
    Anchor.strip (t.take (t.indexAt ⟨0, 2⟩)) = [] ∧
    ['a', 'b'].take (Text.indexAt ['a', 'b'] ⟨0, 1⟩) = ['a'] := by
  intro s once twice t
  refine ⟨rfl, rfl, ?_⟩
  decide

end Session

end Waymark
