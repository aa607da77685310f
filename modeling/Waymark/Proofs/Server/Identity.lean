import Waymark.Proofs.Anchor.Failing
import Waymark.Proofs.Server.Display
import Waymark.Proofs.Server.Unharmed
import Waymark.Proofs.Uri.File

/-! Under which uri a document is edited. Its session has the uri that it was opened under. An
editor that reads a file has the uri that is written for the path of the file, and where this is
another one, no anchors come into the document. -/

namespace Waymark

/-- What was meant for one document arrived at another. -/
def Mismatched {α : Type} (outcome : Except Error α) : Prop :=
  ∃ expected found, outcome = .error (.identityMismatch expected found)

theorem mismatched_error {α : Type} {e : Error} : Mismatched (.error e : Except Error α) ↔
    ∃ expected found, e = .identityMismatch expected found := by
  simp [Mismatched]

theorem mismatched_map {α β : Type} {outcome : Except Error α} (f : α → β) :
    Mismatched (outcome.map f) ↔ Mismatched outcome := by
  cases outcome <;> simp [Mismatched, Except.map]

namespace Anchor

theorem not_mismatched_attempt (op : Operation) (guard : Guard) (board : Board) (b : Buffer) :
    ¬Mismatched (attempt op guard board b).2.outcome := by
  rintro ⟨expected, found, h⟩
  cases failing_attempt h

end Anchor

namespace Session
variable {s : Session} {b : Buffer}

theorem attempt_of_ne (op : Anchor.Operation) (h : b.document.uri ≠ s.uri) : s.attempt op b =
    ⟨.error (.identityMismatch s.uri b.document.uri), s, b⟩ :=
  if_neg h

/-- Anchors are turned away as those of another document only where the uris differ. -/
theorem mismatched_attempt_iff (op : Anchor.Operation) (s : Session) (b : Buffer) :
    Mismatched (s.attempt op b).outcome ↔ b.document.uri ≠ s.uri := by
  refine ⟨fun hmismatch own => ?_, fun hne => ⟨_, _, congrArg (·.outcome) (attempt_of_ne op hne)⟩⟩
  rw [attempt, if_pos (show Editor.uri b = s.uri from own)] at hmismatch
  exact Anchor.not_mismatched_attempt op s.guard s.board b hmismatch

theorem mismatched_showStates_iff (s : Session) (b : Buffer) :
    Mismatched (s.showStates b).outcome ↔ b.document.uri ≠ s.uri := by
  constructor
  · intro hmismatch own
    have hremove : ¬Mismatched (s.removeMarkers b).outcome :=
      fun h => (mismatched_attempt_iff .remove s b).mp h own
    have huri : (s.removeMarkers b).session.uri = s.uri := (sameDocument_attempt .remove s b).uri
    have hbuffer : (s.removeMarkers b).editor.document.uri = b.document.uri :=
      (invariant_attempt (Buffer.invariant_origin b.document.uri b.document.path) .remove s
        ⟨rfl, rfl⟩).1
    have hadd : ¬Mismatched ((s.removeMarkers b).session.addMarkers
        (s.removeMarkers b).editor).outcome :=
      fun h => (mismatched_attempt_iff .add _ _).mp h (hbuffer.trans (own.trans huri.symm))
    unfold showStates at hmismatch
    generalize s.removeMarkers b = removed at hmismatch hremove hadd
    split at hmismatch
    · exact hremove hmismatch
    · simp [Mismatched] at hmismatch
    · next s' b' _ =>
      dsimp only at hadd
      generalize s'.addMarkers b' = added at hmismatch hadd
      split at hmismatch
      · exact hadd hmismatch
      · simp [Mismatched] at hmismatch
  · intro hne
    refine ⟨s.uri, b.document.uri, ?_⟩
    rw [showStates, removeMarkers, attempt_of_ne .remove hne]

end Session

namespace World
variable {w w' : World} {uri : String} {doc : OpenDocument}

/-- Where the text of a document under a uri comes from, and under which uri it is edited. -/
structure Origin (uri : String) (editor : TextDocument) : Prop where
  sent : editor.path = none → editor.uri = uri
  read : ∀ p, editor.path = some p →
    Uri.documentPath uri = .ok p ∧ editor.uri = String.ofList (Uri.ofPath p)

theorem origin_openEditor {snapshot : Snapshot} {editor : TextDocument}
    (h : w.openEditor snapshot = .ok editor) : Origin snapshot.uri editor := by
  unfold openEditor at h
  split at h
  · obtain rfl := Except.ok.inj h
    exact ⟨fun _ => rfl, fun _ hpath => (nomatch hpath)⟩
  · split at h
    · cases h
    · next p hdocument =>
      unfold TextDocument.read at h
      split at h
      · cases h
      · obtain rfl := Except.ok.inj h
        refine ⟨fun hpath => (nomatch hpath), fun q hq => ?_⟩
        obtain rfl := Option.some.inj hq
        exact ⟨hdocument, rfl⟩

theorem Origin.of_same {editor editor' : TextDocument} (h : Origin uri editor)
    (hsame : editor'.uri = editor.uri ∧ editor'.path = editor.path) : Origin uri editor' := by
  obtain ⟨huri, hpath⟩ := hsame
  exact ⟨fun hnone => huri.trans (h.sent (hpath ▸ hnone)), fun p hp => huri ▸ h.read p (hpath ▸ hp)⟩

/-- Every editor has the uri that its document was opened under, or that of its file. -/
def Original (w : World) : Prop :=
  ∀ uri doc, w.server.documents.get? uri = some doc → Origin uri doc.editor

theorem original_setDocument (h : w.Original) (hdoc : Origin uri doc.editor) :
    (w.setDocument uri doc).Original := by
  intro other doc' hget
  rw [get?_setDocument] at hget
  split at hget
  · next heq =>
    obtain rfl := Option.some.inj hget
    exact heq ▸ hdoc
  · exact h other doc' hget

theorem Reached.original (h : w.Reached) : w.Original := by
  refine h.keep (fun _ _ _ _ hdoc => nomatch hdoc) (fun w w' hchange hw => ?_) fun _ _ hw => hw
  cases hchange with
  | server hdocuments _ => exact fun uri doc hdoc => hw uri doc (hdocuments ▸ hdoc)
  | opened _ hopen _ => exact original_setDocument hw (origin_openEditor hopen)
  | @session uri doc _ hdoc _ => exact original_setDocument hw (hw uri doc hdoc)
  | rendered _ => exact hw
  | @attempted uri doc op hdoc =>
    exact original_setDocument hw ((hw _ _ hdoc).of_same
      (Session.invariant_attempt (Buffer.invariant_origin doc.editor.uri doc.editor.path) op
        doc.session ⟨rfl, rfl⟩))
  | @shown uri doc hdoc =>
    exact original_setDocument hw ((hw _ _ hdoc).of_same
      (Session.invariant_showStates (Buffer.invariant_origin doc.editor.uri doc.editor.path)
        doc.session ⟨rfl, rfl⟩))
  | @closed uri doc hdoc =>
    intro other doc' hget
    rw [server_closeEditor] at hget
    change (w.forget uri).server.documents.get? other = some doc' at hget
    rw [get?_forget] at hget
    split at hget
    · cases hget
    · exact hw other doc' hget

theorem mismatched_pin_iff (op : Anchor.Operation) (hown : doc.session.uri = uri)
    (hdoc : w.server.documents.get? uri = some doc) :
    Mismatched (w.pin op uri).1 ↔ doc.editor.uri ≠ uri := by
  rw [pin, Server.document_eq_ok.mpr hdoc]
  refine (mismatched_map _).trans ?_
  rw [Session.mismatched_attempt_iff, hown]
  rfl

theorem mismatched_dispatch_showStates_iff (hown : doc.session.uri = uri)
    (hdoc : w.server.documents.get? uri = some doc) :
    Mismatched (w.dispatch (.showStates uri)).1 ↔ doc.editor.uri ≠ uri := by
  have hshow := Session.mismatched_showStates_iff doc.session (w.buffer doc)
  rw [hown] at hshow
  have hdocument : (w.setShowStates true).server.document uri = .ok doc :=
    Server.document_eq_ok.mpr hdoc
  have houtcome : ((w.setShowStates true).showStatesOf uri doc).1 =
      (doc.session.showStates (w.buffer doc)).outcome := rfl
  refine Iff.trans ?_ hshow
  rw [← houtcome]
  unfold dispatch showStates
  simp only [hdocument]
  generalize (w.setShowStates true).showStatesOf uri doc = result
  obtain ⟨_ | _, _, _⟩ := result
  · simp only [mismatched_error]
  · simp [Mismatched]

/-- An open document has a session under its own uri. It is edited under this uri if its text came
with the run, and under the uri that is written for its file if it was read. The two are one for
every uri that is written for a path without names that lead back up. Where they are not, and only
there, anchors are turned away as those of another document, whether they are to be shown, put in or
taken out. -/
theorem anchorable_iff (h : w.Reached) (uri : String) (doc : OpenDocument)
    (hdoc : w.server.documents.get? uri = some doc) :
    doc.session.uri = uri ∧
    (doc.editor.path = none → doc.editor.uri = uri) ∧
    (∀ p, doc.editor.path = some p →
      Uri.documentPath uri = .ok p ∧ doc.editor.uri = String.ofList (Uri.ofPath p)) ∧
    (∀ p : Path, p.isAbsolute = true → Path.above ∉ p.names →
      uri = String.ofList (Uri.ofPath p) → doc.editor.uri = uri) ∧
    (∀ request ∈ [Request.showStates uri, .addMarkers uri, .removeMarkers uri],
      Mismatched (w.dispatch request).1 ↔ doc.editor.uri ≠ uri) ∧
    (Mismatched (doc.session.removeMarkers (w.buffer doc)).outcome ↔ doc.editor.uri ≠ uri) := by
  have hown : doc.session.uri = uri := (h.orderly uri doc hdoc).1
  have horigin := h.original uri doc hdoc
  refine ⟨hown, horigin.sent, horigin.read, ?_, ?_, ?_⟩
  · rintro p habsolute habove rfl
    cases hpath : doc.editor.path with
    | none => exact horigin.sent hpath
    | some q =>
      obtain ⟨hread, heditor⟩ := horigin.read q hpath
      obtain ⟨q', hread', hsame⟩ := Uri.documentPath_ofPath habsolute habove
      obtain rfl := Except.ok.inj (hread.symm.trans hread')
      rw [heditor, hsame]
  · intro request hrequest
    simp only [List.mem_cons, List.not_mem_nil, or_false] at hrequest
    obtain rfl | rfl | rfl := hrequest
    · exact mismatched_dispatch_showStates_iff hown hdoc
    · exact mismatched_pin_iff .add hown hdoc
    · exact mismatched_pin_iff .remove hown hdoc
  · exact (Session.mismatched_attempt_iff .remove doc.session (w.buffer doc)).trans
      (by rw [hown]; rfl)

/-- The run of two states on a file, which is named by `uri`. -/
def readFrom (uri : String) : Request := .storeRun { twoStates with uri, text := none }

/-- Where a file is named by its uri, its anchors go in. -/
theorem anchorable_iff_of_uri :
    let w := dispatchAll ⟨.ofSettings (.default fileHost.temporary), fileHost⟩
      [readFrom "file:///f"]
    ∃ doc, w.server.documents.get? "file:///f" = some doc ∧
      doc.editor.path = some ⟨[0x2F, 0x66]⟩ ∧ doc.editor.uri = "file:///f" ∧
      ∀ request ∈ [Request.showStates "file:///f", .addMarkers "file:///f",
        .removeMarkers "file:///f"], ¬Mismatched (w.dispatch request).1 := by
  intro w
  have hw : w.Reached := (Reached.start _ _).dispatchAll _
  have hpath : (w.server.documents.get? "file:///f").map (·.editor.path) =
      some (some ⟨[0x2F, 0x66]⟩) := by decide +kernel
  obtain ⟨doc, hdoc, hpath⟩ := Option.map_eq_some_iff.mp hpath
  obtain ⟨-, -, -, hwritten, hrequests, -⟩ := anchorable_iff hw "file:///f" doc hdoc
  have huri := hwritten ⟨[0x2F, 0x66]⟩ (by decide) (by decide) (by decide +kernel)
  refine ⟨doc, hdoc, hpath, huri, fun request hrequest hmismatch => ?_⟩
  exact (hrequests request hrequest).mp hmismatch huri

/-- Where the same file is named by its path, they do not. -/
theorem mismatched_of_path :
    let w := dispatchAll ⟨.ofSettings (.default fileHost.temporary), fileHost⟩ [readFrom "/f"]
    w.Reached ∧
    (∃ doc, w.server.documents.get? "/f" = some doc ∧ doc.editor.uri = "file:///f") ∧
    (w.dispatch (.addMarkers "/f")).1 = .error (.identityMismatch "/f" "file:///f") := by
  intro w
  have hw : w.Reached := (Reached.start _ _).dispatchAll _
  have huri : (w.server.documents.get? "/f").map (·.editor.uri) = some "file:///f" := by
    decide +kernel
  obtain ⟨doc, hdoc, huri⟩ := Option.map_eq_some_iff.mp huri
  have hown : doc.session.uri = "/f" := (hw.orderly _ doc hdoc).1
  refine ⟨hw, ⟨doc, hdoc, huri⟩, ?_⟩
  rw [dispatch, pin, Server.document_eq_ok.mpr hdoc]
  dsimp only
  have hne : (w.buffer doc).document.uri ≠ doc.session.uri := by
    rw [hown, show (w.buffer doc).document.uri = "file:///f" from huri]
    decide
  rw [Session.attempt_of_ne .add hne, hown, show (w.buffer doc).document.uri = _ from huri]
  rfl

end World

end Waymark
