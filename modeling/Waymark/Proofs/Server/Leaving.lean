import Waymark.Proofs.Server.Serving
import Waymark.Proofs.Session.Storing

/-! What the server leaves behind in the documents. At the end of the input and when it is told to
disconnect it takes all anchors out; when the input cannot be read it just goes. -/

namespace Waymark.World
variable {allowed : Request → Prop} {w w' : World} {uri other : String} {doc : OpenDocument}
  {s : Session} {op : Anchor.Operation}

/-- A session under a uri whose anchors nobody is at. -/
def Free (uri : String) (s : Session) : Prop := s.uri = uri ∧ s.guard = .idle

theorem Free.of_sameDocument {s' : Session} (h : Free uri s) (hs : s.SameDocument s') :
    Free uri s' :=
  ⟨hs.uri.trans h.1, hs.guard.trans h.2⟩

/-- Every document has a session under its own uri, and between requests nobody is at any
anchors. -/
def Orderly (w : World) : Prop :=
  ∀ uri doc, w.server.documents.get? uri = some doc → Free uri doc.session

theorem orderly_ofSettings (settings : Settings) (host : Host) :
    Orderly ⟨.ofSettings settings, host⟩ := by
  intro uri doc hdoc
  cases hdoc

theorem get?_setDocument (w : World) (uri other : String) (doc : OpenDocument) :
    (w.setDocument uri doc).server.documents.get? other =
      if other = uri then some doc else w.server.documents.get? other :=
  Table.get?_insert

theorem orderly_setDocument (h : w.Orderly) (hdoc : Free uri doc.session) :
    (w.setDocument uri doc).Orderly := by
  intro other doc' hget
  rw [get?_setDocument] at hget
  split at hget
  · next heq =>
    obtain rfl := Option.some.inj hget
    exact heq ▸ hdoc
  · exact h other doc' hget

/-- The world without an open document. -/
def forget (w : World) (uri : String) : World :=
  w.withServer { w.server with documents := Table.erase uri w.server.documents }

theorem get?_forget (w : World) (uri other : String) :
    (w.forget uri).server.documents.get? other =
      if other = uri then none else w.server.documents.get? other :=
  Table.get?_erase

theorem orderly_forget (h : w.Orderly) (uri : String) : (w.forget uri).Orderly := by
  intro other doc hget
  rw [get?_forget] at hget
  split at hget
  · cases hget
  · exact h other doc hget

theorem server_closeEditor (w : World) (doc : OpenDocument) :
    (w.closeEditor doc).2.server = w.server := by
  unfold closeEditor
  split <;> rfl

theorem orderly_change (hchange : Change allowed w w') (h : w.Orderly) : w'.Orderly := by
  cases hchange with
  | server hdocuments _ =>
    intro uri doc hdoc
    exact h uri doc (hdocuments ▸ hdoc)
  | @opened snapshot editor session _ _ hsame =>
    refine orderly_setDocument h (Free.of_sameDocument ?_ hsame)
    cases hget : w.server.documents.get? snapshot.uri with
    | none => exact ⟨rfl, rfl⟩
    | some doc => exact h _ doc hget
  | session hdoc hsame => exact orderly_setDocument h ((h _ _ hdoc).of_sameDocument hsame)
  | rendered _ => exact h
  | attempted op hdoc =>
    exact orderly_setDocument h
      ((h _ _ hdoc).of_sameDocument (Session.sameDocument_attempt op _ _))
  | shown hdoc =>
    exact orderly_setDocument h ((h _ _ hdoc).of_sameDocument (Session.sameDocument_showStates _ _))
  | @closed uri doc hdoc =>
    intro other doc' hget
    rw [server_closeEditor] at hget
    exact orderly_forget h uri other doc' hget

/-- A document that its session may touch has no anchors. -/
def Bare (w : World) (uri : String) : Prop :=
  ∀ doc, w.server.documents.get? uri = some doc → doc.editor.uri = doc.session.uri →
    ∀ c ∈ doc.editor.text, ¬Anchor.isGlyph c

theorem get?_afterAttempt (w : World) (uri other : String) (a : Session.Attempt Buffer) :
    (w.afterAttempt uri a).server.documents.get? other =
      if other = uri then some ⟨a.session, a.editor.document⟩
      else w.server.documents.get? other :=
  Table.get?_insert

theorem bare_removed (h : w.Orderly) (hdoc : w.server.documents.get? uri = some doc) :
    (w.afterAttempt uri (doc.session.removeMarkers (w.buffer doc))).Bare uri := by
  intro doc' hget
  rw [get?_afterAttempt, if_pos rfl] at hget
  obtain rfl := Option.some.inj hget
  intro hown
  by_cases own : doc.editor.uri = doc.session.uri
  · change ∀ c ∈ (doc.session.removeMarkers (w.buffer doc)).editor.document.text,
      ¬Anchor.isGlyph c
    rw [Session.text_removeMarkers own (h uri doc hdoc).2]
    intro c hc
    simp [Anchor.not_isGlyph_of_mem_strip hc]
  · have hattempt : doc.session.removeMarkers (w.buffer doc) =
        ⟨.error (.identityMismatch doc.session.uri doc.editor.uri), doc.session, w.buffer doc⟩ :=
      if_neg own
    rw [hattempt] at hown
    exact absurd hown own

theorem bare_of_ne (hne : uri ≠ other) (a : Session.Attempt Buffer) (h : w.Bare uri) :
    (w.afterAttempt other a).Bare uri := by
  intro doc hget
  rw [get?_afterAttempt, if_neg hne] at hget
  exact h doc hget

/-- Every document in turn loses its anchors, and the turns of the others do not bring them
back. -/
theorem bare_stripAll {uris : List String} (horderly : w.Orderly)
    (h : uri ∈ uris ∨ w.Bare uri) : (w.stripAll uris).Bare uri := by
  -- Either the document's turn is still to come or it is over.
  induction uris generalizing w with
  | nil => exact h.resolve_left List.not_mem_nil
  | cons other uris ih =>
    unfold stripAll
    split
    · next hnone =>
      refine ih horderly ?_
      obtain hmem | hbare := h
      · obtain rfl | hmem := List.mem_cons.mp hmem
        · exact .inr fun doc hdoc => by simp [hnone] at hdoc
        · exact .inl hmem
      · exact .inr hbare
    · next doc hdoc =>
      have hchange : Change (fun _ => True) w _ := .attempted .remove hdoc
      refine ih (orderly_change hchange horderly) ?_
      by_cases heq : uri = other
      · subst heq
        exact .inr (bare_removed horderly hdoc)
      · obtain hmem | hbare := h
        · exact .inl ((List.mem_cons.mp hmem).resolve_left heq)
        · exact .inr (bare_of_ne heq _ hbare)

theorem mem_keys_of_get? {α : Type} {t : Table α} {a : α} (h : t.get? uri = some a) :
    uri ∈ t.map (·.1) := by
  induction t with
  | nil => cases h
  | cons e t ih =>
    obtain ⟨key, b⟩ := e
    unfold Table.get? at h
    split at h
    · next heq => simp [heq]
    · exact List.mem_cons_of_mem _ (ih h)

theorem bare_shutdown (h : w.Orderly) (uri : String) : w.shutdown.Bare uri := by
  refine bare_stripAll h ?_
  cases hget : w.server.documents.get? uri with
  | none => exact .inr fun doc hdoc => by simp [hget] at hdoc
  | some doc => exact .inl (mem_keys_of_get? hget)

/-- A server that ends well, at the end of the input or because it is told to disconnect, has taken
the anchors out of every document that is its session's own. A server that comes upon input it
cannot read does nothing more: it leaves all documents as the last answer left them. So does a
server that cannot send all of an answer, which is because a path in it is not text. -/
theorem serve_leaves (settings : Settings) (host : Host) (input : Bytes) :
    let w : World := ⟨.ofSettings settings, host⟩
    ((w.serve input).result = .ok () → ∀ uri, (w.serve input).world.Bare uri) ∧
    ∀ e, (w.serve input).result = .error e → ∃ w' rest, Served w input w' rest ∧
      ((w.serve input).world = w' ∧
          (Frame.next rest = .error e ∨
            ∃ body rest', Frame.next rest = .ok (some (body, rest')) ∧ readBody body = .error e) ∨
        e = .json .pathNotText ∧
          ∃ body rest' answer, Frame.next rest = .ok (some (body, rest')) ∧
            w'.receive body = .ok answer ∧ answer.goesOn = .error e ∧
            (w.serve input).world = answer.world) := by
  intro w
  obtain ⟨w', rest, hserved, hexit⟩ := exists_exit w input
  have hchanges : Changes (fun _ => True) w w' := changes_served hserved fun _ _ _ _ => trivial
  have horderly : w'.Orderly :=
    hchanges.keep (fun _ _ => orderly_change) (orderly_ofSettings settings host)
  generalize w.serve input = run at hexit
  obtain ⟨result, messages, final⟩ := run
  dsimp only at hexit ⊢
  cases hexit with
  | badFrame hnext =>
    refine ⟨fun h => (by cases h), fun e he => ?_⟩
    obtain rfl := Except.error.inj he
    exact ⟨w', rest, hserved, .inl ⟨rfl, .inl hnext⟩⟩
  | badBody hnext hreceive =>
    refine ⟨fun h => (by cases h), fun e he => ?_⟩
    obtain rfl := Except.error.inj he
    exact ⟨w', rest, hserved, .inl ⟨rfl, .inr ⟨_, _, hnext, receive_eq_error.mp hreceive⟩⟩⟩
  | endOfInput hnext => exact ⟨fun _ => bare_shutdown horderly, fun e he => (by cases he)⟩
  | disconnect hnext hreceive hoff =>
    refine ⟨fun _ uri doc hget => ?_, fun e he => (by cases he)⟩
    rw [(shutdown_of_receive hreceive hoff).2] at hget
    exact bare_shutdown horderly uri doc hget
  | unsent hnext hreceive hunsent =>
    refine ⟨fun h => (by cases h), fun e he => ?_⟩
    obtain rfl := Except.error.inj he
    exact ⟨w', rest, hserved, .inr ⟨unsent_of_receive hreceive hunsent, _, _, _, hnext, hreceive,
      hunsent, rfl⟩⟩

/-- A server on a machine without files. -/
def emptyWorld : World :=
  let temporary := Path.ofString "/tmp"
  ⟨.ofSettings (.default temporary), ⟨⟨.empty, []⟩, fun d _ => .ok d, temporary⟩⟩

/-- What a request brings that opens a document with one marker in it. -/
def openingArguments (uri : String) (text : Option String) : Json :=
  .object [("decorationOptions", .array [.object [("index", .int 0), ("numberToDisplay", .int 0),
    ("originalPosition", .object [("character", .int 1), ("line", .int 0)])]]),
    ("text", .ofOption .string text), ("uri", .string uri)]

/-- A document is opened and gets its anchor. -/
def pinning (uri : String) (text : Option String) : List Message :=
  [⟨1, "request", .request "stepsAsDecorationOptions" (some (openingArguments uri text))⟩,
    ⟨2, "request", .request "addMarkers" (some (.object [("uri", .string uri)]))⟩]

theorem canonical_openingArguments (uri : String) (text : Option String) :
    (openingArguments uri text).canonical = openingArguments uri text := by
  cases text <;> simp only [openingArguments, Json.ofOption, Json.canonical, Json.canonicalEntries,
    Json.canonicalItems, Table.overlay, Table.insert, List.foldl_cons, List.foldl_nil,
    String.reduceLT, String.reduceEq, if_false]

theorem fits_openingArguments (uri : String) (text : Option String) :
    Content.Fits (some (openingArguments uri text)) := by
  intro v hv
  obtain rfl := Option.mem_some.mp hv
  refine ⟨.object fun e he => ?_, canonical_openingArguments uri text⟩
  simp only [List.mem_cons, List.not_mem_nil, or_false] at he
  obtain rfl | rfl | rfl := he
  · refine .array fun v hv => ?_
    obtain rfl := List.mem_singleton.mp hv
    refine .object fun e he => ?_
    simp only [List.mem_cons, List.not_mem_nil, or_false] at he
    obtain rfl | rfl | rfl := he
    · exact .nat (n := 0) (by decide)
    · exact .nat (n := 0) (by decide)
    · refine .object fun e he => ?_
      simp only [List.mem_cons, List.not_mem_nil, or_false] at he
      obtain rfl | rfl := he
      · exact .nat (n := 1) (by decide)
      · exact .nat (n := 0) (by decide)
  · cases text with
    | none => exact .null
    | some s => exact .string s
  · exact .string uri

theorem fits_uri (uri : String) : Content.Fits (some (.object [("uri", .string uri)])) := by
  intro v hv
  obtain rfl := Option.mem_some.mp hv
  refine ⟨.object fun e he => ?_, rfl⟩
  obtain rfl := List.mem_singleton.mp he
  exact .string uri

/-- The world once a document is opened. -/
def opened (w : World) (uri : String) (text : Option String) : World :=
  (w.handle 1 "stepsAsDecorationOptions" (some (openingArguments uri text))).world

/-- The world once a document is opened and has its anchor. -/
def pinned (w : World) (uri : String) (text : Option String) : World :=
  ((w.opened uri text).handle 2 "addMarkers" (some (.object [("uri", .string uri)]))).world

theorem goesOn_of_toOption {answer : Answer} (h : answer.goesOn.toOption = some true) :
    answer.goesOn = .ok true := by
  cases hon : answer.goesOn with
  | error e => simp [hon, Except.toOption] at h
  | ok on => simpa [hon, Except.toOption] using h

theorem served_pinning {text : Option String} {rest : Bytes}
    (hlength : ∀ m ∈ pinning uri text, (Text.toBytes m.text).length ≤ Frame.maxLength)
    (hopen : (w.handle 1 "stepsAsDecorationOptions"
      (some (openingArguments uri text))).goesOn.toOption = some true)
    (hpin : ((w.opened uri text).handle 2 "addMarkers"
      (some (.object [("uri", .string uri)]))).goesOn.toOption = some true) :
    Served w (output (pinning uri text) ++ rest) (w.pinned uri text) rest := by
  have hopened : Served w (output (pinning uri text) ++ rest) (w.opened uri text)
      (output (pinning uri text).tail ++ rest) :=
    Served.start.request (show 1 < UInt64.size by decide) (fits_openingArguments uri text)
      (hlength _ List.mem_cons_self) rfl (goesOn_of_toOption hopen)
  exact Served.request (m := ⟨2, _, _⟩) hopened (show 2 < UInt64.size by decide) (fits_uri uri)
    (hlength _ (List.mem_cons_of_mem _ List.mem_cons_self)) rfl (goesOn_of_toOption hpin)

/-- Anchors are in a document when a header comes that holds no number. -/
theorem bad_input_leaves_anchors :
    let run := emptyWorld.serve
      (output (pinning "d" (some "ab")) ++ Text.toBytes "Content-Length: x\r\n\r\n".toList)
    run.result = .error (.protocol (.badLength "Content-Length: x".toList)) ∧
      ¬run.world.Bare "d" := by
  intro run
  have hserved : Served emptyWorld _ (emptyWorld.pinned "d" (some "ab"))
      (Text.toBytes "Content-Length: x\r\n\r\n".toList) :=
    served_pinning (by decide +kernel) (by decide +kernel) (by decide +kernel)
  have hnext : Frame.next (Text.toBytes "Content-Length: x\r\n\r\n".toList) =
      .error (.protocol (.badLength "Content-Length: x".toList)) := rfl
  obtain ⟨hresult, hworld⟩ := serve_of_served hserved
  rw [serve_of_error hnext] at hresult hworld
  refine ⟨hresult, fun hbare => ?_⟩
  rw [hworld] at hbare
  have hmarked : ((emptyWorld.pinned "d" (some "ab")).server.documents.get? "d").any (fun doc =>
      doc.editor.uri == doc.session.uri && doc.editor.text.any Anchor.isGlyph) = true := by
    decide +kernel
  cases hdoc : (emptyWorld.pinned "d" (some "ab")).server.documents.get? "d" with
  | none => simp [hdoc] at hmarked
  | some doc =>
    simp only [hdoc, Option.any_some, Bool.and_eq_true, beq_iff_eq, List.any_eq_true] at hmarked
    obtain ⟨hown, c, hc, hglyph⟩ := hmarked
    exact hbare doc hdoc hown c hc hglyph

end Waymark.World
