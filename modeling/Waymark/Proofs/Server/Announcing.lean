import Waymark.Proofs.Server.Deeds
import Waymark.Proofs.Server.History
import Waymark.Proofs.Session.Hiding

/-! What can be selected and what was told. Whether a document is shown is kept with its session and
outlives its run. So the states of a new run can be selected before they were ever told, if those of
the run before were shown. -/

namespace Waymark

theorem Board.map_bare_ofMarkers (ms : List Marker) :
    (ofMarkers ms).markers.map Marker.bare = ms.map Marker.bare := by
  have hunplaced : (ofMarkers ms).markers.map unplaced = (Board.mk ms false).markers.map unplaced :=
    map_unplaced_layOut false
  exact map_bare_of_unplaced hunplaced

namespace Session
variable {ε : Type} [Editor ε] {s s' : Session}

/-- Markers get shown only where showing them worked. -/
theorem shown_showStates {e : ε} (h : (s.showStates e).session.shown = true) :
    s.shown = true ∨ ∃ outcome, (s.showStates e).outcome = .ok outcome := by
  obtain ⟨board, hremove, -⟩ := session_attempt .remove s e
  change (s.removeMarkers e).session = _ at hremove
  unfold showStates at h ⊢
  split at h
  · next heq =>
    rw [heq] at hremove
    exact .inl ((congrArg (·.shown) hremove).symm.trans h)
  · exact .inr ⟨_, rfl⟩
  · next removed e' _ heq =>
    rw [heq] at hremove
    obtain ⟨board', hadd, -⟩ := session_attempt .add removed e'
    change (removed.addMarkers e').session = _ at hadd
    split at h
    · next heq' =>
      rw [heq'] at hadd
      exact .inl (((congrArg (·.shown) hadd).trans (congrArg (·.shown) hremove)).symm.trans h)
    · exact .inr ⟨_, rfl⟩

theorem markers_showStates (s : Session) (e : ε) :
    (s.showStates e).session.board.markers.map Marker.bare = s.board.markers.map Marker.bare := by
  obtain ⟨board, shown, hsession, hboard⟩ := session_showStates s e
  rw [hsession]
  exact Board.map_bare_of_unplaced hboard

/-- A new run brings its markers, and they are taken to be shown if those before them were. -/
theorem markers_storeSnapshot {snapshot : Snapshot} (h : s.storeSnapshot snapshot = .ok s') :
    s'.board.markers.map Marker.bare = snapshot.markers.map Marker.bare ∧ s'.shown = s.shown := by
  unfold storeSnapshot at h
  split at h
  · obtain rfl := Except.ok.inj h
    exact ⟨Board.map_bare_ofMarkers _, rfl⟩
  · cases h

end Session

namespace World
variable {w w' : World} {request : Request} {answer : Except Error Reply} {uri named : String}
  {doc doc' : OpenDocument} {snapshot : Snapshot} {ms : List Marker}

/-- An answer tells these markers, as they stand, as those of a document that is shown. -/
def Tells (answer : Except Error Reply) (w' : World) (uri : String) (ms : List Marker) : Prop :=
  ∃ reply doc dark, answer = .ok reply ∧ w'.server.documents.get? uri = some doc ∧
    doc.session.shown = true ∧ doc.session.board.markers.map Marker.bare = ms.map Marker.bare ∧
    .setDecorations uri (doc.session.board.markers.map (·.rendered dark)) ∈ reply.events

/-- Where a document is to be shown and is, its markers are told. -/
theorem tells_of_shows {a : Session.Attempt Buffer} (h : Shows uri a answer)
    (hsets : Sets uri (some ⟨a.session, a.editor.document⟩) w w')
    (hmarkers : a.session.board.markers.map Marker.bare = ms.map Marker.bare)
    (hshown : a.session.shown = true) :
    Tells answer w' uri ms ∨ ∃ e, a.outcome = .error e ∧ answer = .error e := by
  cases h with
  | failed he => exact .inr ⟨_, he, rfl⟩
  | told dark _ =>
    refine .inl ⟨_, _, dark, rfl, hsets.entry, hshown, hmarkers, ?_⟩
    simp [decorations, Session.rendered, hshown]

namespace Occurrence

/-- The run of a snapshot was stored for a document. -/
def Stores (o : Occurrence) (uri : String) (snapshot : Snapshot) : Prop :=
  o.request = .storeRun snapshot ∧ snapshot.uri = uri ∧
    ∃ editor, o.before.openEditor snapshot = .ok editor

/-- The markers of a snapshot were told, as those of a document that is shown. -/
def Announces (o : Occurrence) (uri : String) (snapshot : Snapshot) : Prop :=
  Tells o.reply o.after uri snapshot.markers

/-- A document that was shown was not shown anew: states are hidden, or showing them failed. -/
def Carries (o : Occurrence) (uri : String) : Prop :=
  (∃ doc, o.before.server.documents.get? uri = some doc ∧ doc.session.shown = true) ∧
    (o.before.server.settings.showStates = false ∨ ∃ e, o.reply = .error e)

end Occurrence

/-- A document that a request leaves open was open before, with the same markers, and was shown
before if it is now, unless the markers were told. -/
def Continues (w : World) (answer : Except Error Reply) (w' : World) (uri : String) : Prop :=
  ∀ doc', w'.server.documents.get? uri = some doc' → ∃ doc,
    w.server.documents.get? uri = some doc ∧
    doc'.session.board.markers.map Marker.bare = doc.session.board.markers.map Marker.bare ∧
    (doc'.session.shown = true → doc.session.shown = true ∨
      ∀ ms, doc.session.board.markers.map Marker.bare = ms.map Marker.bare →
        Tells answer w' uri ms)

theorem continues_of_same
    (h : w'.server.documents.get? uri = w.server.documents.get? uri) :
    Continues w answer w' uri :=
  fun doc' hdoc' => ⟨doc', h.symm.trans hdoc', rfl, .inl⟩

theorem continues_of_sets (hdoc : w.server.documents.get? named = some doc)
    (hsets : Sets named (some doc') w w')
    (hmarkers : doc'.session.board.markers.map Marker.bare =
      doc.session.board.markers.map Marker.bare)
    (hshown : doc'.session.shown = true → doc.session.shown = true ∨
      ∀ ms, doc.session.board.markers.map Marker.bare = ms.map Marker.bare →
        Tells answer w' named ms) (uri : String) : Continues w answer w' uri := by
  by_cases heq : uri = named
  · subst heq
    intro found hfound
    obtain rfl := Option.some.inj (hfound.symm.trans hsets.entry)
    exact ⟨doc, hdoc, hmarkers, hshown⟩
  · exact continues_of_same (hsets.others uri heq)

/-- A request that stores nothing for a document goes on with it, or the document is closed. -/
theorem continues_dispatch (horderly : w.Orderly)
    (hstores : ∀ snapshot, ¬Occurrence.Stores ⟨w, request⟩ uri snapshot) :
    Continues w (w.dispatch request).1 (w.dispatch request).2 uri := by
  have hdeed := deed_dispatch horderly request
  generalize (w.dispatch request).1 = answer, (w.dispatch request).2 = w' at hdeed ⊢
  cases hdeed with
  | aside hsame _ _ => exact continues_of_same (hsame uri)
  | @stored snapshot _ _ _ _ hrequest hopen _ _ hsets _ =>
    have hne : uri ≠ snapshot.uri := fun heq => hstores snapshot ⟨hrequest, heq.symm, _, hopen⟩
    exact continues_of_same (hsets.others uri hne)
  | @storedShown snapshot _ _ _ _ _ hrequest hopen _ _ _ hsets _ =>
    have hne : uri ≠ snapshot.uri := fun heq => hstores snapshot ⟨hrequest, heq.symm, _, hopen⟩
    exact continues_of_same (hsets.others uri hne)
  | @shown named doc a _ _ _ hdoc ha hshows hsets _ =>
    subst ha
    have hmarkers := Session.markers_showStates doc.session (w.buffer doc)
    refine continues_of_sets hdoc hsets hmarkers (fun hshown => ?_) uri
    obtain hbefore | ⟨outcome, hok⟩ := Session.shown_showStates hshown
    · exact .inl hbefore
    · refine .inr fun ms hms => ?_
      obtain htells | ⟨e, he, -⟩ := tells_of_shows hshows hsets (hmarkers.trans hms) hshown
      · exact htells
      · exact absurd (hok.symm.trans he) (by simp)
  | hidden _ hdoc hsets _ => exact continues_of_sets hdoc hsets rfl nofun uri
  | @attempted named doc op a _ _ _ hdoc ha hsets _ =>
    subst ha
    have hgoesOn := Session.goesOn_attempt op doc.session (w.buffer doc)
    exact continues_of_sets hdoc hsets hgoesOn.markers
      (fun hshown => .inl (hgoesOn.shown.symm.trans hshown)) uri
  | @closed named _ _ _ _ hdoc hsets _ =>
    by_cases heq : uri = named
    · subst heq
      intro doc' hdoc'
      cases hsets.entry.symm.trans hdoc'
    · exact continues_of_same (hsets.others uri heq)
  | moved _ hdoc _ hgoesOn hsets _ =>
    exact continues_of_sets hdoc hsets hgoesOn.markers
      (fun hshown => .inl (hgoesOn.shown.symm.trans hshown)) uri
  | rendered _ _ hdoc hshown hmarkers hsets =>
    exact continues_of_sets hdoc hsets hmarkers
      (fun hshown' => .inl (hshown.symm.trans hshown')) uri

/-- A session that is shown when nothing was told of it yet was shown before. -/
theorem shown_sessionOf (h : (w.sessionOf uri).shown = true) :
    ∃ doc, w.server.documents.get? uri = some doc ∧ doc.session.shown = true := by
  unfold sessionOf at h
  cases hdoc : w.server.documents.get? uri with
  | none =>
    rw [hdoc] at h
    cases h
  | some doc =>
    rw [hdoc] at h
    exact ⟨doc, rfl, h⟩

/-- Where a run is stored, the document has its markers, and they are told if it is shown, unless
it was shown already. -/
theorem stores_dispatch (horderly : w.Orderly)
    (hstores : Occurrence.Stores ⟨w, request⟩ uri snapshot) :
    ∀ doc, (w.dispatch request).2.server.documents.get? uri = some doc →
      doc.session.board.markers.map Marker.bare = snapshot.markers.map Marker.bare ∧
      (doc.session.shown = true → Occurrence.Announces ⟨w, request⟩ uri snapshot ∨
        Occurrence.Carries ⟨w, request⟩ uri) := by
  obtain ⟨hrequest, rfl, editor, hopen⟩ := hstores
  dsimp only at hrequest hopen
  subst hrequest
  have hdeed := deed_dispatch horderly (.storeRun snapshot)
  unfold Occurrence.Announces Occurrence.Carries Occurrence.reply Occurrence.after
  dsimp only
  generalize (w.dispatch (.storeRun snapshot)).1 = answer,
    (w.dispatch (.storeRun snapshot)).2 = w' at hdeed ⊢
  intro doc hdoc
  cases hdeed with
  | aside _ _ hfailed =>
    obtain ⟨e, he⟩ := hfailed snapshot rfl
    cases hopen.symm.trans he
  | stored hrequest _ hsession hflag hsets _ =>
    obtain rfl := Request.storeRun.inj hrequest
    obtain rfl := Option.some.inj (hdoc.symm.trans hsets.entry)
    obtain ⟨hmarkers, hbefore⟩ := Session.markers_storeSnapshot hsession
    exact ⟨hmarkers, fun hshown =>
      .inr ⟨shown_sessionOf (hbefore.symm.trans hshown), .inl hflag⟩⟩
  | @storedShown _ editor' s _ _ _ hrequest _ hsession ha hshows hsets _ =>
    obtain rfl := Request.storeRun.inj hrequest
    obtain rfl := Option.some.inj (hdoc.symm.trans hsets.entry)
    subst ha
    obtain ⟨hstored, hbefore⟩ := Session.markers_storeSnapshot hsession
    have hmarkers := (Session.markers_showStates s (⟨editor', w.host.disk⟩ : Buffer)).trans hstored
    refine ⟨hmarkers, fun hshown => ?_⟩
    obtain htells | ⟨e, he, hanswer⟩ := tells_of_shows hshows hsets hmarkers hshown
    · exact .inl htells
    · obtain hshown' | ⟨outcome, hok⟩ := Session.shown_showStates hshown
      · exact .inr ⟨shown_sessionOf (hbefore.symm.trans hshown'), .inr ⟨e, hanswer⟩⟩
      · exact absurd (hok.symm.trans he) (by simp)
  | shown hrequest => cases hrequest
  | hidden hrequest => cases hrequest
  | attempted hrequest => exact absurd rfl (hrequest snapshot)
  | closed hrequest => cases hrequest
  | moved hrequest => exact absurd rfl (hrequest snapshot)
  | rendered hrequest => exact absurd rfl (hrequest snapshot)

/-- Where the markers of a session come from: `snapshot` was stored by `storing`, and nothing was
stored for the document later. If they are shown, they were told since then, or the session was
shown already and they were not. -/
structure Origins (uri : String) (s : Session) (snapshot : Snapshot) (later : List Occurrence)
    (storing : Occurrence) : Prop where
  stored : storing.Stores uri snapshot
  latest : ∀ o ∈ later, ∀ snapshot, ¬o.Stores uri snapshot
  markers : s.board.markers.map Marker.bare = snapshot.markers.map Marker.bare
  told : s.shown = true →
    (∃ o ∈ later ++ [storing], o.Announces uri snapshot) ∨ storing.Carries uri

theorem Origins.later {s s' : Session} {later : List Occurrence} {storing : Occurrence}
    {o : Occurrence} (h : Origins uri s snapshot later storing)
    (hstores : ∀ snapshot, ¬o.Stores uri snapshot)
    (hmarkers : s'.board.markers.map Marker.bare = s.board.markers.map Marker.bare)
    (hshown : s'.shown = true → s.shown = true ∨ o.Announces uri snapshot) :
    Origins uri s' snapshot (o :: later) storing where
  stored := h.stored
  latest other hother := by
    obtain rfl | hother := List.mem_cons.mp hother
    · exact hstores
    · exact h.latest other hother
  markers := hmarkers.trans h.markers
  told hs' := by
    obtain hs | htold := hshown hs'
    · refine (h.told hs).imp_left fun ⟨other, hother, htold⟩ => ?_
      exact ⟨other, List.mem_cons_of_mem _ hother, htold⟩
    · exact .inl ⟨o, List.mem_cons_self, htold⟩

variable {quiet : Host → Host → Prop} {settings : Settings} {host : Host} {log : List Occurrence}

/-- Every open document has its markers from the latest snapshot that was stored for it. -/
theorem origins_history (h : History quiet settings host log w) :
    ∀ uri doc, w.server.documents.get? uri = some doc → ∃ later storing earlier snapshot,
      log = later ++ storing :: earlier ∧ Origins uri doc.session snapshot later storing := by
  induction h with
  | start => exact fun _ _ hdoc => nomatch hdoc
  | sent seq _ ih => exact ih
  | machine _ _ ih => exact ih
  | @request log w request h ih =>
    intro uri doc hdoc
    have horderly := h.reached.orderly
    by_cases hstores : ∃ snapshot, Occurrence.Stores ⟨w, request⟩ uri snapshot
    · obtain ⟨snapshot, hstores⟩ := hstores
      obtain ⟨hmarkers, htold⟩ := stores_dispatch horderly hstores doc hdoc
      exact ⟨[], ⟨w, request⟩, log, snapshot, rfl, {
        stored := hstores
        latest := List.forall_mem_nil _
        markers := hmarkers
        told := fun hshown => (htold hshown).imp_left fun h => ⟨_, List.mem_cons_self, h⟩ }⟩
    · have hstores := not_exists.mp hstores
      obtain ⟨before, hbefore, hmarkers, hshown⟩ := continues_dispatch horderly hstores doc hdoc
      obtain ⟨later, storing, earlier, snapshot, rfl, horigins⟩ := ih uri before hbefore
      have htold : doc.session.shown = true → before.session.shown = true ∨
          Occurrence.Announces ⟨w, request⟩ uri snapshot := by
        intro hs
        obtain hs | htells := hshown hs
        · exact .inl hs
        · exact .inr (htells snapshot.markers horigins.markers)
      exact ⟨⟨w, request⟩ :: later, storing, earlier, snapshot, rfl,
        horigins.later hstores hmarkers htold⟩

/-- A request does nothing to a document but give out a number, and tells nothing. -/
structure Passes (w : World) (request : Request) (uri : String) (doc : OpenDocument) : Prop where
  silent : ∀ reply, (w.dispatch request).1 = .ok reply → reply.events = []
  machine : (w.dispatch request).2.host = w.host
  entry : ∃ ids, (w.dispatch request).2.server.documents.get? uri =
    some { doc with session := { doc.session with ids } }

theorem passes_point {p : Pointing} (hdoc : w.server.documents.get? p.uri = some doc)
    (hidden : doc.session.shown = false) : w.Passes (.point p) p.uri doc := by
  by_cases hshow : w.server.settings.showStates = true
  · have hpoint : w.point p = (.ok (.ofAction "ignored"), w.setDocument p.uri doc) := by
      simp only [point, if_pos hshow, Server.document_eq_ok.mpr hdoc,
        Session.onPosition_of_hidden hidden]
    constructor <;> rw [dispatch, hpoint]
    · exact fun reply hreply => Except.ok.inj hreply ▸ rfl
    · rfl
    · exact ⟨doc.session.ids, get?_setDocument_self w p.uri doc⟩
  · have hpoint : w.point p = (.ok (.ofAction "ignored"), w) := if_neg hshow
    constructor <;> rw [dispatch, hpoint]
    · exact fun reply hreply => Except.ok.inj hreply ▸ rfl
    · exact ⟨doc.session.ids, hdoc⟩

theorem renderingFor?_of_hidden {wanted : HeapRequest}
    (hdoc : w.server.documents.get? wanted.uri = some doc) (hidden : doc.session.shown = false) :
    w.renderingFor? wanted = none := by
  unfold renderingFor?
  split
  · next found _ _ hfound =>
    obtain rfl := Option.some.inj (hfound.symm.trans hdoc)
    simp [Session.wants?, hidden]
  · rfl

theorem answerHeap_of_hidden {wanted : HeapRequest} (huri : wanted.uri = uri)
    (hdoc : w.server.documents.get? uri = some doc) (hidden : doc.session.shown = false) :
    (∀ reply, (w.answerHeap wanted).1 = .ok reply → reply.events = []) ∧
      (w.answerHeap wanted).2.host = w.host ∧
      (w.answerHeap wanted).2.server.documents.get? uri = some doc := by
  subst huri
  obtain ⟨hworld, hsilent⟩ := answerHeap_of_none hdoc (renderingFor?_of_hidden hdoc hidden)
  refine ⟨hsilent, ?_⟩
  obtain hsame | hsame := hworld <;> rw [hsame]
  · exact ⟨rfl, hdoc⟩
  · exact ⟨rfl, get?_setDocument_self w wanted.uri doc⟩

theorem passes_showHeap {wanted : HeapRequest} (horderly : w.Orderly)
    (hdoc : w.server.documents.get? wanted.uri = some doc) (hidden : doc.session.shown = false) :
    w.Passes (.showHeap wanted) wanted.uri doc := by
  have hstays : ∀ answer, (∀ reply, answer = .ok reply → reply.events = []) →
      w.showHeap wanted = (answer, w) → w.Passes (.showHeap wanted) wanted.uri doc := by
    intro answer hsilent hshow
    constructor <;> rw [dispatch, hshow]
    · exact hsilent
    · exact ⟨doc.session.ids, hdoc⟩
  by_cases hshow : w.server.settings.showStates = true
  · by_cases hready : doc.session.isReady = true
    · have huri : (doc.session.requestHeap wanted.state).1.uri = wanted.uri :=
        (horderly _ doc hdoc).1
      have hshowHeap : w.showHeap wanted = (w.setDocument wanted.uri
          { doc with session := (doc.session.requestHeap wanted.state).2 }).answerHeap
            (doc.session.requestHeap wanted.state).1 := by
        rw [showHeap, if_pos hshow, Server.document_eq_ok.mpr hdoc]
        exact if_pos hready
      obtain ⟨hsilent, hhost, hentry⟩ := answerHeap_of_hidden huri
        (get?_setDocument_self w wanted.uri
          { doc with session := (doc.session.requestHeap wanted.state).2 }) hidden
      constructor <;> rw [dispatch, hshowHeap]
      · exact hsilent
      · exact hhost
      · exact ⟨_, hentry⟩
    · refine hstays (.error (.noSnapshot wanted.uri)) (fun _ h => by cases h) ?_
      rw [showHeap, if_pos hshow, Server.document_eq_ok.mpr hdoc]
      exact if_neg hready
  · exact hstays (.ok .empty) (fun reply hreply => Except.ok.inj hreply ▸ rfl) (if_neg hshow)

/-- Only what was told can be selected, as long as no run is stored over one that is shown without
being shown itself. In every open document the markers are those of the latest snapshot stored for
it. If the document is shown, its markers were told when that snapshot was stored or since, or the
document was shown when the snapshot came and it was not shown anew, because states were hidden or
because showing them failed. If it is not shown, then clicks and requests for heaps pass it by. -/
theorem shown_was_told (h : History quiet settings host log w) (uri : String) (doc : OpenDocument)
    (hdoc : w.server.documents.get? uri = some doc) :
    (∃ later storing earlier snapshot, log = later ++ storing :: earlier ∧
      Origins uri doc.session snapshot later storing) ∧
    (doc.session.shown = false →
      (∀ place, w.Passes (.point ⟨uri, place⟩) uri doc) ∧
      ∀ id state, w.Passes (.showHeap ⟨id, uri, state⟩) uri doc) :=
  ⟨origins_history h uri doc hdoc, fun hidden => ⟨fun _ => passes_point hdoc hidden,
    fun _ _ => passes_showHeap h.reached.orderly hdoc hidden⟩⟩

/-- The states of a run that is stored while states are shown are told. -/
theorem shown_was_told_of_stored :
    let start : World := ⟨.ofSettings (drawing true), drawingHost⟩
    ∃ doc, (twoStatesShown true).server.documents.get? "d" = some doc ∧
      doc.session.shown = true ∧
      ∃ later storing earlier snapshot,
        start.occurrences [] [.storeRun twoStates] = later ++ storing :: earlier ∧
        Origins "d" doc.session snapshot later storing := by
  intro start
  have hhistory : History (fun _ _ => True) (drawing true) drawingHost
      (start.occurrences [] [.storeRun twoStates]) (twoStatesShown true) :=
    History.start.dispatchAll _
  have hshown : ((twoStatesShown true).server.documents.get? "d").map (·.session.shown) =
    some true := by decide +kernel
  obtain ⟨doc, hdoc, hshown⟩ := Option.map_eq_some_iff.mp hshown
  exact ⟨doc, hdoc, hshown, (shown_was_told hhistory "d" doc hdoc).1⟩

/-- The requests after which a document shows a run that was never told. Its first run is shown,
states are hidden for another document while its second run comes, and are shown again for the
other. -/
def carrying : List Request :=
  [.storeRun twoStates, .storeRun { twoStates with uri := "e" }, .hideStates "e",
    .storeRun twoStates, .showStates "e"]

/-- What was told about a document by the last requests of a history. -/
def told (uri : String) (log : List Occurrence) : List Event :=
  log.flatMap fun o => (o.reply.toOption.map (·.events)).getD [] |>.filter fun
    | .setDecorations other _ => other = uri
    | .heapGraph other _ _ _ => other = uri
    | .hint _ => false

/-- The second run of the document was stored last but one, and nothing was told of it. Still its
first state can be clicked, and its heap is shown. -/
theorem selected_untold :
    let start : World := ⟨.ofSettings (drawing false), drawingHost⟩
    let w := start.dispatchAll carrying
    w.Reached ∧ told "d" ((start.occurrences [] carrying).take 2) = [] ∧
      (w.server.documents.get? "d").map (·.session.shown) = some true ∧
      (w.point ⟨"d", ⟨0, 0⟩⟩).1.toOption.map (fun reply => reply.events.map (·.name)) =
        some ["heapGraph", "setDecorations"] :=
  ⟨(Reached.start _ _).dispatchAll _, by decide +kernel, by decide +kernel, by decide +kernel⟩

end World

end Waymark
