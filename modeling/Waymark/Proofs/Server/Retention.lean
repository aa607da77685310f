import Waymark.Proofs.Server.History
import Waymark.Proofs.Server.Identity
import Waymark.Proofs.Server.Numbering
import Waymark.Proofs.Session.Showing

/-! How long a run is kept. It comes with its document and goes when the document is closed, but if
the anchors cannot be taken out of the document's file then, the document goes and the run stays. -/

namespace Waymark

theorem Anchor.outcome_attemptClosed (board : Board) (d : Disk) (p : Path) :
    (attemptClosed .idle board d p).2.outcome = (stripFile d p).1 := by
  have hbegin : Guard.begin? .idle .remove = some ⟨some .remove⟩ := rfl
  simp only [attemptClosed, hbegin]
  split <;> next heq => rw [heq]

namespace World
variable {quiet : Host → Host → Prop} {settings : Settings} {host : Host}
  {log log' : List Occurrence} {w w' : World} {uri named : String} {doc : OpenDocument}
  {request : Request}

/-- A run is not stored, or its document is open then. -/
theorem storeRun_cases (w : World) (snapshot : Snapshot) : (w.storeRun snapshot).2 = w ∨
    ((w.storeRun snapshot).2.server.documents.get? snapshot.uri).isSome = true ∧
      (w.storeRun snapshot).2.server.runs = w.server.runs.store snapshot.uri snapshot.steps := by
  unfold storeRun
  dsimp only
  split
  · exact .inl rfl
  · refine .inr ?_
    split
    · exact ⟨by rw [get?_setDocument_self]; rfl, rfl⟩
    · split
      · unfold showStatesOf
        split <;> next heq =>
          have hserver := congrArg (·.2.2.server) heq
          dsimp only at hserver ⊢
          rw [← hserver]
          exact ⟨by rw [get?_afterAttempt, if_pos rfl]; rfl, rfl⟩
      · exact ⟨by rw [get?_setDocument_self]; rfl, rfl⟩

/-- A document that is closed is forgotten. Its run goes with it, unless the anchors could not be
taken out. -/
theorem close_cases (hdoc : w.server.documents.get? uri = some doc) :
    (∃ reply, (w.close uri).1 = .ok reply ∧ (w.close uri).2.server =
      { (w.forget uri).server with runs := w.server.runs.stop uri }) ∨
    ∃ e, (w.close uri).1 = .error e ∧ ((w.forget uri).closeEditor doc).1 = .error e ∧
      (w.close uri).2.server = (w.forget uri).server := by
  have hserver := server_closeEditor (w.forget uri) doc
  have hforget : w.withServer { w.server with documents := Table.erase uri w.server.documents } =
      w.forget uri := rfl
  unfold close
  rw [Server.document_eq_ok.mpr hdoc]
  simp only [hforget]
  generalize (w.forget uri).closeEditor doc = cleared at hserver ⊢
  obtain ⟨outcome, w'⟩ := cleared
  dsimp only at hserver
  cases outcome with
  | error e => exact .inr ⟨e, rfl, rfl, hserver⟩
  | ok o => exact .inl ⟨_, rfl, by simp only [withServer, hserver]; rfl⟩

/-- Only the file of a document can keep the anchors from being taken out when it is closed. -/
theorem stripFile_of_closeEditor {e : Error} (hsession : Free uri doc.session)
    (horigin : Origin uri doc.editor) (h : (w.closeEditor doc).1 = .error e) :
    ∃ path, doc.editor.path = some path ∧ (Anchor.stripFile w.host.disk path).1 = .error e := by
  unfold closeEditor at h
  split at h
  · next path hpath =>
    have houtcome := Anchor.outcome_attemptClosed doc.session.board w.host.disk path
    rw [← hsession.2] at houtcome
    exact ⟨path, hpath, houtcome.symm.trans h⟩
  · next hpath =>
    have hsavable : (w.buffer doc).Savable := by
      intro p hp
      rw [show (w.buffer doc).document.path = none from hpath] at hp
      cases hp
    have hown : (w.buffer doc).document.uri = doc.session.uri :=
      (horigin.sent hpath).trans hsession.1.symm
    obtain ⟨⟨o, ho⟩, -⟩ := Anchor.delete_of_savable doc.session.board hsavable
    rw [Session.removeMarkers_of_idle hown hsession.2, ho] at h
    cases h

/-- Whether a document is open, and the run that is kept for it. -/
def holding (uri : String) (w : World) : Bool × Option StepGraph :=
  ((w.server.documents.get? uri).isSome, w.server.runs.get? uri)

/-- Runs are stored, and taken away when a document is closed or on demand. -/
theorem runs_dispatch (w : World) (hstore : ∀ s, request = .storeRun s → s.uri ≠ uri)
    (hclose : request ≠ .close uri) (hstop : request ≠ .stop uri) :
    (w.dispatch request).2.server.runs.get? uri = w.server.runs.get? uri := by
  have hkept {s s' : Server} (h : ∃ documents, s' = { s with documents }) :
      s'.runs.get? uri = s.runs.get? uri := by
    obtain ⟨documents, rfl⟩ := h
    rfl
  cases request with
  | configure value =>
    obtain ⟨settings, hserver⟩ := server_configure w value
    rw [dispatch, hserver]
  | storeRun snapshot =>
    obtain hsame | ⟨-, hruns⟩ := storeRun_cases w snapshot
    · rw [dispatch, hsame]
    · rw [dispatch, hruns]
      exact Table.get?_insert_of_ne (hstore snapshot rfl).symm
  | getTrace request => rfl
  | showHeap wanted => exact hkept (server_showHeap w wanted)
  | point p => exact hkept (server_point w p)
  | showStates named => exact hkept (s := (w.setShowStates true).server) (server_showStates w named)
  | hideStates named =>
    exact hkept (s := (w.setShowStates false).server) (server_hideStates w named)
  | addMarkers named => exact hkept (server_pin w .add named)
  | removeMarkers named => exact hkept (server_pin w .remove named)
  | close named =>
    have hne : uri ≠ named := fun heq => hclose (congrArg _ heq.symm)
    cases hdoc : w.server.documents.get? named with
    | none => simp [dispatch, close, Server.document, hdoc]
    | some doc =>
      obtain ⟨reply, -, hserver⟩ | ⟨e, -, -, hserver⟩ := close_cases hdoc
      · rw [dispatch, hserver]
        exact Table.get?_erase.trans (if_neg hne)
      · rw [dispatch, hserver]
        rfl
  | stop named =>
    have hne : uri ≠ named := fun heq => hstop (congrArg _ heq.symm)
    exact Table.get?_erase.trans (if_neg hne)
  | disconnect => rfl

theorem isSome_of_faring (hfaring : Faring request w w')
    (hstore : ∀ s, request = .storeRun s → s.uri ≠ uri) (hclose : request ≠ .close uri) :
    (w'.server.documents.get? uri).isSome = (w.server.documents.get? uri).isSome := by
  have hfares := hfaring uri
  generalize w'.server.documents.get? uri = entry at hfares ⊢
  induction hfares with
  | refl => rfl
  | tail _ hturn ih =>
    cases hturn with
    | turn editor _ _ => exact ih
    | opened editor hrequest huri => exact absurd huri (hstore _ hrequest)
    | closed hrequest => exact absurd hrequest hclose

/-- A run that is kept after a request was kept before, or its document is open, or its document
was closed by the request and its anchors could not be taken out. -/
theorem holding_dispatch (horderly : w.Orderly) (request : Request) (uri : String) :
    holding uri (w.dispatch request).2 = holding uri w ∨
    ((w.dispatch request).2.server.documents.get? uri).isSome = true ∨
    (w.dispatch request).2.server.runs.get? uri = none ∨
    request = .close uri ∧ ∃ doc e, w.server.documents.get? uri = some doc ∧
      (w.close uri).1 = .error e ∧ ((w.forget uri).closeEditor doc).1 = .error e := by
  by_cases hstore : ∀ s, request = .storeRun s → s.uri ≠ uri
  · by_cases hclose : request = .close uri
    · subst hclose
      cases hdoc : w.server.documents.get? uri with
      | none => exact .inl (by simp [dispatch, close, Server.document, hdoc])
      | some doc =>
        obtain ⟨reply, -, hserver⟩ | ⟨e, hanswer, hcleared, -⟩ := close_cases hdoc
        · refine .inr (.inr (.inl ?_))
          rw [dispatch, hserver]
          exact Table.get?_erase_self
        · exact .inr (.inr (.inr ⟨rfl, doc, e, rfl, hanswer, hcleared⟩))
    · by_cases hstop : request = .stop uri
      · subst hstop
        exact .inr (.inr (.inl Table.get?_erase_self))
      · refine .inl (Prod.ext ?_ (runs_dispatch w hstore hclose hstop))
        exact isSome_of_faring (faring_dispatch horderly request) hstore hclose
  · simp only [not_forall, not_not] at hstore
    obtain ⟨snapshot, rfl, rfl⟩ := hstore
    obtain hsame | ⟨hopen, -⟩ := storeRun_cases w snapshot
    · exact .inl (by rw [dispatch, hsame])
    · exact .inr (.inl hopen)

/-- The document was closed in the history while its anchors could not be taken out of its file, and
since then it has neither been opened again nor has its run been taken away. -/
def LeftBehind (w : World) (log : List Occurrence) (uri : String) : Prop :=
  ∃ o doc path e, o.request = .close uri ∧ o.before.server.documents.get? uri = some doc ∧
    doc.editor.path = some path ∧ (Anchor.stripFile o.before.host.disk path).1 = .error e ∧
    o.reply = .error e ∧ StaysSince (holding uri) o log w

theorem LeftBehind.kept (h : w.LeftBehind log uri)
    (hsince : ∀ o, StaysSince (holding uri) o log w → StaysSince (holding uri) o log' w') :
    w'.LeftBehind log' uri := by
  obtain ⟨o, doc, path, e, ho, hdoc, hpath, hstrip, hclose, hstays⟩ := h
  exact ⟨o, doc, path, e, ho, hdoc, hpath, hstrip, hclose, hsince o hstays⟩

theorem History.open_or_leftBehind (h : History quiet settings host log w) : ∀ uri,
    (w.server.runs.get? uri).isSome = true →
      (w.server.documents.get? uri).isSome = true ∨ w.LeftBehind log uri := by
  induction h with
  | start => exact fun _ hrun => nomatch hrun
  | sent seq _ ih =>
    exact fun uri hrun => (ih uri hrun).imp_right (·.kept fun _ hstays => hstays.kept rfl)
  | machine _ _ ih =>
    exact fun uri hrun => (ih uri hrun).imp_right (·.kept fun _ hstays => hstays.kept rfl)
  | @request log w request h ih =>
    intro uri hrun
    have horderly := h.reached.orderly
    obtain hsame | hopen | hgone | ⟨rfl, doc, e, hdoc, hclose, hcleared⟩ :=
      holding_dispatch horderly request uri
    · obtain ⟨hopen, hruns⟩ := Prod.ext_iff.mp hsame
      have hrun' : (w.server.runs.get? uri).isSome = true := by
        rwa [← show _ = w.server.runs.get? uri from hruns]
      exact (ih uri hrun').imp (fun hbefore => hopen.trans hbefore)
        (·.kept fun _ hstays => hstays.request hsame)
    · exact .inl hopen
    · rw [hgone] at hrun
      cases hrun
    · obtain ⟨path, hpath, hstrip⟩ := stripFile_of_closeEditor (horderly uri doc hdoc)
        (h.reached.original uri doc hdoc) hcleared
      exact .inr ⟨⟨w, .close uri⟩, doc, path, e, rfl, hdoc, hpath, hstrip, hclose, .start _ log⟩

/-- What is answered about a document that is not open. -/
theorem answers_of_closed (hclosed : w.server.documents.get? uri = none) (id state : Nat) :
    (w.dispatch (.showHeap ⟨id, uri, state⟩)).1 =
      if w.server.settings.showStates then .error (.unknownDocument uri) else .ok .empty := by
  simp only [dispatch, showHeap, Server.document, hclosed]
  split <;> rfl

/-- A run that is kept is that of an open document, but for runs that a failure left behind. When a
document is closed, nothing shows a heap of it any more, and if closing succeeds, no trace has
anything in it. Closing fails only if the document's file cannot be rid of the anchors. Then the
run stays, and traces are answered as before. -/
theorem stored_run_open_or_left (h : History quiet settings host log w) (uri : String) :
    ((w.server.runs.get? uri).isSome = true →
      (w.server.documents.get? uri).isSome = true ∨ w.LeftBehind log uri) ∧
    ∀ doc, w.server.documents.get? uri = some doc →
      let answer := (w.dispatch (.close uri)).1
      let closed := (w.dispatch (.close uri)).2
      closed.server.documents.get? uri = none ∧
      (∀ id state, (closed.dispatch (.showHeap ⟨id, uri, state⟩)).1 =
        if closed.server.settings.showStates then .error (.unknownDocument uri)
        else .ok .empty) ∧
      (∀ reply, answer = .ok reply → closed.server.runs.get? uri = none ∧
        ∀ id state, (closed.dispatch (.getTrace ⟨id, uri, state⟩)).1 =
          .ok (.ofBody (TraceReply.codec.encode ⟨id, uri, []⟩))) ∧
      ∀ e, answer = .error e →
        (∃ path, doc.editor.path = some path ∧
          (Anchor.stripFile w.host.disk path).1 = .error e) ∧
        ∀ id state, (closed.dispatch (.getTrace ⟨id, uri, state⟩)).1 =
          (w.dispatch (.getTrace ⟨id, uri, state⟩)).1 := by
  refine ⟨h.open_or_leftBehind uri, fun doc hdoc => ?_⟩
  have hclosed := get?_close w uri
  have hcases := close_cases hdoc
  rw [show w.dispatch (.close uri) = w.close uri from rfl]
  generalize w.close uri = result at hclosed hcases
  obtain ⟨answer, closed⟩ := result
  dsimp only at hclosed hcases ⊢
  refine ⟨hclosed, answers_of_closed hclosed, ?_, ?_⟩
  · rintro reply rfl
    obtain ⟨-, -, hserver⟩ | ⟨_, herror, -, -⟩ := hcases
    · have hgone : closed.server.runs.get? uri = none := by
        rw [hserver]
        exact Table.get?_erase_self
      exact ⟨hgone, fun id state => by simp only [dispatch, getTrace, Runs.trace, hgone]⟩
    · cases herror
  · rintro e rfl
    obtain ⟨_, hok, -⟩ | ⟨_, herror, hcleared, hserver⟩ := hcases
    · cases hok
    · obtain rfl := Except.error.inj herror
      refine ⟨stripFile_of_closeEditor (w := w.forget uri) (h.reached.orderly uri doc hdoc)
        (h.reached.original uri doc hdoc) hcleared, fun id state => ?_⟩
      simp only [dispatch, getTrace, hserver]
      rfl

/-- A machine with one file and a program that removes all files. -/
def sweepingHost : Host :=
  ⟨⟨⟨[([[0x66]], .file (Text.toBytes ['a', 'b']) false), ([[0x72]], .file [] true)]⟩, []⟩,
    fun d _ => .ok { d with tree := .empty }, .ofString "/tmp"⟩

/-- The file of an open document is removed while a heap is rendered, and the document is closed. -/
def sweeping : List Request :=
  [readFrom "file:///f", .showHeap ⟨0, "file:///f", 0⟩, .close "file:///f"]

/-- The world in which that has happened. -/
def swept : World := dispatchAll ⟨.ofSettings (drawing true), sweepingHost⟩ sweeping

theorem reached_swept : swept.Reached := (Reached.start _ _).dispatchAll _

/-- The run of the document whose file is gone was left behind. -/
theorem stored_run_open_or_left_of_swept :
    swept.LeftBehind (occurrences ⟨.ofSettings (drawing true), sweepingHost⟩ [] sweeping)
      "file:///f" := by
  have hlog : History (fun _ _ => False) (drawing true) sweepingHost _ swept :=
    History.dispatchAll .start sweeping
  have hrun : (swept.server.runs.get? "file:///f").isSome = true := by decide +kernel
  have hclosed : ¬(swept.server.documents.get? "file:///f").isSome = true := by decide +kernel
  exact ((stored_run_open_or_left hlog "file:///f").1 hrun).resolve_left hclosed

/-- Its document is closed, and a trace is still answered from it. -/
theorem trace_of_swept :
    swept.Reached ∧ swept.server.documents.get? "file:///f" = none ∧
    (swept.dispatch (.getTrace ⟨0, "file:///f", 0⟩)).1 = .ok (.ofBody (TraceReply.codec.encode
      ⟨0, "file:///f", [⟨0, .interesting, true⟩]⟩)) := by
  refine ⟨reached_swept, by decide +kernel, ?_⟩
  have htrace : swept.server.runs.trace ⟨0, "file:///f", 0⟩ swept.server.settings.mode =
      ⟨0, "file:///f", [⟨0, .interesting, true⟩]⟩ := by decide +kernel
  simp only [dispatch, getTrace, htrace]

end World

end Waymark
