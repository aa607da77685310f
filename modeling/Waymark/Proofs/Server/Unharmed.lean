import Waymark.Proofs.Server.Leaving
import Waymark.Server.Paths

/-! The file of a document is given back unharmed. While the document is open its file holds what
the editor does, the original text with anchors in it at most; when it is closed, and when the
server ends well, the file is the original again. -/

namespace Waymark

/-- Heaps are written to other files than the one at `p`. -/
def Settings.HeapsApart (wd : Place) (p : Path) (s : Settings) : Prop :=
  ∀ q ∈ s.heapPaths, p.Apart wd q

instance {wd : Place} {p : Path} {s : Settings} : Decidable (s.HeapsApart wd p) :=
  inferInstanceAs (Decidable (∀ q ∈ s.heapPaths, p.Apart wd q))

/-- No program that renders one file to another touches the file at `p`, unless that is where it is
to render to. -/
def Host.LeavesAlone (p : Path) (h : Host) : Prop :=
  ∀ (r : Renderer) (dot svg : Path) (d d' : Disk), p.Apart d.wd svg →
    h.start d (r.launch dot svg) = .ok d' → Disk.Spares p d d'

theorem Host.LeavesAlone.of_start {p : Path} {h h' : Host} (halone : h.LeavesAlone p)
    (hstart : h'.start = h.start) : h'.LeavesAlone p := by
  intro r dot svg d d' hapart hrun
  rw [hstart] at hrun
  exact halone r dot svg d d' hapart hrun

/-- A request that leaves the file at `p` to its document: the document's own snapshots come without
a text, other documents are in other files, and heaps are not sent to the file. -/
def Request.Harmless (uri : String) (p : Path) (wd : Place) : Request → Prop
  | .configure value =>
    ∀ s s' : Settings, s.merge value = .ok s' → s.HeapsApart wd p → s'.HeapsApart wd p
  | .storeRun snapshot =>
    if snapshot.uri = uri then snapshot.text = none
    else ∀ q, Uri.documentPath snapshot.uri = .ok q → p.Apart wd q
  | _ => True

namespace Settings
variable {wd : Place} {p : Path} {s s' : Settings}

theorem HeapsApart.of_eq (h : s.HeapsApart wd p) (heq : s'.heapDirectory = s.heapDirectory) :
    s'.HeapsApart wd p := by
  simpa only [HeapsApart, heapPaths, heq] using h

theorem HeapsApart.slot (h : s.HeapsApart wd p) (slot : Slot) :
    p.Apart wd (HeapSlots.dotPath s.heapDirectory slot.index) ∧
      p.Apart wd (HeapSlots.svgPath s.heapDirectory slot.index) := by
  cases slot <;> exact ⟨h _ (by simp [heapPaths]), h _ (by simp [heapPaths])⟩

end Settings

namespace Renderer
variable {r : Renderer} {h : Host} {p dot svg dir : Path}

theorem spares_render (halone : h.LeavesAlone p) (hsvg : p.Apart h.disk.wd svg) :
    ∀ h', r.render h dot svg = .ok h' → Disk.Spares p h.disk h'.disk ∧ h'.start = h.start := by
  intro h' hrender
  unfold render at hrender
  split at hrender
  · unfold Host.run at hrender
    cases hstart : h.start h.disk (r.launch dot svg) with
    | error fault =>
      rw [hstart] at hrender
      cases hrender
    | ok d =>
      rw [hstart] at hrender
      obtain rfl := Except.ok.inj hrender
      exact ⟨halone r dot svg h.disk d hsvg hstart, rfl⟩
  · cases hrender

/-- Rendering a heap touches the files of its slot only. -/
theorem spares_writeAndRender {slot : Nat} (r : Renderer) (description : String)
    (halone : h.LeavesAlone p) (hdot : p.Apart h.disk.wd (HeapSlots.dotPath dir slot))
    (hsvg : p.Apart h.disk.wd (HeapSlots.svgPath dir slot)) :
    Disk.Spares p h.disk (r.writeAndRender h dir slot description).2.disk ∧
      (r.writeAndRender h dir slot description).2.start = h.start := by
  have hmade := Disk.spares_makeDirectories p h.disk dir
  unfold writeAndRender
  split
  · next heq =>
    rw [heq] at hmade
    exact ⟨hmade, rfl⟩
  · next disk heq =>
    rw [heq] at hmade
    dsimp only
    split
    · exact ⟨hmade, rfl⟩
    · next disk' hwrite =>
      rw [← hmade.wd] at hdot hsvg
      have hwritten := Disk.spares_write hdot hwrite
      rw [← hwritten.wd] at hsvg
      split
      · exact ⟨hmade.trans hwritten, rfl⟩
      · next h' hrender =>
        obtain ⟨hspares, hstart⟩ :=
          spares_render (h := { h with disk := disk' }) halone hsvg h' hrender
        exact ⟨(hmade.trans hwritten).trans hspares, hstart⟩

end Renderer

namespace World
variable {w w' : World} {uri other : String} {p q : Path} {wd : Place} {original : Text}
  {doc : OpenDocument}

/-- What holds all the time of a document's file: it is in step with the editor while the document
is open, and the original while it is not. -/
structure InStep (uri : String) (p : Path) (wd : Place) (original : Text) (w : World) : Prop where
  orderly : w.Orderly
  directory : w.host.disk.wd = wd
  programs : w.host.LeavesAlone p
  heaps : w.server.settings.HeapsApart wd p
  own : ∀ doc, w.server.documents.get? uri = some doc →
    doc.editor.uri = uri ∧ (w.buffer doc).Stored p original
  others : ∀ other doc, other ≠ uri → w.server.documents.get? other = some doc →
    ∀ q ∈ doc.editor.path, p.Apart wd q
  closed : w.server.documents.get? uri = none → w.host.disk.read p = .ok original.toBytes

theorem stored_of_spares {d : Disk} (h : (w.buffer doc).Stored p original)
    (hspares : Disk.Spares p w.host.disk d) : Buffer.Stored p original ⟨doc.editor, d⟩ :=
  ⟨h.path, hspares.file _ h.file, h.text⟩

/-- Whatever is done apart from the file and its document does not matter. -/
theorem InStep.changeOthers (h : w.InStep uri p wd original) (horderly : w'.Orderly)
    (hsettings : w'.server.settings = w.server.settings) (hstart : w'.host.start = w.host.start)
    (hspares : Disk.Spares p w.host.disk w'.host.disk)
    (hown : w'.server.documents.get? uri = w.server.documents.get? uri)
    (hothers : ∀ other doc, other ≠ uri → w'.server.documents.get? other = some doc →
      ∀ q ∈ doc.editor.path, p.Apart wd q) : w'.InStep uri p wd original where
  orderly := horderly
  directory := hspares.wd.trans h.directory
  programs := h.programs.of_start hstart
  heaps := hsettings ▸ h.heaps
  own doc hdoc := by
    rw [hown] at hdoc
    exact ⟨(h.own doc hdoc).1, stored_of_spares (h.own doc hdoc).2 hspares⟩
  others := hothers
  closed hnone := hspares.file _ (h.closed (hown ▸ hnone))

/-- The document and its file may change together. -/
theorem InStep.changeOwn (h : w.InStep uri p wd original) (horderly : w'.Orderly)
    (hsettings : w'.server.settings = w.server.settings) (hstart : w'.host.start = w.host.start)
    (hwd : w'.host.disk.wd = wd)
    (hothers : ∀ other, other ≠ uri →
      w'.server.documents.get? other = w.server.documents.get? other)
    (hown : ∀ doc, w'.server.documents.get? uri = some doc →
      doc.editor.uri = uri ∧ (w'.buffer doc).Stored p original)
    (hclosed : w'.server.documents.get? uri = none →
      w'.host.disk.read p = .ok original.toBytes) : w'.InStep uri p wd original where
  orderly := horderly
  directory := hwd
  programs := h.programs.of_start hstart
  heaps := hsettings ▸ h.heaps
  own := hown
  others other doc hne hdoc := h.others other doc hne (hothers other hne ▸ hdoc)
  closed := hclosed

theorem InStep.setHost (h : w.InStep uri p wd original) (host : Host)
    (hspares : Disk.Spares p w.host.disk host.disk) (hstart : host.start = w.host.start) :
    InStep uri p wd original { w with host } :=
  h.changeOthers h.orderly rfl hstart hspares rfl h.others

theorem InStep.setOwn (h : w.InStep uri p wd original) (host : Host) (hfree : Free uri doc.session)
    (huri : doc.editor.uri = uri) (hstored : Buffer.Stored p original ⟨doc.editor, host.disk⟩)
    (hwd : host.disk.wd = wd) (hstart : host.start = w.host.start) :
    InStep uri p wd original { w.setDocument uri doc with host } := by
  have hget := fun other => get?_setDocument w uri other doc
  refine h.changeOwn (orderly_setDocument h.orderly hfree) rfl hstart hwd
    (fun other hne => (hget other).trans (if_neg hne)) (fun doc' hdoc' => ?_) fun hnone => ?_
  · obtain rfl : doc = doc' := Option.some.inj (((hget uri).trans (if_pos rfl)).symm.trans hdoc')
    exact ⟨huri, hstored⟩
  · cases ((hget uri).trans (if_pos rfl)).symm.trans hnone

theorem InStep.setOther (h : w.InStep uri p wd original) (hne : other ≠ uri)
    (hfree : Free other doc.session) (hapart : ∀ q ∈ doc.editor.path, p.Apart wd q) :
    (w.setDocument other doc).InStep uri p wd original := by
  refine h.changeOthers (orderly_setDocument h.orderly hfree) rfl rfl (.refl p _)
    ((get?_setDocument w other uri doc).trans (if_neg hne.symm)) fun other' doc' hne' hdoc' => ?_
  rw [get?_setDocument] at hdoc'
  split at hdoc'
  · obtain rfl := Option.some.inj hdoc'
    exact hapart
  · exact h.others other' doc' hne' hdoc'

/-- What a document's file holds can always be told: it is the original but for anchors. -/
theorem InStep.exists_text (h : w.InStep uri p wd original)
    (hfree : ∀ c ∈ original, ¬Anchor.isGlyph c) :
    ∃ t : Text, w.host.disk.read p = .ok t.toBytes ∧ Anchor.strip t = original := by
  cases hget : w.server.documents.get? uri with
  | none => exact ⟨original, h.closed hget, Anchor.strip_eq_self hfree⟩
  | some doc => exact ⟨_, (h.own doc hget).2.file, (h.own doc hget).2.text⟩

theorem inStep_opened {snapshot : Snapshot} {editor : TextDocument} {session : Session}
    (hpath : Uri.documentPath uri = .ok p) (huri : String.ofList (Uri.ofPath p) = uri)
    (hfree : ∀ c ∈ original, ¬Anchor.isGlyph c)
    (hharmless : (Request.storeRun snapshot).Harmless uri p wd)
    (hopen : w.openEditor snapshot = .ok editor) (hsession : Free snapshot.uri session)
    (h : w.InStep uri p wd original) :
    (w.setDocument snapshot.uri ⟨session, editor⟩).InStep uri p wd original := by
  unfold openEditor at hopen
  by_cases heq : snapshot.uri = uri
  · simp only [Request.Harmless, if_pos heq] at hharmless
    obtain ⟨t, hread, htext⟩ := h.exists_text hfree
    have hreadText := Disk.readText_of_decode hread (Utf8.decode_toBytes t)
    simp only [hharmless, heq, hpath, TextDocument.read, hreadText, huri,
      Except.ok.injEq] at hopen
    subst hopen
    rw [heq] at hsession ⊢
    exact h.setOwn w.host hsession rfl ⟨rfl, hread, htext⟩ h.directory rfl
  · simp only [Request.Harmless, if_neg heq] at hharmless
    refine h.setOther heq hsession fun q hq => ?_
    split at hopen
    · obtain rfl := Except.ok.inj hopen
      cases hq
    · split at hopen
      · cases hopen
      · next q' hq' =>
        unfold TextDocument.read at hopen
        split at hopen
        · cases hopen
        · obtain rfl := Except.ok.inj hopen
          obtain rfl := Option.mem_some.mp hq
          exact hharmless _ hq'

/-- An attempt at the anchors of any document. -/
theorem InStep.afterAttempt {a : Session.Attempt Buffer}
    (ha : ∀ P, Anchor.Invariant P → P (w.buffer doc) → P a.editor)
    (hdoc : w.server.documents.get? other = some doc) (hfree : Free other a.session)
    (h : w.InStep uri p wd original) : (w.afterAttempt other a).InStep uri p wd original := by
  by_cases heq : other = uri
  · subst heq
    obtain ⟨huri, hstored⟩ := h.own doc hdoc
    obtain ⟨hstored', hwd⟩ := ha _ (Buffer.invariant_stored p wd original) ⟨hstored, h.directory⟩
    obtain ⟨huri', -⟩ := ha _ (Buffer.invariant_origin other (some p)) ⟨huri, hstored.path⟩
    exact h.setOwn { w.host with disk := a.editor.disk } hfree huri' hstored' hwd rfl
  · have hspares := ha _ (Buffer.invariant_spares p w.host.disk)
      ⟨h.directory.symm ▸ h.others other doc heq hdoc, .refl p w.host.disk⟩
    exact (h.setOther heq hfree (h.directory ▸ hspares.1)).setHost
      { w.host with disk := a.editor.disk } hspares.2 rfl

/-- The disk after a document has been closed. -/
def closedDisk (w : World) (doc : OpenDocument) : Disk :=
  match doc.editor.path with
  | some path => (doc.session.removeFromClosed w.host.disk path).2.2
  | none => (doc.session.removeMarkers (w.buffer doc)).editor.disk

theorem closeEditor_eq (w : World) (doc : OpenDocument) :
    (w.closeEditor doc).2 = { w with host := { w.host with disk := w.closedDisk doc } } := by
  unfold closeEditor closedDisk
  cases doc.editor.path <;> rfl

theorem closedDisk_of_stored (idle : doc.session.guard = .idle)
    (h : (w.buffer doc).Stored p original) : (w.closedDisk doc).wd = w.host.disk.wd ∧
      (w.closedDisk doc).read p = .ok original.toBytes := by
  have hpath : doc.editor.path = some p := h.path
  obtain ⟨-, hwd, hread⟩ := Anchor.stripFile_of_read h.file
  rw [h.text] at hread
  simp only [closedDisk, hpath, Session.disk_removeFromClosed idle]
  exact ⟨hwd, hread⟩

theorem spares_closedDisk (idle : doc.session.guard = .idle)
    (h : ∀ q ∈ doc.editor.path, p.Apart w.host.disk.wd q) :
    Disk.Spares p w.host.disk (w.closedDisk doc) := by
  unfold closedDisk
  split
  · next q hpath =>
    rw [Session.disk_removeFromClosed idle]
    exact Anchor.spares_stripFile (h q hpath)
  · exact (Session.invariant_attempt (Buffer.invariant_spares p w.host.disk) .remove doc.session
      ⟨h, .refl p _⟩).2

/-- A document that is forgotten has got its file back. -/
theorem InStep.forgetOwn (h : w.InStep uri p wd original) (host : Host)
    (hfile : host.disk.read p = .ok original.toBytes) (hwd : host.disk.wd = wd)
    (hstart : host.start = w.host.start) (horderly : (w.forget uri).Orderly) :
    InStep uri p wd original { w.forget uri with host } := by
  have hget := get?_forget w uri
  refine h.changeOwn horderly rfl hstart hwd (fun other hne => (hget other).trans (if_neg hne))
    (fun doc hdoc => ?_) fun _ => hfile
  cases ((hget uri).trans (if_pos rfl)).symm.trans hdoc

theorem InStep.forgetOther (h : w.InStep uri p wd original) (hne : other ≠ uri)
    (horderly : (w.forget other).Orderly) : (w.forget other).InStep uri p wd original := by
  refine h.changeOthers horderly rfl rfl (.refl p _)
    ((get?_forget w other uri).trans (if_neg hne.symm)) fun other' doc' hne' hdoc' => ?_
  rw [get?_forget] at hdoc'
  split at hdoc'
  · cases hdoc'
  · exact h.others other' doc' hne' hdoc'

theorem inStep_closed (hdoc : w.server.documents.get? other = some doc)
    (h : w.InStep uri p wd original) :
    ((w.forget other).closeEditor doc).2.InStep uri p wd original := by
  have hidle := (h.orderly other doc hdoc).2
  have horderly := orderly_forget h.orderly other
  rw [closeEditor_eq]
  by_cases heq : other = uri
  · subst heq
    obtain ⟨hwd, hread⟩ := closedDisk_of_stored hidle (h.own doc hdoc).2
    exact h.forgetOwn { w.host with disk := w.closedDisk doc } hread
      (hwd.trans h.directory) rfl horderly
  · have hapart := h.directory.symm ▸ h.others other doc heq hdoc
    exact (h.forgetOther heq horderly).setHost
      { w.host with disk := w.closedDisk doc } (spares_closedDisk hidle hapart) rfl

/-- Nothing that harmless requests do gets file and editor out of step. -/
theorem inStep_change (hpath : Uri.documentPath uri = .ok p)
    (huri : String.ofList (Uri.ofPath p) = uri) (hfree : ∀ c ∈ original, ¬Anchor.isGlyph c)
    (hchange : Change (·.Harmless uri p wd) w w') (h : w.InStep uri p wd original) :
    w'.InStep uri p wd original := by
  have horderly := orderly_change hchange h.orderly
  -- A step is about this document or about another one; the file tells them apart.
  cases hchange with
  | server hdocuments hsettings =>
    exact {
      orderly := horderly
      directory := h.directory
      programs := h.programs
      heaps := by
        obtain hsame | ⟨value, hharmless, hmerge⟩ := hsettings
        · exact h.heaps.of_eq hsame
        · exact hharmless _ _ hmerge h.heaps
      own := fun doc hdoc => h.own doc (hdocuments ▸ hdoc)
      others := fun other doc hne hdoc => h.others other doc hne (hdocuments ▸ hdoc)
      closed := fun hnone => h.closed (hdocuments ▸ hnone) }
  | @opened snapshot editor session hharmless hopen _ =>
    exact inStep_opened hpath huri hfree hharmless hopen
      (horderly snapshot.uri ⟨session, editor⟩ Table.get?_insert_self) h
  | @session other doc s hdoc _ =>
    have hsession := horderly other { doc with session := s } Table.get?_insert_self
    by_cases heq : other = uri
    · subst heq
      obtain ⟨huri', hstored⟩ := h.own doc hdoc
      exact h.setOwn w.host hsession huri' hstored h.directory rfl
    · exact h.setOther heq hsession (h.others other doc heq hdoc)
  | rendered hrendered =>
    obtain rfl | ⟨r, slot, description, rfl⟩ := hrendered
    · exact h
    · obtain ⟨hdot, hsvg⟩ := h.directory.symm ▸ h.heaps.slot slot
      obtain ⟨hspares, hstart⟩ :=
        Renderer.spares_writeAndRender r description h.programs hdot hsvg
      exact h.setHost _ hspares hstart
  | @attempted other doc op hdoc =>
    exact h.afterAttempt (fun P hP hb => Session.invariant_attempt hP op doc.session hb) hdoc
      (horderly other _ Table.get?_insert_self)
  | @shown other doc hdoc =>
    exact h.afterAttempt (fun P hP hb => Session.invariant_showStates hP doc.session hb) hdoc
      (horderly other _ Table.get?_insert_self)
  | closed hdoc => exact inStep_closed hdoc h

/-- Without its anchors a document is the original, and so is its file. -/
theorem InStep.read_of_bare (h : w.InStep uri p wd original) (hbare : w.Bare uri) :
    w.host.disk.read p = .ok original.toBytes := by
  cases hget : w.server.documents.get? uri with
  | none => exact h.closed hget
  | some doc =>
    obtain ⟨huri, hstored⟩ := h.own doc hget
    have hown : doc.editor.uri = doc.session.uri := huri.trans (h.orderly uri doc hget).1.symm
    have htext : Anchor.strip doc.editor.text = doc.editor.text :=
      Anchor.strip_eq_self (hbare doc hget hown)
    rw [← hstored.text, show (w.buffer doc).document.text = doc.editor.text from rfl, htext]
    exact hstored.file

theorem get?_close (w : World) (uri : String) :
    (w.close uri).2.server.documents.get? uri = none := by
  unfold close
  split
  · next hdoc =>
    cases hget : w.server.documents.get? uri with
    | none => rfl
    | some doc => simp [Server.document_eq_ok.mpr hget] at hdoc
  · next doc hdoc =>
    have hforget : (w.forget uri).server.documents.get? uri = none := by
      rw [get?_forget, if_pos rfl]
    have hserver := server_closeEditor (w.forget uri) doc
    dsimp only
    split <;> next heq =>
      rw [show w.withServer { w.server with
        documents := Table.erase uri w.server.documents } = w.forget uri from rfl] at heq
      rw [heq] at hserver
      rw [← hserver] at hforget
      exact hforget

/-- A file with text that holds no anchors, opened under its own uri, is given back as it was. All
the time while its document is open the file holds what the editor does, and that is the original
but for anchors; while it is not, the file is the original. Closing the document brings the original
back, and so does a good end of the server, whatever the requests before were. -/
theorem file_unharmed (settings : Settings) (host : Host) (uri : String) (p : Path)
    (original : Text) (input : Bytes) (hpath : Uri.documentPath uri = .ok p)
    (huri : String.ofList (Uri.ofPath p) = uri)
    (hfile : host.disk.read p = .ok original.toBytes)
    (hfree : ∀ c ∈ original, ¬Anchor.isGlyph c) (hheaps : settings.HeapsApart host.disk.wd p)
    (hprograms : host.LeavesAlone p)
    (hharmless : ∀ body, Frame.Holds input body → ∀ request ∈ Request.ofBody? body,
      request.Harmless uri p host.disk.wd) :
    let w : World := ⟨.ofSettings settings, host⟩
    (∀ w' rest, Served w input w' rest →
      (∀ doc, w'.server.documents.get? uri = some doc →
        w'.host.disk.read p = .ok doc.editor.text.toBytes ∧
          Anchor.strip doc.editor.text = original) ∧
      (w'.server.documents.get? uri = none → w'.host.disk.read p = .ok original.toBytes) ∧
      (w'.dispatch (.close uri)).2.host.disk.read p = .ok original.toBytes) ∧
    ((w.serve input).result = .ok () →
      (w.serve input).world.host.disk.read p = .ok original.toBytes) := by
  intro w
  have hstart : w.InStep uri p host.disk.wd original := {
    orderly := orderly_ofSettings settings host
    directory := rfl
    programs := hprograms
    heaps := hheaps
    own := fun doc hdoc => by cases hdoc
    others := fun other doc _ hdoc => by cases hdoc
    closed := fun _ => hfile }
  have hkept : ∀ w w', Changes (·.Harmless uri p host.disk.wd) w w' →
      w.InStep uri p host.disk.wd original → w'.InStep uri p host.disk.wd original :=
    fun _ _ hchanges => hchanges.keep fun _ _ => inStep_change hpath huri hfree
  have hserved : ∀ w' rest, Served w input w' rest → w'.InStep uri p host.disk.wd original :=
    fun w' rest h => hkept w w' (changes_served h hharmless) hstart
  refine ⟨fun w' rest h => ?_, fun hok => ?_⟩
  · have hstep := hserved w' rest h
    have hclose := hkept w' _ (changes_close w' uri) hstep
    exact ⟨fun doc hdoc => ⟨(hstep.own doc hdoc).2.file, (hstep.own doc hdoc).2.text⟩,
      hstep.closed, hclose.closed (get?_close w' uri)⟩
  · obtain ⟨w', rest, hreached, hexit⟩ := exists_exit w input
    have hstep := hserved w' rest hreached
    have hshutdown : w'.shutdown.host.disk.read p = .ok original.toBytes :=
      (hkept w' _ (changes_stripAll w' _) hstep).read_of_bare (bare_shutdown hstep.orderly uri)
    rw [hok] at hexit
    generalize (w.serve input).world = final at hexit ⊢
    -- Both good ends go through the same shutdown.
    cases hexit with
    | endOfInput _ => exact hshutdown
    | disconnect _ hreceive hoff =>
      rw [(shutdown_of_receive hreceive hoff).1]
      exact hshutdown

/-- A machine with one file, on which programs leave no trace. -/
def fileHost : Host :=
  ⟨⟨⟨[([[0x66]], .file (Text.toBytes ['a', 'b']) false)]⟩, []⟩, fun d _ => .ok d,
    .ofString "/tmp"⟩

theorem harmless_pinning {body : Bytes}
    (hbody : Frame.Holds (output (pinning "file:///f" none)) body) :
    ∀ request ∈ Request.ofBody? body, request.Harmless "file:///f" ⟨[0x2F, 0x66]⟩ [] := by
  obtain ⟨m, hm, rfl⟩ := exists_of_holds_output (by decide +kernel) hbody
  intro request hrequest
  simp only [pinning, List.mem_cons, List.not_mem_nil, or_false] at hm
  obtain rfl | rfl := hm
  · obtain ⟨snapshot, hparse, huri, htext⟩ : ∃ snapshot : Snapshot,
        Request.parse "stepsAsDecorationOptions" (some (openingArguments "file:///f" none)) =
          .ok (.storeRun snapshot) ∧ snapshot.uri = "file:///f" ∧ snapshot.text = none :=
      ⟨_, rfl, rfl, rfl⟩
    have hread := ofBody?_text (m := ⟨1, "request", .request "stepsAsDecorationOptions" _⟩)
      (by decide) (fits_openingArguments "file:///f" none)
      (show _ = Content.request _ (some _) from rfl)
    rw [hread, hparse] at hrequest
    obtain rfl := Option.mem_some.mp hrequest
    simp [Request.Harmless, huri, htext]
  · have hread := ofBody?_text (m := ⟨2, "request", .request "addMarkers"
      (some (.object [("uri", .string "file:///f")]))⟩) (by decide) (fits_uri _) rfl
    rw [hread] at hrequest
    obtain rfl := Option.mem_some.mp hrequest
    trivial

/-- An anchor is in the file while its document is open, and then the server takes it out. -/
theorem file_unharmed_of_pinned :
    let w : World := ⟨.ofSettings (.default fileHost.temporary), fileHost⟩
    (w.pinned "file:///f" none).host.disk.read ⟨[0x2F, 0x66]⟩ =
        .ok (Text.toBytes ['a', '\u200b', 'b']) ∧
      ((w.pinned "file:///f" none).dispatch (.close "file:///f")).2.host.disk.read
        ⟨[0x2F, 0x66]⟩ = .ok (Text.toBytes ['a', 'b']) ∧
      (w.serve (output (pinning "file:///f" none))).result = .ok () ∧
      (w.serve (output (pinning "file:///f" none))).world.host.disk.read ⟨[0x2F, 0x66]⟩ =
        .ok (Text.toBytes ['a', 'b']) := by
  intro w
  have hserved : Served w (output (pinning "file:///f" none)) (w.pinned "file:///f" none) [] := by
    rw [← List.append_nil (output _)]
    exact served_pinning (by decide +kernel) (by decide +kernel) (by decide +kernel)
  have hresult : (w.serve (output (pinning "file:///f" none))).result = .ok () := by
    rw [(serve_of_served hserved).1, serve_of_end rfl]
  have hfree : ∀ c ∈ ['a', 'b'], ¬Anchor.isGlyph c := by
    simp [Anchor.isGlyph, Anchor.glyph, Anchor.legacyGlyph]
  obtain ⟨hserving, hend⟩ := file_unharmed (.default fileHost.temporary) fileHost "file:///f"
    ⟨[0x2F, 0x66]⟩ ['a', 'b']
    (output (pinning "file:///f" none)) rfl rfl rfl hfree (by decide +kernel)
    (fun _ _ _ d _ _ hstart => Except.ok.inj hstart ▸ .refl _ d)
    fun _ hbody => harmless_pinning hbody
  exact ⟨by decide +kernel, (hserving _ _ hserved).2.2, hresult, hend hresult⟩

end World

end Waymark
