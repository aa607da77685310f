import Waymark.Proofs.Files.Joining
import Waymark.Proofs.Server.Deeds
import Waymark.Proofs.Server.History

/-! What is in the files of the heap slots. Slots are kept for each document, but their files are
named by the slot alone, in one directory for all documents. So the file of a slot holds what was
last rendered for that slot of any document. -/

namespace Waymark

/-- The first of two properties does not hold of what is found by the second alone, or the same is
found by both. -/
theorem exists_find?_right {α : Type} {l : List α} {p q : α → Bool} {a : α}
    (h : l.find? (fun x => p x && q x) = some a) :
    ∃ b, l.find? q = some b ∧ (b = a ∨ p b = false) := by
  induction l with
  | nil => cases h
  | cons x l ih =>
    rw [List.find?_cons] at h ⊢
    cases hq : q x with
    | false =>
      simp only [hq, Bool.and_false] at h
      exact ih h
    | true =>
      cases hp : p x with
      | false => exact ⟨x, rfl, .inr hp⟩
      | true =>
        simp only [hp, hq, Bool.and_self] at h
        exact ⟨x, rfl, .inl (Option.some.inj h)⟩

/-- A disk on which the descriptions of heaps in a directory are as they were. -/
def Disk.SparesHeaps (dir : Path) (d d' : Disk) : Prop :=
  ∀ slot : Slot, Spares (HeapSlots.dotPath dir slot.index) d d'

/-- What others do on a machine leaves the descriptions of heaps in a directory alone, and lets no
programs in that do not. -/
def Host.SparesHeaps (dir : Path) (h h' : Host) : Prop :=
  Disk.SparesHeaps dir h.disk h'.disk ∧
    ∀ slot : Slot, h'.LeavesAlone (HeapSlots.dotPath dir slot.index)

/-- A path to another file than the descriptions of heaps in a directory. -/
def Path.ApartFromHeaps (q dir : Path) (wd : Place) : Prop :=
  ∀ slot : Slot, (HeapSlots.dotPath dir slot.index).Apart wd q

namespace Renderer
variable {r : Renderer} {h h' : Host} {dir svg : Path} {slot : Slot} {description : String}

/-- What is rendered has been written to the file of its slot, and the file of the other slot is as
it was. -/
theorem read_of_writeAndRender
    (halone : ∀ slot : Slot, h.LeavesAlone (HeapSlots.dotPath dir slot.index))
    (hrender : r.writeAndRender h dir slot.index description = (.ok svg, h')) :
    svg = HeapSlots.svgPath dir slot.index ∧ h'.start = h.start ∧ h'.disk.wd = h.disk.wd ∧
      h'.disk.read (HeapSlots.dotPath dir slot.index) = .ok (Text.toBytes description.toList) ∧
      ∀ slot', slot' ≠ slot → Disk.Spares (HeapSlots.dotPath dir slot'.index) h.disk h'.disk := by
  have hothers : ∀ slot', slot' ≠ slot →
      Disk.Spares (HeapSlots.dotPath dir slot'.index) h.disk h'.disk := by
    intro slot' hne
    have hspares := (spares_writeAndRender r description (halone slot')
      (HeapSlots.apart_dotPath hne) HeapSlots.apart_svgPath).1
    rwa [hrender] at hspares
  have hstart := (spares_writeAndRender r description (halone slot.other)
    (HeapSlots.apart_dotPath Slot.other_ne) HeapSlots.apart_svgPath).2
  rw [hrender] at hstart
  suffices hown : svg = HeapSlots.svgPath dir slot.index ∧
      h'.disk.read (HeapSlots.dotPath dir slot.index) = .ok (Text.toBytes description.toList) from
    ⟨hown.1, hstart, (hothers slot.other Slot.other_ne).wd, hown.2, hothers⟩
  unfold writeAndRender at hrender
  split at hrender
  · cases hrender
  · dsimp only at hrender
    split at hrender
    · cases hrender
    · next disk' hwrite =>
      split at hrender
      · cases hrender
      · next hrun =>
        cases hrender
        obtain ⟨hspares, -⟩ := spares_render (h := { h with disk := disk' })
          (halone slot) HeapSlots.apart_svgPath h' hrun
        exact ⟨rfl, hspares.file _ (Disk.read_of_write hwrite)⟩

end Renderer

theorem HeapSlots.get_empty {slot : Slot} : empty.get slot = none := by cases slot <;> rfl

namespace Session
variable {dir : Path} {b : Buffer}

/-- What is done to the anchors of a document that is apart from the descriptions of heaps leaves
both so. -/
theorem sparesHeaps_attempt (op : Anchor.Operation) (s : Session)
    (hapart : ∀ q ∈ b.document.path, q.ApartFromHeaps dir b.disk.wd) :
    (∀ q ∈ (s.attempt op b).editor.document.path, q.ApartFromHeaps dir b.disk.wd) ∧
      Disk.SparesHeaps dir b.disk (s.attempt op b).editor.disk := by
  have hkept := fun slot : Slot => invariant_attempt
    (Buffer.invariant_spares (HeapSlots.dotPath dir slot.index) b.disk) op s
    ⟨fun q hq => hapart q hq slot, .refl _ _⟩
  exact ⟨fun q hq slot => (hkept slot).1 q hq, fun slot => (hkept slot).2⟩

theorem sparesHeaps_showStates (s : Session)
    (hapart : ∀ q ∈ b.document.path, q.ApartFromHeaps dir b.disk.wd) :
    (∀ q ∈ (s.showStates b).editor.document.path, q.ApartFromHeaps dir b.disk.wd) ∧
      Disk.SparesHeaps dir b.disk (s.showStates b).editor.disk := by
  have hkept := fun slot : Slot => invariant_showStates
    (Buffer.invariant_spares (HeapSlots.dotPath dir slot.index) b.disk) s
    ⟨fun q hq => hapart q hq slot, .refl _ _⟩
  exact ⟨fun q hq slot => (hkept slot).1 q hq, fun slot => (hkept slot).2⟩

end Session

namespace World
variable {directory : Path} {w w' : World} {request : Request} {uri : String}
  {doc : OpenDocument} {drawn : List Rendering} {r : Rendering}

/-- What a run has rendered so far, the latest first. -/
def drawnBy (log : List Occurrence) : List Rendering :=
  log.filterMap fun o => o.before.rendering? o.request

/-- A request that leaves the heaps in a directory to what is rendered there: the settings go on
naming the directory, a document that is opened is in another file, and rendering works. -/
structure Occurrence.Undisturbed (directory : Path) (o : Occurrence) : Prop where
  settings : o.after.server.settings.heapDirectory = directory
  documents : ∀ snapshot editor, o.request = .storeRun snapshot →
    o.before.openEditor snapshot = .ok editor → ∀ q ∈ editor.path,
      q.ApartFromHeaps directory o.before.host.disk.wd
  renders : ∀ r, o.before.rendering? o.request = some r → ∃ reply, o.reply = .ok reply

/-- A heap in a slot of a document: its image is that of the slot, and it was the last to be
rendered for this slot of this document. -/
def Drew (directory : Path) (drawn : List Rendering) (uri : String) (slot : Slot)
    (heap : RenderedHeap) : Prop :=
  heap.svg = HeapSlots.svgPath directory slot.index ∧
    ∃ own, drawn.find? (fun r => r.uri = uri && r.slot = slot) = some own ∧ own.state = heap.state

/-- What holds of a world in which all this was rendered. -/
structure Drawn (directory : Path) (drawn : List Rendering) (w : World) : Prop where
  settings : w.server.settings.heapDirectory = directory
  programs : ∀ slot : Slot,
    w.host.LeavesAlone (HeapSlots.dotPath directory slot.index)
  documents : ∀ uri doc, w.server.documents.get? uri = some doc → ∀ q ∈ doc.editor.path,
    q.ApartFromHeaps directory w.host.disk.wd
  files : ∀ slot latest, drawn.find? (fun r => r.slot = slot) = some latest →
    w.host.disk.read (HeapSlots.dotPath directory slot.index) =
      .ok (Text.toBytes latest.description.toList)
  slots : ∀ uri doc, w.server.documents.get? uri = some doc → ∀ slot heap,
    doc.session.heaps.get slot = some heap → Drew directory drawn uri slot heap

/-- An open document is apart from the heaps, and each heap in its slots was in its slot of the same
document in the world before. -/
structure Inherits (directory : Path) (w : World) (wd : Place) (uri : String)
    (doc : OpenDocument) : Prop where
  apart : ∀ q ∈ doc.editor.path, q.ApartFromHeaps directory wd
  heaps : ∀ slot heap, doc.session.heaps.get slot = some heap → ∃ before,
    w.server.documents.get? uri = some before ∧ before.session.heaps.get slot = some heap

/-- Where nothing is rendered and no heap is new, all is still as it was drawn. -/
theorem Drawn.inherit (h : w.Drawn directory drawn)
    (hsettings : w'.server.settings.heapDirectory = directory)
    (hhost : Disk.SparesHeaps directory w.host.disk w'.host.disk)
    (hprograms : ∀ slot : Slot,
      w'.host.LeavesAlone (HeapSlots.dotPath directory slot.index))
    (hdocuments : ∀ uri doc, w'.server.documents.get? uri = some doc →
      Inherits directory w w.host.disk.wd uri doc) : w'.Drawn directory drawn where
  settings := hsettings
  programs := hprograms
  documents uri doc hdoc q hq := (hhost .first).wd ▸ (hdocuments uri doc hdoc).apart q hq
  files slot latest hlatest := (hhost slot).file _ (h.files slot latest hlatest)
  slots uri doc hdoc slot heap hheap := by
    obtain ⟨before, hbefore, hheap'⟩ := (hdocuments uri doc hdoc).heaps slot heap hheap
    exact h.slots uri before hbefore slot heap hheap'

theorem Drawn.inherits (h : w.Drawn directory drawn)
    (hdoc : w.server.documents.get? uri = some doc) :
    Inherits directory w w.host.disk.wd uri doc :=
  ⟨h.documents uri doc hdoc, fun _ _ hheap => ⟨doc, hdoc, hheap⟩⟩

/-- A request may set the entry of one document; the others are inherited as they are. -/
theorem Drawn.inherits_of_sets {named : String} {entry : Option OpenDocument}
    (h : w.Drawn directory drawn) (hsets : Sets named entry w w')
    (hentry : ∀ doc, entry = some doc → Inherits directory w w.host.disk.wd named doc) :
    ∀ uri doc, w'.server.documents.get? uri = some doc →
      Inherits directory w w.host.disk.wd uri doc := by
  intro uri doc hdoc
  by_cases heq : uri = named
  · subst heq
    exact hentry doc (hsets.entry.symm.trans hdoc)
  · exact h.inherits ((hsets.others uri heq).symm.trans hdoc)

/-- A document without heaps has none that is new. -/
theorem inherits_of_empty {wd : Place}
    (hapart : ∀ q ∈ doc.editor.path, q.ApartFromHeaps directory wd)
    (hempty : doc.session.heaps = .empty) : Inherits directory w wd uri doc where
  apart := hapart
  heaps slot heap hheap := by
    rw [hempty, HeapSlots.get_empty] at hheap
    cases hheap

/-- From one world to the next no heap is drawn: the descriptions in the directory are as they were,
and no heap in a slot is new. -/
structure Undrawn (directory : Path) (w w' : World) : Prop where
  start : w'.host.start = w.host.start
  disk : Disk.SparesHeaps directory w.host.disk w'.host.disk
  documents : ∀ uri doc, w'.server.documents.get? uri = some doc →
    Inherits directory w w.host.disk.wd uri doc

/-- A request draws nothing if it sets the entry of one document without new heaps, and spares the
descriptions. -/
theorem Drawn.undrawn {named : String} {entry : Option OpenDocument} {disk : Disk}
    (h : w.Drawn directory drawn) (hsets : Sets named entry w w')
    (hhost : w'.host = { w.host with disk })
    (hdisk : Disk.SparesHeaps directory w.host.disk disk)
    (hentry : ∀ doc, entry = some doc → Inherits directory w w.host.disk.wd named doc) :
    Undrawn directory w w' where
  start := by rw [hhost]
  disk := by rwa [hhost]
  documents := h.inherits_of_sets hsets hentry

/-- As for `undrawn`, where the document stays open. -/
theorem Drawn.undrawn_of_open {named : String} {disk : Disk} (h : w.Drawn directory drawn)
    (hsets : Sets named (some doc) w w') (hhost : w'.host = { w.host with disk })
    (hdisk : Disk.SparesHeaps directory w.host.disk disk)
    (hentry : Inherits directory w w.host.disk.wd named doc) : Undrawn directory w w' :=
  h.undrawn hsets hhost hdisk fun _ hdoc => Option.some.inj hdoc ▸ hentry

theorem undrawn_dispatch (h : w.Drawn directory drawn) (horderly : w.Orderly)
    (hundisturbed : Occurrence.Undisturbed directory ⟨w, request⟩)
    (hnone : w.rendering? request = none) : Undrawn directory w (w.dispatch request).2 := by
  have hopens := hundisturbed.documents
  have hdeed := deed_dispatch horderly request
  generalize (w.dispatch request).1 = answer, (w.dispatch request).2 = w' at hdeed ⊢
  cases hdeed with
  | aside hsame hhost _ =>
    exact ⟨by rw [hhost], fun _ => hhost ▸ .refl _ _,
      fun uri doc hdoc => h.inherits ((hsame uri).symm.trans hdoc)⟩
  | stored hrequest hopen hsession _ hsets hhost =>
    exact h.undrawn_of_open hsets hhost (fun _ => .refl _ _)
      (inherits_of_empty (hopens _ _ hrequest hopen) (Session.clear_of_storeSnapshot hsession).2)
  | @storedShown _ editor s _ _ _ hrequest hopen hsession ha _ hsets hhost =>
    subst ha
    obtain ⟨hapart, hspares⟩ := s.sparesHeaps_showStates (b := ⟨editor, w.host.disk⟩)
      (hopens _ _ hrequest hopen)
    have hempty := (Session.heaps_showStates s (⟨editor, w.host.disk⟩ : Buffer)).trans
      (Session.clear_of_storeSnapshot hsession).2
    exact h.undrawn_of_open hsets hhost hspares (inherits_of_empty hapart hempty)
  | @shown named doc _ _ _ _ hdoc ha _ hsets hhost =>
    subst ha
    obtain ⟨hapart, hspares⟩ :=
      doc.session.sparesHeaps_showStates (b := w.buffer doc) (h.documents named doc hdoc)
    refine h.undrawn_of_open hsets hhost hspares ⟨hapart, fun slot heap hheap => ⟨doc, hdoc, ?_⟩⟩
    rwa [Session.heaps_showStates] at hheap
  | @hidden named doc _ _ _ hdoc hsets hhost =>
    exact h.undrawn_of_open hsets hhost (fun _ => .refl _ _)
      ⟨h.documents named doc hdoc, fun _ _ hheap => ⟨doc, hdoc, hheap⟩⟩
  | @attempted named doc op _ _ _ _ hdoc ha hsets hhost =>
    subst ha
    obtain ⟨hapart, hspares⟩ :=
      doc.session.sparesHeaps_attempt (b := w.buffer doc) op (h.documents named doc hdoc)
    have hgoesOn := Session.goesOn_attempt op doc.session (w.buffer doc)
    exact h.undrawn_of_open hsets hhost hspares
      ⟨hapart, fun slot heap hheap => ⟨doc, hdoc, hgoesOn.heaps slot heap hheap⟩⟩
  | @closed named doc _ _ _ hdoc hsets hhost =>
    have hspares := fun slot => spares_closedDisk (horderly named doc hdoc).2
      fun q hq => h.documents named doc hdoc q hq slot
    exact h.undrawn hsets hhost hspares fun _ hopen => by cases hopen
  | @moved named doc s _ _ _ hdoc _ hgoesOn hsets hhost =>
    exact h.undrawn_of_open hsets hhost (fun _ => .refl _ _) ⟨h.documents named doc hdoc,
      fun slot heap hheap => ⟨doc, hdoc, hgoesOn.heaps slot heap hheap⟩⟩
  | rendered _ hrendering =>
    rw [hnone] at hrendering
    cases hrendering

/-- A request that renders nothing leaves all as it was drawn. -/
theorem Drawn.unrendered (h : w.Drawn directory drawn) (horderly : w.Orderly)
    (hundisturbed : Occurrence.Undisturbed directory ⟨w, request⟩)
    (hnone : w.rendering? request = none) : (w.dispatch request).2.Drawn directory drawn := by
  have hundrawn := undrawn_dispatch h horderly hundisturbed hnone
  exact h.inherit hundisturbed.settings hundrawn.disk
    (fun slot => (h.programs slot).of_start hundrawn.start) hundrawn.documents

/-- A request that renders a heap does so into the files of its slot, and puts the heap into the
slot. -/
theorem dispatch_of_rendering (horderly : w.Orderly) (hrendering : w.rendering? request = some r)
    (hok : ∃ reply, (w.dispatch request).1 = .ok reply) :
    ∃ (doc : OpenDocument) (s : Session) (renderer : Renderer) (svg : Path) (host : Host),
      w.server.documents.get? r.uri = some doc ∧
      renderer.writeAndRender w.host w.server.settings.heapDirectory r.slot.index
        r.description = (.ok svg, host) ∧
      (w.dispatch request).2.host = host ∧
      Sets r.uri (some { doc with session := s }) w (w.dispatch request).2 ∧
      ∀ slot heap, s.heaps.get slot = some heap →
        slot = r.slot ∧ heap.state = r.state ∧ heap.svg = svg ∨
        slot ≠ r.slot ∧ doc.session.heaps.get slot = some heap := by
  obtain ⟨reply, hreply⟩ := hok
  obtain ⟨⟨wanted, w₁⟩, hasked, hfor⟩ := Option.bind_eq_some_iff.mp hrendering
  obtain ⟨doc, s, hasking⟩ := heapAsked?_eq_some horderly hasked
  obtain rfl := hasking.world
  have own : s.uri = wanted.uri := hasking.same.uri.trans (horderly _ doc hasking.opened).1
  obtain ⟨huri, renderer, s', hworld, -, -, hresult⟩ := answerHeap_of_some
    (get?_setDocument_self w wanted.uri { doc with session := s }) own hfor
  obtain ⟨e, -, he, -⟩ | ⟨svg, method, position, hsvg, hheaps⟩ := hresult
  · obtain ⟨f, hanswer⟩ := hasking.answer
    rw [he] at hanswer
    cases hreply.symm.trans hanswer
  · refine ⟨doc, s', renderer, svg, _, huri ▸ hasking.opened, Prod.ext hsvg rfl, ?_, ?_, ?_⟩
    · rw [hasking.after, hworld]
      rfl
    · rw [hasking.after, hworld, huri]
      exact sets_setDocument _ fun other hne => get?_setDocument_of_ne hne _
    · intro slot heap hheap
      rw [hheaps, HeapSlots.get_store] at hheap
      split at hheap
      · next hslot =>
        obtain rfl := Option.some.inj hheap
        exact .inl ⟨hslot, rfl, rfl⟩
      · next hslot => exact .inr ⟨hslot, hasking.goesOn.heaps slot heap hheap⟩

theorem find?_cons_of_ne {slot : Slot} (h : uri ≠ r.uri ∨ slot ≠ r.slot) :
    (r :: drawn).find? (fun r => r.uri = uri && r.slot = slot) =
      drawn.find? (fun r => r.uri = uri && r.slot = slot) := by
  refine List.find?_cons_of_neg ?_
  rintro hboth
  simp only [Bool.and_eq_true, decide_eq_true_eq] at hboth
  exact h.elim (fun hne => hne hboth.1.symm) fun hne => hne hboth.2.symm

theorem Drawn.rendered (h : w.Drawn directory drawn) (horderly : w.Orderly)
    (hundisturbed : Occurrence.Undisturbed directory ⟨w, request⟩)
    (hrendering : w.rendering? request = some r) :
    (w.dispatch request).2.Drawn directory (r :: drawn) := by
  obtain ⟨doc, s, renderer, svg, host, hdoc, hrender, hhost, hsets, hheaps⟩ :=
    dispatch_of_rendering horderly hrendering (hundisturbed.renders r hrendering)
  rw [h.settings] at hrender
  obtain ⟨rfl, hstart, hwd, hread, hothers⟩ := Renderer.read_of_writeAndRender h.programs hrender
  subst hhost
  have hentry : ∀ uri found, (w.dispatch request).2.server.documents.get? uri = some found →
      uri = r.uri ∧ found = { doc with session := s } ∨
        uri ≠ r.uri ∧ w.server.documents.get? uri = some found := by
    intro uri found hfound
    by_cases heq : uri = r.uri
    · subst heq
      exact .inl ⟨rfl, Option.some.inj (hfound.symm.trans hsets.entry)⟩
    · exact .inr ⟨heq, (hsets.others uri heq).symm.trans hfound⟩
  constructor
  case settings => exact hundisturbed.settings
  case programs => exact fun slot => (h.programs slot).of_start hstart
  case documents =>
    intro uri found hfound
    rw [hwd]
    obtain ⟨rfl, rfl⟩ | ⟨-, hfound⟩ := hentry uri found hfound
    · exact h.documents _ doc hdoc
    · exact h.documents uri found hfound
  case files =>
    intro slot latest hlatest
    by_cases hslot : slot = r.slot
    · subst hslot
      rw [List.find?_cons_of_pos (by simp)] at hlatest
      obtain rfl := Option.some.inj hlatest
      exact hread
    · rw [List.find?_cons_of_neg (by simpa using Ne.symm hslot)] at hlatest
      exact (hothers slot hslot).file _ (h.files slot latest hlatest)
  case slots =>
    intro uri found hfound slot heap hheap
    obtain ⟨rfl, rfl⟩ | ⟨hne, hfound⟩ := hentry uri found hfound
    · obtain ⟨rfl, hstate, hsvg⟩ | ⟨hslot, hbefore⟩ := hheaps slot heap hheap
      · exact ⟨hsvg, r, List.find?_cons_of_pos (by simp), hstate.symm⟩
      · obtain ⟨hsvg, hown⟩ := h.slots _ doc hdoc slot heap hbefore
        exact ⟨hsvg, by rwa [find?_cons_of_ne (.inr hslot)]⟩
    · obtain ⟨hsvg, hown⟩ := h.slots uri found hfound slot heap hheap
      exact ⟨hsvg, by rwa [find?_cons_of_ne (.inl hne)]⟩

/-- A machine may change in other ways, too. -/
theorem Drawn.machine {host : Host} (h : w.Drawn directory drawn)
    (hquiet : w.host.SparesHeaps directory host) :
    World.Drawn directory drawn { w with host } :=
  h.inherit h.settings hquiet.1 hquiet.2 fun _ _ hdoc => h.inherits hdoc

variable {host : Host} {settings : Settings} {log : List Occurrence}

theorem drawn_history
    (h : History (Host.SparesHeaps directory) settings host log w)
    (hsettings : settings.heapDirectory = directory)
    (hprograms : ∀ slot : Slot,
      host.LeavesAlone (HeapSlots.dotPath directory slot.index))
    (hundisturbed : ∀ o ∈ log, o.Undisturbed directory) : w.Drawn directory (drawnBy log) := by
  induction h with
  | start =>
    exact ⟨hsettings, hprograms, fun _ _ hdoc => (nomatch hdoc),
      fun _ _ hlatest => (nomatch hlatest), fun _ _ hdoc => (nomatch hdoc)⟩
  | sent seq _ ih =>
    have h := ih hundisturbed
    exact ⟨h.settings, h.programs, h.documents, h.files, h.slots⟩
  | machine _ hquiet ih => exact (ih hundisturbed).machine hquiet
  | @request log w request h ih =>
    obtain ⟨hthis, hlog⟩ := List.forall_mem_cons.mp hundisturbed
    have hbefore := ih hlog
    cases hrendering : w.rendering? request with
    | none =>
      have hdrawn : drawnBy (⟨w, request⟩ :: log) = drawnBy log :=
        List.filterMap_cons_none hrendering
      exact hdrawn ▸ hbefore.unrendered h.reached.orderly hthis hrendering
    | some r =>
      have hdrawn : drawnBy (⟨w, request⟩ :: log) = r :: drawnBy log :=
        List.filterMap_cons_some hrendering
      exact hdrawn ▸ hbefore.rendered h.reached.orderly hthis hrendering

theorem events_of_redisplay {p : Pointing} {reply : Reply}
    (hdoc : w.server.documents.get? p.uri = some doc) (hreply : (w.point p).1 = .ok reply)
    (hredisplay : reply.body = (Reply.ofAction "redisplay").body) :
    reply.events = heapEvent doc.session p.uri := by
  obtain ⟨-, hignored⟩ | ⟨found, -, hfound, -, -, hanswer, -⟩ | ⟨found, m, current, hasks⟩ :=
    point_cases w p
  · rw [hignored reply hreply] at hredisplay
    exact absurd (Reply.body_ofAction_inj hredisplay) (by decide)
  · obtain rfl := Option.some.inj (hfound.symm.trans hdoc)
    obtain rfl := Except.ok.inj (hanswer.symm.trans hreply)
    rfl
  · have hanswer := (point_of_requestHeap hasks.showing hasks.opened hasks.action).1
    rw [hreply] at hanswer
    unfold Except.map at hanswer
    split at hanswer
    · cases hanswer
    · obtain rfl := Except.ok.inj hanswer
      exact absurd (Reply.body_ofAction_inj hredisplay) (by decide)

/-- As long as the directory of the heaps stays the same, nobody else writes to it, and rendering
works: when a slot of an open document holds a heap, this is the heap of the state that was last
rendered for this slot of this document, and a click that shows it again names the image of the
slot. The file of the slot holds what was last rendered for the slot of any document. This is the
description of the same heap, unless another document has used the slot since. -/
theorem slot_file_latest
    (h : History (Host.SparesHeaps settings.heapDirectory) settings host log w)
    (hprograms : ∀ slot : Slot,
      host.LeavesAlone (HeapSlots.dotPath settings.heapDirectory slot.index))
    (hundisturbed : ∀ o ∈ log, o.Undisturbed settings.heapDirectory) (uri : String)
    (doc : OpenDocument) (hdoc : w.server.documents.get? uri = some doc) (slot : Slot)
    (heap : RenderedHeap) (hheap : doc.session.heaps.get slot = some heap) :
    ∃ own latest, (drawnBy log).find? (fun r => r.uri = uri && r.slot = slot) = some own ∧
      (drawnBy log).find? (fun r => r.slot = slot) = some latest ∧ own.state = heap.state ∧
      w.host.disk.read (HeapSlots.dotPath settings.heapDirectory slot.index) =
        .ok (Text.toBytes latest.description.toList) ∧
      (latest = own ∨ latest.uri ≠ uri) ∧
      (doc.session.heaps.focus = slot → ∀ place reply,
        (w.dispatch (.point ⟨uri, place⟩)).1 = .ok reply →
        reply.body = (Reply.ofAction "redisplay").body →
        reply.events = [.heapGraph uri heap.state
          (HeapSlots.svgPath settings.heapDirectory slot.index) heap.method]) := by
  have hdrawn := drawn_history h rfl hprograms hundisturbed
  obtain ⟨hsvg, own, hown, hstate⟩ := hdrawn.slots uri doc hdoc slot heap hheap
  obtain ⟨latest, hlatest, hsame⟩ := exists_find?_right hown
  refine ⟨own, latest, hown, hlatest, hstate, hdrawn.files slot latest hlatest,
    hsame.imp_right of_decide_eq_false, fun hfocus place reply hreply hredisplay => ?_⟩
  have hfocused : doc.session.heaps.focused = some heap := by
    rw [HeapSlots.focused, hfocus, hheap]
  rw [events_of_redisplay hdoc hreply hredisplay, heapEvent, hfocused, ← hsvg]

/-- A request that was met, went on with the settings, and opened no file. -/
def Occurrence.staysInMemory (directory : Path) (o : Occurrence) : Bool :=
  o.after.server.settings.heapDirectory = directory && o.reply.toOption.isSome &&
    match o.request with
    | .storeRun snapshot => snapshot.text.isSome
    | _ => true

theorem undisturbed_of_staysInMemory {o : Occurrence} (h : o.staysInMemory directory = true) :
    o.Undisturbed directory := by
  unfold Occurrence.staysInMemory at h
  simp only [Bool.and_eq_true, decide_eq_true_eq] at h
  obtain ⟨⟨hsettings, hmet⟩, htext⟩ := h
  refine ⟨hsettings, fun snapshot editor hrequest hopen q hq => ?_, fun _ _ => ?_⟩
  · rw [hrequest] at htext
    obtain ⟨text, htext⟩ := Option.isSome_iff_exists.mp htext
    rw [openEditor, htext] at hopen
    obtain rfl := Except.ok.inj hopen
    cases hq
  · cases hreply : o.reply with
    | ok reply => exact ⟨reply, rfl⟩
    | error e =>
      rw [hreply] at hmet
      cases hmet

theorem leavesAlone_drawingHost (p : Path) : drawingHost.LeavesAlone p :=
  fun _ _ _ d _ _ hstart => Except.ok.inj hstart ▸ .refl p d

/-- Two documents, and the heap of the first state of each: that of the second comes later and is
another one. -/
def sharing : List Request :=
  [.storeRun twoStates,
    .storeRun { twoStates with
      uri := "e"
      steps := twoStates.steps.map fun s => { s with heap := s.heap.map fun _ => "h" } },
    .showHeap ⟨0, "d", 0⟩, .showHeap ⟨0, "e", 0⟩]

/-- The server before the two documents came. -/
def beforeSharing : World := ⟨.ofSettings (drawing false), drawingHost⟩

theorem history_sharing :
    History (Host.SparesHeaps (drawing false).heapDirectory) (drawing false)
      drawingHost (beforeSharing.occurrences [] sharing) (beforeSharing.dispatchAll sharing) :=
  History.start.dispatchAll _

theorem undisturbed_sharing :
    ∀ o ∈ beforeSharing.occurrences [] sharing, o.Undisturbed (drawing false).heapDirectory := by
  have hall : (beforeSharing.occurrences [] sharing).all
      (·.staysInMemory (drawing false).heapDirectory) = true := by decide +kernel
  exact fun o ho => undisturbed_of_staysInMemory (List.all_eq_true.mp hall o ho)

/-- The file of the first slot holds the heap of the document that was shown last. -/
theorem slot_file_latest_of_second :
    let w := beforeSharing.dispatchAll sharing
    let log := beforeSharing.occurrences [] sharing
    ∃ doc heap, w.server.documents.get? "e" = some doc ∧
      doc.session.heaps.get .first = some heap ∧
      ∃ own latest, (drawnBy log).find? (fun r => r.uri = "e" && r.slot = .first) = some own ∧
        (drawnBy log).find? (fun r => r.slot = .first) = some latest ∧ own.state = heap.state ∧
        w.host.disk.read (HeapSlots.dotPath (drawing false).heapDirectory 0) =
          .ok (Text.toBytes latest.description.toList) ∧ latest.description = "h" := by
  intro w log
  have hheap : (w.server.documents.get? "e").bind (·.session.heaps.get .first) ≠ none := by
    decide +kernel
  obtain ⟨heap, hheap⟩ := Option.ne_none_iff_exists'.mp hheap
  obtain ⟨doc, hdoc, hheap⟩ := Option.bind_eq_some_iff.mp hheap
  obtain ⟨own, latest, hown, hlatest, hstate, hread, -⟩ := slot_file_latest history_sharing
    (fun _ => leavesAlone_drawingHost _) undisturbed_sharing "e" doc hdoc .first heap hheap
  have hdescription : ((drawnBy log).find? (fun r => r.slot = .first)).map (·.description) =
    some "h" := by decide +kernel
  rw [hlatest] at hdescription
  exact ⟨doc, heap, hdoc, hheap, own, latest, hown, hlatest, hstate, hread,
    Option.some.inj hdescription⟩

/-- The first document still has its heap in the first slot and a click shows it again, but the file
of the slot holds the heap of the second one. -/
theorem slot_file_of_other :
    let w := beforeSharing.dispatchAll sharing
    let log := beforeSharing.occurrences [] sharing
    let dir := (drawing false).heapDirectory
    History (Host.SparesHeaps dir) (drawing false) drawingHost log w ∧
    (∀ slot : Slot, drawingHost.LeavesAlone (HeapSlots.dotPath dir slot.index)) ∧
    (∀ o ∈ log, o.Undisturbed (drawing false).heapDirectory) ∧
    (w.server.documents.get? "d").bind (fun doc =>
      (doc.session.heaps.get .first).map (·.state)) = some 0 ∧
    (drawnBy log).find? (fun r => r.uri = "d" && r.slot = .first) = some ⟨"d", .first, 0, "g"⟩ ∧
    (w.host.disk.read (HeapSlots.dotPath dir 0)).toOption = some (Text.toBytes "h".toList) ∧
    (w.dispatch (.point ⟨"d", ⟨0, 0⟩⟩)).1.toOption.map (·.events) =
      some [.heapGraph "d" 0 (HeapSlots.svgPath dir 0) none] :=
  ⟨history_sharing, fun _ => leavesAlone_drawingHost _, undisturbed_sharing, by decide +kernel,
    by decide +kernel, by decide +kernel, by decide +kernel⟩

end World

end Waymark
