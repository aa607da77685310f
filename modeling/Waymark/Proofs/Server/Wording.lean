import Waymark.Proofs.Server.Deeds
import Waymark.Proofs.Settings

/-! Answers that can be written. As long as the directory of the heaps is text, so are the paths of
all images in it, and whatever is laid over the settings, the directory stays text. If it is not
text, nothing can be laid over the settings, so without a program that renders there will never be
one. What is told of a heap is told of one on display, so every answer can be sent as a whole. -/

namespace Waymark

/-- Heaps go to a directory that is text, or there is no program that renders them. -/
def Settings.Spelled (s : Settings) : Prop := s.heapDirectory.IsText ∨ s.rendererCommand? = none

/-- All images that a session holds are at paths that are text. -/
def Session.Spelled (s : Session) : Prop :=
  ∀ slot heap, s.heaps.get slot = some heap → heap.svg.IsText

namespace Session
variable {s s' : Session}

theorem Spelled.of_heaps (h : s.Spelled)
    (hheaps : ∀ slot heap, s'.heaps.get slot = some heap → s.heaps.get slot = some heap) :
    s'.Spelled :=
  fun slot heap hheap => h slot heap (hheaps slot heap hheap)

theorem spelled_of_empty (h : s.heaps = .empty) : s.Spelled := by
  intro slot heap hheap
  rw [h] at hheap
  cases slot <;> cases hheap

end Session

namespace World
variable {w w' : World} {request : Request} {named : String} {entry : Option OpenDocument}

/-- Heaps that are rendered go to a directory that is text, and those on display or before are at
paths that are. -/
structure Spelled (w : World) : Prop where
  settings : w.server.settings.Spelled
  images : ∀ uri doc, w.server.documents.get? uri = some doc → doc.session.Spelled

theorem spelled_ofSettings {settings : Settings} (h : settings.Spelled) (host : Host) :
    Spelled ⟨.ofSettings settings, host⟩ :=
  ⟨h, fun _ _ hdoc => nomatch hdoc⟩

theorem settings_spelled_dispatch (h : w.server.settings.Spelled) (request : Request) :
    (w.dispatch request).2.server.settings.Spelled := by
  by_cases hconfigure : ∀ value, request ≠ .configure value
  · obtain ⟨documents, runs, flag, hserver⟩ := server_dispatch hconfigure w
    rw [hserver]
    exact h
  · simp only [ne_eq, not_forall, not_not] at hconfigure
    obtain ⟨value, rfl⟩ := hconfigure
    unfold dispatch configure
    dsimp only
    split
    · exact h
    · next settings hmerge => exact .inl (Settings.isText_of_merge hmerge)

/-- Where something is rendered, there is a program for it, so it is rendered to a directory that is
text. -/
theorem isText_of_rendering {r : Rendering} (h : w.server.settings.Spelled) (horderly : w.Orderly)
    (hrendering : w.rendering? request = some r) : w.server.settings.heapDirectory.IsText := by
  obtain htext | hprogram := h
  · exact htext
  · obtain ⟨⟨wanted, w₁⟩, hasked, hr⟩ := Option.bind_eq_some_iff.mp hrendering
    obtain ⟨doc, s, hasking⟩ := heapAsked?_eq_some horderly hasked
    have hsettings : w₁.server.settings = w.server.settings := hasking.world ▸ rfl
    have hnone : Renderer.ofSettings w₁.host.disk w₁.server.settings =
        .error (.missingTool none) := by
      rw [Renderer.ofSettings, hsettings, hprogram]
    dsimp only [renderingFor?] at hr
    split at hr
    · next hrenderer _ => cases hnone.symm.trans hrenderer
    · cases hr

theorem Spelled.images_of_sets (h : w.Spelled) (hsets : Sets named entry w w')
    (hentry : ∀ doc, entry = some doc → doc.session.Spelled) :
    ∀ uri doc, w'.server.documents.get? uri = some doc → doc.session.Spelled := by
  intro uri doc hdoc
  by_cases heq : uri = named
  · subst heq
    exact hentry doc (hsets.entry.symm.trans hdoc)
  · exact h.images uri doc ((hsets.others uri heq).symm.trans hdoc)

/-- As for `images_of_sets`, where the document stays open. -/
theorem Spelled.images_of_open {doc : OpenDocument} (h : w.Spelled)
    (hsets : Sets named (some doc) w w') (hdoc : doc.session.Spelled) :
    ∀ uri doc, w'.server.documents.get? uri = some doc → doc.session.Spelled :=
  h.images_of_sets hsets fun _ heq => Option.some.inj heq ▸ hdoc

theorem Spelled.dispatch (h : w.Spelled) (horderly : w.Orderly) (request : Request) :
    (w.dispatch request).2.Spelled := by
  refine ⟨settings_spelled_dispatch h.settings request, ?_⟩
  have hdeed := deed_dispatch horderly request
  generalize (w.dispatch request).1 = answer, (w.dispatch request).2 = w' at hdeed ⊢
  cases hdeed with
  | aside hsame _ _ => exact fun uri doc hdoc => h.images uri doc ((hsame uri).symm.trans hdoc)
  | stored _ _ hsession _ hsets _ =>
    exact h.images_of_open hsets
      (Session.spelled_of_empty (Session.clear_of_storeSnapshot hsession).2)
  | storedShown _ _ hsession ha _ hsets _ =>
    subst ha
    exact h.images_of_open hsets (Session.spelled_of_empty
      ((Session.heaps_showStates _ _).trans (Session.clear_of_storeSnapshot hsession).2))
  | @shown named doc _ _ _ _ hdoc ha _ hsets _ =>
    subst ha
    refine h.images_of_open hsets ((h.images named doc hdoc).of_heaps fun slot heap hheap => ?_)
    rwa [Session.heaps_showStates] at hheap
  | @hidden named doc _ _ _ hdoc hsets _ =>
    exact h.images_of_open hsets ((h.images named doc hdoc).of_heaps fun _ _ hheap => hheap)
  | @attempted named doc op _ _ _ _ hdoc ha hsets _ =>
    subst ha
    exact h.images_of_open hsets ((h.images named doc hdoc).of_heaps
      (Session.goesOn_attempt op doc.session (w.buffer doc)).heaps)
  | closed _ _ hsets _ => exact h.images_of_sets hsets fun _ hdoc => nomatch hdoc
  | @moved named doc _ _ _ _ hdoc _ hgoesOn hsets _ =>
    exact h.images_of_open hsets ((h.images named doc hdoc).of_heaps hgoesOn.heaps)
  | @rendered r doc _ _ _ _ hrendering hdoc _ _ hsets hheaps =>
    have htext := isText_of_rendering h.settings horderly hrendering
    refine h.images_of_open hsets fun slot heap hheap => ?_
    obtain hbefore | hsvg := hheaps slot heap hheap
    · exact h.images _ doc hdoc slot heap hbefore
    · exact hsvg ▸ HeapSlots.isText_svgPath htext _

/-- What a request tells of a heap is told of one that is on display when it is done. -/
def OnDisplay (handled : Handled) : Prop :=
  ∀ reply, handled.1 = .ok reply → ∀ uri state svg method,
    .heapGraph uri state svg method ∈ reply.events → ∃ doc heap,
      handled.2.server.documents.get? uri = some doc ∧ doc.session.heaps.focused = some heap ∧
      heap.state = state ∧ heap.svg = svg ∧ heap.method = method

theorem onDisplay_error (e : Error) (w : World) : OnDisplay (.error e, w) :=
  fun _ h => nomatch h

theorem onDisplay_of_events {reply : Reply} (h : ∀ event ∈ reply.events,
    ∃ uri ms, event = .setDecorations uri ms) (w : World) : OnDisplay (.ok reply, w) := by
  intro reply' hreply uri state svg method hmem
  obtain rfl := Except.ok.inj hreply
  obtain ⟨uri', ms, heq⟩ := h _ hmem
  cases heq

theorem onDisplay_silent {reply : Reply} (h : reply.events = []) (w : World) :
    OnDisplay (.ok reply, w) :=
  onDisplay_of_events (by simp [h]) w

theorem onDisplay_decorations (body : Option Json) (s : Session) (dark : Bool) (uri : String)
    (w : World) : OnDisplay (.ok ⟨body, [decorations s dark uri]⟩, w) :=
  onDisplay_of_events (fun _ hmem => ⟨_, _, List.mem_singleton.mp hmem⟩) w

theorem exists_of_mem_heapEvent {s : Session} {uri uri' : String} {state : Nat} {svg : Path}
    {method : Option String} (h : .heapGraph uri state svg method ∈ heapEvent s uri') :
    uri = uri' ∧ ∃ heap, s.heaps.focused = some heap ∧ heap.state = state ∧ heap.svg = svg ∧
      heap.method = method := by
  unfold heapEvent at h
  split at h
  · cases h
  · next heap hfocused =>
    cases List.mem_singleton.mp h
    exact ⟨rfl, heap, hfocused, rfl, rfl, rfl⟩

/-- The heap on display in a document that is set may be told. -/
theorem onDisplay_heapEvent {doc : OpenDocument} {reply : Reply} {uri : String}
    (h : ∀ event ∈ reply.events, event ∈ heapEvent doc.session uri ∨
      ∃ uri ms, event = .setDecorations uri ms) (w : World) :
    OnDisplay (.ok reply, w.setDocument uri doc) := by
  intro reply' hreply uri' state svg method hmem
  obtain rfl := Except.ok.inj hreply
  obtain hheap | ⟨_, _, heq⟩ := h _ hmem
  · obtain ⟨rfl, heap, hfocused, hsame⟩ := exists_of_mem_heapEvent hheap
    exact ⟨doc, heap, get?_setDocument_self _ _ _, hfocused, hsame⟩
  · cases heq

theorem onDisplay_answerHeap (w : World) (request : HeapRequest) :
    OnDisplay (w.answerHeap request) := by
  unfold answerHeap
  split
  · exact onDisplay_silent rfl _
  · dsimp only
    split
    · exact onDisplay_error _ _
    · split
      · exact onDisplay_error _ _
      · split
        · exact onDisplay_error _ _
        · exact onDisplay_silent rfl _
        · refine onDisplay_heapEvent (fun event hmem => ?_) _
          exact (List.mem_append.mp hmem).imp_right fun hlast =>
            ⟨_, _, List.mem_singleton.mp hlast⟩

theorem onDisplay_storeRun (w : World) (snapshot : Snapshot) : OnDisplay (w.storeRun snapshot) := by
  unfold storeRun
  dsimp only
  split
  · exact onDisplay_error _ _
  · split
    · exact onDisplay_error _ _
    · split
      · split
        · exact onDisplay_error _ _
        · exact onDisplay_decorations _ _ _ _ _
      · exact onDisplay_silent rfl _

theorem onDisplay_showHeap (w : World) (wanted : HeapRequest) : OnDisplay (w.showHeap wanted) := by
  unfold showHeap
  split
  · split
    · exact onDisplay_error _ _
    · split
      · exact onDisplay_answerHeap _ _
      · exact onDisplay_error _ _
  · exact onDisplay_silent rfl _

theorem onDisplay_pin (w : World) (op : Anchor.Operation) (uri : String) :
    OnDisplay (w.pin op uri) := by
  unfold pin
  split
  · exact onDisplay_error _ _
  · next doc _ =>
    dsimp only
    cases (doc.session.attempt op (w.buffer doc)).outcome with
    | error e => exact onDisplay_error _ _
    | ok outcome => exact onDisplay_silent rfl _

theorem onDisplay_point (w : World) (p : Pointing) : OnDisplay (w.point p) := by
  unfold point
  split
  · split
    · exact onDisplay_error _ _
    · next doc _ =>
      dsimp only
      split
      · exact onDisplay_silent rfl _
      · exact onDisplay_heapEvent (fun _ hmem => .inl hmem) _
      · next request _ =>
        have hanswer := onDisplay_answerHeap (w.setDocument p.uri { doc with
          session := (doc.session.onPosition p.position w.server.settings.mode).2 }) request
        split
        · exact onDisplay_error _ _
        · next reply w' heq =>
          rw [heq] at hanswer
          intro reply' hreply
          obtain rfl := Except.ok.inj hreply
          exact hanswer reply rfl
  · exact onDisplay_silent rfl _

theorem onDisplay_dispatch (w : World) (request : Request) : OnDisplay (w.dispatch request) := by
  cases request with
  | configure value =>
    unfold dispatch configure
    dsimp only
    split
    · exact onDisplay_error _ _
    · exact onDisplay_silent rfl _
  | storeRun snapshot => exact onDisplay_storeRun w snapshot
  | getTrace request => exact onDisplay_silent rfl _
  | showHeap wanted => exact onDisplay_showHeap w wanted
  | point p => exact onDisplay_point w p
  | showStates uri =>
    unfold dispatch showStates
    dsimp only
    split
    · exact onDisplay_error _ _
    · split
      · exact onDisplay_error _ _
      · exact onDisplay_decorations _ _ _ _ _
  | hideStates uri =>
    unfold dispatch hideStates
    dsimp only
    split
    · exact onDisplay_error _ _
    · exact onDisplay_of_events (fun _ hmem => ⟨_, _, List.mem_singleton.mp hmem⟩) _
  | addMarkers uri => exact onDisplay_pin w .add uri
  | removeMarkers uri => exact onDisplay_pin w .remove uri
  | close uri =>
    unfold dispatch close
    dsimp only
    split
    · exact onDisplay_error _ _
    · split
      · exact onDisplay_error _ _
      · exact onDisplay_silent rfl _
  | stop uri => exact onDisplay_silent rfl _
  | disconnect => exact onDisplay_silent rfl _

/-- All events of an answer can be written while all images are at paths that are text. -/
theorem Spelled.isText_events (h : w.Spelled) (horderly : w.Orderly) {reply : Reply}
    (hreply : (w.dispatch request).1 = .ok reply) : ∀ event ∈ reply.events, event.IsText := by
  intro event hmem
  cases event with
  | heapGraph uri state svg method =>
    obtain ⟨doc, heap, hdoc, hfocused, -, rfl, -⟩ :=
      onDisplay_dispatch w request reply hreply uri state svg method hmem
    exact (h.dispatch horderly request).images uri doc hdoc _ heap hfocused
  | _ => trivial

/-- So the whole answer to a request is sent. -/
theorem Spelled.handle_sends (h : w.Spelled) (horderly : w.Orderly) (seq : Nat) (command : String)
    (arguments : Option Json) (e : Error) : (w.handle seq command arguments).goesOn ≠ .error e := by
  intro hunsent
  obtain ⟨request, reply, -, hreply, event, hmem, hevent⟩ := unsent_of_handle hunsent
  exact (eventContent_eq_error hevent).2 (h.isText_events horderly hreply event hmem)

theorem Spelled.respond (h : w.Spelled) (contents : List (Except Error Content)) :
    (w.respond contents).world.Spelled := by
  rw [world_respond]
  exact ⟨h.settings, h.images⟩

theorem Spelled.handle (h : w.Spelled) (horderly : w.Orderly) {seq : Nat} {command : String}
    {arguments : Option Json} (hon : (w.handle seq command arguments).goesOn = .ok true) :
    (w.handle seq command arguments).world.Spelled := by
  revert hon
  fun_cases World.handle w seq command arguments with
  | case1 e hparse ms w' hsend =>
    intro _
    have hworld := world_sendAll w [.response seq false command (some e.message) none]
    rw [hsend] at hworld
    subst hworld
    exact ⟨h.settings, h.images⟩
  | case2 =>
    intro hon
    cases hon
  | case3 request _ hparse reply w' hdispatch =>
    intro _
    have hafter := h.dispatch horderly request
    rw [hdispatch] at hafter
    exact hafter.respond _
  | case4 request _ hparse e w' hdispatch =>
    intro _
    have hafter := h.dispatch horderly request
    rw [hdispatch] at hafter
    exact hafter.respond _

end World

end Waymark
