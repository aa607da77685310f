import Waymark.Proofs.Server.Leaving

/-! How messages are numbered. Each is sent under the number after the last one, and what requests
do in between does not count: they change the documents, the runs and the settings. -/

namespace Waymark

namespace Message
variable {n : Nat}

/-- Contents as they are sent one after the other, once `n` messages have been sent. -/
def numbered (n : Nat) : List Content → List Message
  | [] => []
  | c :: cs => ⟨n + 1, c.kind, c⟩ :: numbered (n + 1) cs

theorem numbered_append (n : Nat) (cs ds : List Content) :
    numbered n (cs ++ ds) = numbered n cs ++ numbered (n + cs.length) ds := by
  induction cs generalizing n with
  | nil => rfl
  | cons c cs ih =>
    have hlast : n + (cs.length + 1) = n + 1 + cs.length := by omega
    rw [List.cons_append, numbered, ih, numbered, List.length_cons, List.cons_append, hlast]

theorem seq_numbered (n : Nat) (cs : List Content) :
    (numbered n cs).map (·.seq) = List.range' (n + 1) cs.length := by
  induction cs generalizing n with
  | nil => rfl
  | cons c cs ih =>
    rw [numbered, List.map_cons, ih, List.length_cons, List.range'_succ]

theorem content_numbered (n : Nat) (cs : List Content) :
    (numbered n cs).map (·.content) = cs := by
  induction cs generalizing n with
  | nil => rfl
  | cons c cs ih => rw [numbered, List.map_cons, ih]

theorem type_of_mem_numbered {cs : List Content} {m : Message} (h : m ∈ numbered n cs) :
    m.type = m.content.kind := by
  induction cs generalizing n with
  | nil => cases h
  | cons c cs ih =>
    obtain rfl | h := List.mem_cons.mp h
    · rfl
    · exact ih h

end Message

namespace World
variable {w w' : World}

theorem server_configure (w : World) (value : Json) :
    ∃ settings, (w.configure value).2.server = { w.server with settings } := by
  unfold configure
  split
  · exact ⟨_, rfl⟩
  · exact ⟨_, rfl⟩

theorem server_storeRun (w : World) (snapshot : Snapshot) :
    ∃ documents runs, (w.storeRun snapshot).2.server = { w.server with documents, runs } := by
  unfold storeRun
  dsimp only
  split
  · exact ⟨_, _, rfl⟩
  · split
    · exact ⟨_, _, rfl⟩
    · split
      · split <;> next heq => exact ⟨_, _, (congrArg (·.2.2.server) heq).symm⟩
      · exact ⟨_, _, rfl⟩

theorem server_answerHeap (w : World) (request : HeapRequest) :
    ∃ documents, (w.answerHeap request).2.server = { w.server with documents } := by
  unfold answerHeap
  split
  · exact ⟨_, rfl⟩
  · dsimp only
    split
    · exact ⟨_, rfl⟩
    · split
      · exact ⟨_, rfl⟩
      · split <;> exact ⟨_, rfl⟩

theorem server_showHeap (w : World) (wanted : HeapRequest) :
    ∃ documents, (w.showHeap wanted).2.server = { w.server with documents } := by
  unfold showHeap
  split
  · split
    · exact ⟨_, rfl⟩
    · split
      · exact server_answerHeap _ _
      · exact ⟨_, rfl⟩
  · exact ⟨_, rfl⟩

theorem server_point (w : World) (p : Pointing) :
    ∃ documents, (w.point p).2.server = { w.server with documents } := by
  unfold point
  split
  · split
    · exact ⟨_, rfl⟩
    · next doc _ =>
      dsimp only
      split
      · exact ⟨_, rfl⟩
      · exact ⟨_, rfl⟩
      · next request _ =>
        have hanswered : ∃ documents, _ = { w.server with documents } :=
          server_answerHeap (w.setDocument p.uri { doc with
            session := (doc.session.onPosition p.position w.server.settings.mode).2 }) request
        split <;> next heq => exact congrArg (·.2) heq ▸ hanswered
  · exact ⟨_, rfl⟩

theorem server_showStates (w : World) (uri : String) :
    ∃ documents, (w.showStates uri).2.server =
      { (w.setShowStates true).server with documents } := by
  unfold showStates
  dsimp only
  split
  · exact ⟨_, rfl⟩
  · split <;> next heq => exact ⟨_, (congrArg (·.2.2.server) heq).symm⟩

theorem server_hideStates (w : World) (uri : String) :
    ∃ documents, (w.hideStates uri).2.server =
      { (w.setShowStates false).server with documents } := by
  unfold hideStates
  dsimp only
  split <;> exact ⟨_, rfl⟩

theorem server_pin (w : World) (op : Anchor.Operation) (uri : String) :
    ∃ documents, (w.pin op uri).2.server = { w.server with documents } := by
  unfold pin
  split <;> exact ⟨_, rfl⟩

theorem server_close (w : World) (uri : String) :
    ∃ documents runs, (w.close uri).2.server = { w.server with documents, runs } := by
  unfold close
  split
  · exact ⟨_, _, rfl⟩
  · next doc _ =>
    have hserver := server_closeEditor (w.forget uri) doc
    dsimp only
    split <;> next heq =>
      have hcleared := (congrArg (·.2.server) heq).symm.trans hserver
      dsimp only [withServer] at hcleared ⊢
      exact ⟨_, _, by rw [hcleared]; rfl⟩

/-- Besides the documents and the runs, a request can only change whether states are shown, unless
settings are laid over. -/
theorem server_dispatch {request : Request} (h : ∀ value, request ≠ .configure value) (w : World) :
    ∃ documents runs flag, (w.dispatch request).2.server =
      { (w.setShowStates flag).server with documents, runs } := by
  have hkept {w' : World} (hw' : ∃ documents, w'.server = { w.server with documents }) :
      ∃ documents runs flag,
        w'.server = { (w.setShowStates flag).server with documents, runs } := by
    obtain ⟨documents, hw'⟩ := hw'
    exact ⟨documents, w.server.runs, w.server.settings.showStates, hw'⟩
  cases request with
  | configure value => exact absurd rfl (h value)
  | storeRun snapshot =>
    obtain ⟨documents, runs, hserver⟩ := server_storeRun w snapshot
    exact ⟨documents, runs, _, hserver⟩
  | getTrace request => exact ⟨_, _, _, rfl⟩
  | showHeap wanted => exact hkept (server_showHeap w wanted)
  | point p => exact hkept (server_point w p)
  | showStates uri =>
    obtain ⟨documents, hserver⟩ := server_showStates w uri
    exact ⟨documents, _, true, hserver⟩
  | hideStates uri =>
    obtain ⟨documents, hserver⟩ := server_hideStates w uri
    exact ⟨documents, _, false, hserver⟩
  | addMarkers uri => exact hkept (server_pin w .add uri)
  | removeMarkers uri => exact hkept (server_pin w .remove uri)
  | close uri =>
    obtain ⟨documents, runs, hserver⟩ := server_close w uri
    exact ⟨documents, runs, _, hserver⟩
  | stop uri => exact ⟨_, _, _, rfl⟩
  | disconnect => exact ⟨_, _, _, rfl⟩

/-- What a request does to the server does not count as a message. -/
theorem seq_dispatch (w : World) (request : Request) :
    (w.dispatch request).2.server.seq = w.server.seq := by
  by_cases hconfigure : ∀ value, request ≠ .configure value
  · obtain ⟨documents, runs, flag, hserver⟩ := server_dispatch hconfigure w
    rw [hserver]
    rfl
  · simp only [ne_eq, not_forall, not_not] at hconfigure
    obtain ⟨value, rfl⟩ := hconfigure
    obtain ⟨settings, hserver⟩ := server_configure w value
    rw [dispatch, hserver]

theorem seq_stripAll (w : World) (uris : List String) :
    (w.stripAll uris).server.seq = w.server.seq := by
  induction uris generalizing w with
  | nil => rfl
  | cons uri uris ih =>
    unfold stripAll
    split
    · exact ih w
    · exact ih _

theorem messages_sendAll (w : World) (cs : List Content) :
    (w.sendAll cs).1 = Message.numbered w.server.seq cs := by
  induction cs generalizing w with
  | nil => rfl
  | cons c cs ih => exact congrArg _ (ih (w.send c).2)

/-- Nothing but the number of the last message is another once messages are sent. -/
theorem world_sendAll (w : World) (cs : List Content) :
    (w.sendAll cs).2 = w.withServer { w.server with seq := w.server.seq + cs.length } := by
  induction cs generalizing w with
  | nil => rfl
  | cons c cs ih =>
    have hlast : w.server.seq + 1 + cs.length = w.server.seq + (c :: cs).length := by
      rw [List.length_cons]
      omega
    calc
      _ = w.withServer { w.server with seq := w.server.seq + 1 + cs.length } := ih (w.send c).2
      _ = w.withServer { w.server with seq := w.server.seq + (c :: cs).length } := by rw [hlast]

theorem seq_sendAll (w : World) (cs : List Content) :
    (w.sendAll cs).2.server.seq = w.server.seq + cs.length :=
  congrArg (·.server.seq) (world_sendAll w cs)

theorem world_respond (w : World) (contents : List (Except Error Content)) :
    (w.respond contents).world =
      w.withServer { w.server with seq := w.server.seq + (sendable contents).1.length } :=
  world_sendAll w _

/-- An answer that sends a block of contents, once `n` messages have been sent. -/
structure Answer.Sends (answer : Answer) (n : Nat) (block : List Content) : Prop where
  messages : answer.messages = Message.numbered n block
  seq : answer.world.server.seq = n + block.length

theorem sends_sendAll {n : Nat} {cs : List Content} {ms : List Message} (hseq : w.server.seq = n)
    (hsend : w.sendAll cs = (ms, w')) (on : Except Error Bool) :
    Answer.Sends ⟨ms, on, w'⟩ n cs := by
  subst hseq
  have hmessages := messages_sendAll w cs
  have hlast := seq_sendAll w cs
  rw [hsend] at hmessages hlast
  exact ⟨hmessages, hlast⟩

theorem sends_respond {n : Nat} (hseq : w.server.seq = n) (contents : List (Except Error Content)) :
    (w.respond contents).Sends n (sendable contents).1 :=
  sends_sendAll hseq rfl _

end World

end Waymark
