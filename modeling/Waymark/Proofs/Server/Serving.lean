import Waymark.Proofs.Exchange.Event
import Waymark.Proofs.Exchange.Message
import Waymark.Proofs.Server.Changes

/-! How serving goes and how it ends. The messages of the input are answered one by one, and then
the server leaves in one of five ways. -/

namespace Waymark

/-- A stream holds a body if the body can be read after those before it. -/
inductive Frame.Holds : (input : Bytes) → (body : Bytes) → Prop
  | first {input body rest : Bytes} : Frame.next input = .ok (some (body, rest)) →
      Holds input body
  | later {input other rest body : Bytes} : Frame.next input = .ok (some (other, rest)) →
      Holds rest body → Holds input body

/-- The request that is carried out when a body arrives, if one is. -/
def Request.ofBody? (body : Bytes) : Option Request :=
  match World.readBody body with
  | .ok ⟨_, _, .request command arguments⟩ => (Request.parse command arguments).toOption
  | _ => none

namespace World
variable {allowed : Request → Prop} {w w' : World} {input body rest rest' : Bytes} {answer : Answer}
  {result : Except Error Unit}

/-- Some messages of the input have been answered, and the server waits for the rest. -/
inductive Served (w : World) (input : Bytes) : World → Bytes → Prop
  | start : Served w input w input
  | next {w' : World} {rest body rest' : Bytes} {answer : Answer} : Served w input w' rest →
      Frame.next rest = .ok (some (body, rest')) → w'.receive body = .ok answer →
      answer.goesOn = .ok true → Served w input answer.world rest'

/-- How the server leaves when it waits for the rest of the input. -/
inductive Exit (w : World) (rest : Bytes) : Except Error Unit → World → Prop
  | badFrame {e : Error} : Frame.next rest = .error e → Exit w rest (.error e) w
  | badBody {e : Error} {body rest' : Bytes} : Frame.next rest = .ok (some (body, rest')) →
      w.receive body = .error e → Exit w rest (.error e) w
  | endOfInput : Frame.next rest = .ok none → Exit w rest (.ok ()) w.shutdown
  | disconnect {body rest' : Bytes} {answer : Answer} :
      Frame.next rest = .ok (some (body, rest')) → w.receive body = .ok answer →
      answer.goesOn = .ok false → Exit w rest (.ok ()) answer.world
  | unsent {e : Error} {body rest' : Bytes} {answer : Answer} :
      Frame.next rest = .ok (some (body, rest')) → w.receive body = .ok answer →
      answer.goesOn = .error e → Exit w rest (.error e) answer.world

theorem Served.head (hnext : Frame.next input = .ok (some (body, rest)))
    (hreceive : w.receive body = .ok answer) (hon : answer.goesOn = .ok true)
    (h : Served answer.world rest w' rest') : Served w input w' rest' := by
  induction h with
  | start => exact .next .start hnext hreceive hon
  | next _ hnext' hreceive' hon' ih => exact ih.next hnext' hreceive' hon'

/-- Serving answers some messages and then leaves. -/
theorem exists_exit (w : World) (input : Bytes) : ∃ w' rest, Served w input w' rest ∧
    Exit w' rest (w.serve input).result (w.serve input).world := by
  fun_induction serve w input with
  | case1 w input e hnext => exact ⟨w, input, .start, .badFrame hnext⟩
  | case2 w input hnext => exact ⟨w, input, .start, .endOfInput hnext⟩
  | case3 w input body rest hnext e hreceive =>
    exact ⟨w, input, .start, .badBody hnext hreceive⟩
  | case4 w input body rest hnext answer hreceive e hunsent =>
    exact ⟨w, input, .start, .unsent hnext hreceive hunsent⟩
  | case5 w input body rest hnext answer hreceive hon run ih =>
    obtain ⟨w', rest', hserved, hexit⟩ := ih
    exact ⟨w', rest', .head hnext hreceive hon hserved, hexit⟩
  | case6 w input body rest hnext answer hreceive hoff =>
    exact ⟨w, input, .start, .disconnect hnext hreceive hoff⟩

/-- After an answer that does not stop it, the server serves the rest. -/
theorem serve_of_next (hnext : Frame.next input = .ok (some (body, rest)))
    (hreceive : w.receive body = .ok answer) :
    w.serve input =
      match answer.goesOn with
      | .error e => ⟨.error e, answer.messages, answer.world⟩
      | .ok true =>
        { answer.world.serve rest with
          messages := answer.messages ++ (answer.world.serve rest).messages }
      | .ok false => ⟨.ok (), answer.messages, answer.world⟩ := by
  rw [serve]
  split
  · next hnext' => simp [hnext] at hnext'
  · next hnext' => simp [hnext] at hnext'
  · next hnext' =>
    rw [hnext] at hnext'
    simp only [Except.ok.injEq, Option.some.injEq, Prod.mk.injEq] at hnext'
    obtain ⟨rfl, rfl⟩ := hnext'
    cases hon : answer.goesOn with
    | error e => simp [hreceive, hon]
    | ok on => cases on <;> simp [hreceive, hon]

/-- A message that is answered does not show in how the run ends. -/
theorem serve_of_receive (hnext : Frame.next input = .ok (some (body, rest)))
    (hreceive : w.receive body = .ok answer) (hon : answer.goesOn = .ok true) :
    (w.serve input).result = (answer.world.serve rest).result ∧
      (w.serve input).world = (answer.world.serve rest).world := by
  rw [serve_of_next hnext hreceive, hon]
  exact ⟨rfl, rfl⟩

/-- The messages that are answered do not show in how the run ends. -/
theorem serve_of_served (h : Served w input w' rest) :
    (w.serve input).result = (w'.serve rest).result ∧
      (w.serve input).world = (w'.serve rest).world := by
  induction h with
  | start => exact ⟨rfl, rfl⟩
  | next _ hnext hreceive hon ih =>
    obtain ⟨hresult, hworld⟩ := serve_of_receive hnext hreceive hon
    exact ⟨ih.1.trans hresult, ih.2.trans hworld⟩

theorem serve_of_error {e : Error} (hnext : Frame.next input = .error e) :
    w.serve input = ⟨.error e, [], w⟩ := by
  rw [serve]
  split
  · next hnext' =>
    rw [hnext] at hnext'
    rw [Except.error.inj hnext']
  · next hnext' => simp [hnext] at hnext'
  · next hnext' => simp [hnext] at hnext'

theorem serve_of_end (hnext : Frame.next input = .ok none) :
    w.serve input = ⟨.ok (), [], w.shutdown⟩ := by
  rw [serve]
  split
  · next hnext' => simp [hnext] at hnext'
  · rfl
  · next hnext' => simp [hnext] at hnext'

/-- A request that is sent is handled, and then the server waits for what comes after it. -/
theorem Served.request {m : Message} {ms : List Message} {command : String}
    {arguments : Option Json} (h : Served w input w' (output (m :: ms) ++ rest))
    (hseq : m.seq < UInt64.size) (hlegible : m.content.Legible)
    (hlength : (Text.toBytes m.text).length ≤ Frame.maxLength)
    (hrequest : m.content.received = .request command arguments)
    (hon : (w'.handle m.seq command arguments).goesOn = .ok true) :
    Served w input (w'.handle m.seq command arguments).world (output ms ++ rest) := by
  refine h.next (Message.next_output hlength) ?_ hon
  rw [receive, Message.readBody_text hseq hlegible]
  simp [hrequest]

theorem ofBody?_text {m : Message} {command : String} {arguments : Option Json}
    (hseq : m.seq < UInt64.size) (hlegible : m.content.Legible)
    (hrequest : m.content.received = .request command arguments) :
    Request.ofBody? (Text.toBytes m.text) = (Request.parse command arguments).toOption := by
  simp only [Request.ofBody?, Message.readBody_text hseq hlegible, hrequest]

/-- What is sent holds the messages and nothing else. -/
theorem exists_of_holds_output {ms : List Message}
    (hlength : ∀ m ∈ ms, (Text.toBytes m.text).length ≤ Frame.maxLength)
    (h : Frame.Holds (output ms) body) : ∃ m ∈ ms, body = Text.toBytes m.text := by
  induction ms with
  | nil =>
    have hnext : Frame.next (output []) = .ok none := rfl
    cases h with
    | first h => cases hnext.symm.trans h
    | later h _ => cases hnext.symm.trans h
  | cons m ms ih =>
    have hnext : Frame.next (output (m :: ms)) = _ :=
      Message.next_output_cons (hlength m List.mem_cons_self)
    cases h with
    | first h =>
      obtain ⟨rfl, -⟩ := Prod.mk.inj (Option.some.inj (Except.ok.inj (hnext.symm.trans h)))
      exact ⟨m, List.mem_cons_self, rfl⟩
    | later h hlater =>
      obtain ⟨-, rfl⟩ := Prod.mk.inj (Option.some.inj (Except.ok.inj (hnext.symm.trans h)))
      obtain ⟨m', hm', hbody⟩ := ih (fun m' hm' => hlength m' (List.mem_cons_of_mem m hm')) hlater
      exact ⟨m', List.mem_cons_of_mem m hm', hbody⟩

theorem holds_of_served (h : Served w input w' rest) (hbody : Frame.Holds rest body) :
    Frame.Holds input body := by
  induction h with
  | start => exact hbody
  | next _ hnext _ _ ih => exact ih (.later hnext hbody)

/-- A body is received unless it holds no message. -/
theorem receive_eq_error {e : Error} : w.receive body = .error e ↔ readBody body = .error e := by
  unfold receive
  cases readBody body with
  | error e' => simp
  | ok m => cases hcontent : m.content <;> simp [hcontent]

theorem changes_receive (hreceive : w.receive body = .ok answer)
    (h : ∀ request ∈ Request.ofBody? body, allowed request) : Changes allowed w answer.world := by
  unfold receive at hreceive
  split at hreceive
  · cases hreceive
  · next m hread =>
    split at hreceive
    · next command arguments hcontent =>
      obtain rfl := Except.ok.inj hreceive
      refine changes_handle fun request hparse => h request ?_
      obtain ⟨seq, type, content⟩ := m
      obtain rfl : content = .request command arguments := hcontent
      simp [Request.ofBody?, hread, hparse, Except.toOption]
    · obtain rfl := Except.ok.inj hreceive
      exact .refl

/-- Whatever requests keep holds all the time while the server serves them. -/
theorem changes_served (hserved : Served w input w' rest)
    (h : ∀ body, Frame.Holds input body → ∀ request ∈ Request.ofBody? body, allowed request) :
    Changes allowed w w' := by
  induction hserved with
  | start => exact .refl
  | next hserved hnext hreceive _ ih =>
    exact ih.trans (changes_receive hreceive (h _ (holds_of_served hserved (.first hnext))))

theorem server_sendAll (w : World) (contents : List Content) :
    (w.sendAll contents).2.host = w.host ∧
      (w.sendAll contents).2.server.documents = w.server.documents := by
  induction contents generalizing w with
  | nil => exact ⟨rfl, rfl⟩
  | cons content contents ih => exact ih (w.send content).2

theorem goesOn_respond {contents : List (Except Error Content)} {on : Bool}
    (h : (w.respond contents).goesOn = .ok on) : on = true := by
  unfold respond at h
  cases hended : (sendable contents).2 <;> simp [hended, Except.map] at h
  exact h

theorem mem_of_sendable {contents : List (Except Error Content)} {e : Error}
    (h : (sendable contents).2 = .error e) : .error e ∈ contents := by
  induction contents with
  | nil => cases h
  | cons content contents ih =>
    cases content with
    | error e' =>
      cases h
      exact List.mem_cons_self
    | ok c => exact List.mem_cons_of_mem _ (ih h)

theorem eventContent_eq_error {event : Event} {e : Error} (h : eventContent event = .error e) :
    e = .json .pathNotText ∧ ¬ event.IsText := by
  unfold eventContent at h
  cases hbody : event.body with
  | ok v => simp [hbody, Except.map] at h
  | error e' =>
    rw [hbody] at h
    cases h
    exact Event.body_eq_error hbody

theorem not_mem_failure {seq : Nat} {command : String} {e e' : Error} :
    .error e' ∉ failure seq command e := by
  unfold failure
  split <;> simp [eventContent, Event.body, Except.map]

theorem mem_success {seq : Nat} {command : String} {reply : Reply} {e : Error}
    (h : .error e ∈ success seq command reply) :
    ∃ event ∈ reply.events, eventContent event = .error e := by
  obtain heq | hmem := List.mem_cons.mp h
  · cases heq
  · exact List.mem_map.mp hmem

/-- Only of a request that was met some of the answer can be left out, from an event on. -/
theorem unsent_of_handle {seq : Nat} {command : String} {arguments : Option Json} {e : Error}
    (h : (w.handle seq command arguments).goesOn = .error e) :
    ∃ request reply, Request.parse command arguments = .ok request ∧
      (w.dispatch request).1 = .ok reply ∧
      ∃ event ∈ reply.events, eventContent event = .error e := by
  have hrespond : ∀ (w : World) contents, (w.respond contents).goesOn = .error e →
      .error e ∈ contents := by
    intro w contents h
    unfold respond at h
    cases hended : (sendable contents).2 with
    | ok _ => simp [hended, Except.map] at h
    | error e' =>
      simp only [hended, Except.map, Except.error.injEq] at h
      exact mem_of_sendable (h ▸ hended)
  unfold handle at h
  split at h
  · cases h
  · cases h
  · next request _ hparse =>
    split at h
    · next reply _ hdispatch =>
      exact ⟨request, reply, hparse, by rw [hdispatch], mem_success (hrespond _ _ h)⟩
    · exact absurd (hrespond _ _ h) not_mem_failure

theorem unsent_of_receive {e : Error} (hreceive : w.receive body = .ok answer)
    (hunsent : answer.goesOn = .error e) : e = .json .pathNotText := by
  unfold receive at hreceive
  split at hreceive
  · cases hreceive
  · split at hreceive <;> obtain rfl := Except.ok.inj hreceive
    · obtain ⟨-, -, -, -, event, -, hevent⟩ := unsent_of_handle hunsent
      exact (eventContent_eq_error hevent).1
    · cases hunsent

/-- Only a request to disconnect stops the server in a good way, and it shuts down first. -/
theorem shutdown_of_handle {seq : Nat} {command : String} {arguments : Option Json}
    (hoff : (w.handle seq command arguments).goesOn = .ok false) :
    (w.handle seq command arguments).world.host = w.shutdown.host ∧
      (w.handle seq command arguments).world.server.documents = w.shutdown.server.documents := by
  revert hoff
  fun_cases handle w seq command arguments with
  | case1 =>
    intro hoff
    cases hoff
  | case2 _ ms w' hsend =>
    intro _
    have hkept := server_sendAll w.shutdown [.response seq true command none none]
    rwa [hsend] at hkept
  | case3 => exact fun hoff => absurd (goesOn_respond hoff) (by decide)
  | case4 => exact fun hoff => absurd (goesOn_respond hoff) (by decide)

theorem shutdown_of_receive (hreceive : w.receive body = .ok answer)
    (hoff : answer.goesOn = .ok false) :
    answer.world.host = w.shutdown.host ∧
      answer.world.server.documents = w.shutdown.server.documents := by
  unfold receive at hreceive
  split at hreceive
  · cases hreceive
  · split at hreceive
    · obtain rfl := Except.ok.inj hreceive
      exact shutdown_of_handle hoff
    · obtain rfl := Except.ok.inj hreceive
      cases hoff

end World

end Waymark
