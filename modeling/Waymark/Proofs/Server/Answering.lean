import Waymark.Proofs.Server.Display
import Waymark.Proofs.Server.Layering
import Waymark.Proofs.Server.Passing
import Waymark.Proofs.Server.Wording

/-! What is sent back. Every message that is taken for a request gets one response, up to the first
that asks to disconnect, and nothing else makes the server send anything. Only an event that cannot
be written ends this early: it is left out, and the server is gone. -/

namespace Waymark

/-- A stream that can be read to its end, and the bodies that it brings. -/
inductive Frame.Stream : (input : Bytes) → (bodies : List Bytes) → Prop
  | done {input : Bytes} : Frame.next input = .ok none → Stream input []
  | more {input body rest : Bytes} {bodies : List Bytes} :
      Frame.next input = .ok (some (body, rest)) → Stream rest bodies →
      Stream input (body :: bodies)

namespace Content

/-- Which request a response is for, and the command that it repeats. -/
def echo? : Content → Option (Nat × String)
  | response seq _ command _ _ => some (seq, command)
  | _ => none

theorem echo?_of_eventContent {event : Event} {c : Content}
    (h : World.eventContent event = .ok c) : c.echo? = none := by
  unfold World.eventContent at h
  cases hbody : event.body with
  | error e => simp [hbody, Except.map] at h
  | ok body =>
    simp only [hbody, Except.map, Except.ok.injEq] at h
    subst h
    rfl

/-- No event is a response. -/
theorem echo?_of_events {events : List Event} {contents : List Content}
    (h : events.map World.eventContent = contents.map .ok) : contents.filterMap echo? = [] := by
  refine List.filterMap_eq_nil_iff.mpr fun c hc => ?_
  have hmem : Except.ok c ∈ events.map World.eventContent := h ▸ List.mem_map_of_mem hc
  obtain ⟨event, -, hevent⟩ := List.mem_map.mp hmem
  exact echo?_of_eventContent hevent

end Content

namespace Asked

/-- The requests up to the first that asks to disconnect. -/
def throughDisconnect : List Asked → List Asked
  | [] => []
  | a :: as => if a.command = "disconnect" then [a] else a :: throughDisconnect as

/-- The response to a request that was met. -/
def success (a : Asked) (reply : Reply) : Content :=
  .response a.seq true a.command none reply.body

/-- The response to a request that could not be met. -/
def refusal (a : Asked) (e : Error) : Content :=
  .response a.seq false a.command (some e.message) none

/-- What is sent for a request, by what it comes to. -/
inductive Answered (a : Asked) : Except Error Reply → List Content → Prop
  | met {reply : Reply} {events : List Content} :
      reply.events.map World.eventContent = events.map .ok →
      Answered a (.ok reply) (a.success reply :: events)
  /-- The user is told first what can be done about it. -/
  | hinted {path : Option Path} {hint : Content} :
      World.eventContent (.hint (Error.missingTool path).message) = .ok hint →
      Answered a (.error (.missingTool path)) [hint, a.refusal (.missingTool path)]
  | failed {e : Error} : (∀ path, e ≠ .missingTool path) → Answered a (.error e) [a.refusal e]

/-- What is sent for a request that was met, up to an event that cannot be written. -/
inductive BrokenOff (a : Asked) : Except Error Reply → List Content → Error → Prop
  | met {reply : Reply} {before after : List Event} {event : Event} {events : List Content}
      {e : Error} : reply.events = before ++ event :: after →
      before.map World.eventContent = events.map .ok → World.eventContent event = .error e →
      BrokenOff a (.ok reply) (a.success reply :: events) e

variable {a : Asked} {outcome : Except Error Reply} {block : List Content}

/-- Whatever a request comes to, it has one response. -/
theorem Answered.echo (h : a.Answered outcome block) :
    block.filterMap Content.echo? = [(a.seq, a.command)] := by
  cases h with
  | met hevents => exact congrArg _ (Content.echo?_of_events hevents)
  | hinted hhint =>
    rw [List.filterMap_cons_none (Content.echo?_of_eventContent hhint)]
    rfl
  | failed _ => rfl

theorem BrokenOff.echo {e : Error} (h : a.BrokenOff outcome block e) :
    block.filterMap Content.echo? = [(a.seq, a.command)] := by
  cases h with
  | met _ hevents _ => exact congrArg _ (Content.echo?_of_events hevents)

/-- What cannot be written is a path. -/
theorem BrokenOff.error_eq {e : Error} (h : a.BrokenOff outcome block e) :
    e = .json .pathNotText := by
  cases h with
  | met _ _ hevent => exact (World.eventContent_eq_error hevent).1

end Asked

namespace Request
variable {α : Type} {codec : Json.Codec α} {f : α → Request} {command : String}
  {arguments : Option Json} {value : Json}

theorem ofArguments_ne_missingTool (path : Option Path) :
    ofArguments codec f value ≠ .error (.missingTool path) := by
  unfold ofArguments
  cases codec.decode value <;> simp [Except.map, Except.mapError, Error.ofMisfit]

theorem ofArguments_ne_disconnect (hf : ∀ a, f a ≠ .disconnect) :
    ofArguments codec f value ≠ .ok .disconnect := by
  unfold ofArguments
  cases codec.decode value <;> simp [Except.map, Except.mapError, hf]

/-- That a program is missing only shows once a request is carried out. -/
theorem parse_ne_missingTool (path : Option Path) :
    parse command arguments ≠ .error (.missingTool path) := by
  unfold parse
  split <;> first | exact ofArguments_ne_missingTool path | simp

theorem parse_eq_disconnect : parse command arguments = .ok .disconnect ↔
    command = "disconnect" := by
  constructor
  · intro h
    unfold parse at h
    split at h <;> first
      | rfl
      | exact absurd h (ofArguments_ne_disconnect (by simp))
      | simp at h
  · rintro rfl
    rfl

end Request

/-- Settings that are not as by default have been read over the defaults, which only goes if the
directory is text, and by default there is no program that renders. -/
theorem Settings.spelled_of_startSettings {s : Settings} {host : Host} {config : Option Path}
    (hstart : CommandLine.startSettings host config = .ok s) : s.Spelled := by
  by_cases htext : (default host.temporary).heapDirectory.IsText
  · rw [← layered_fileLayer hstart]
    exact .inl ((laidOver_layered htext).isText htext)
  · rw [eq_default_of_startSettings hstart htext]
    exact .inr rfl

namespace World
variable {w : World} {input : Bytes} {bodies : List Bytes} {incoming : List Message}
  {asked : List Asked} {contents : List Content} {result : Except Error Unit}

/-- What a request comes to when it arrives. -/
def outcome (w : World) (a : Asked) : Except Error Reply :=
  match Request.parse a.command a.arguments with
  | .error e => .error e
  | .ok request => (w.dispatch request).1

/-- The world once a request is answered. -/
def after (w : World) (a : Asked) : World := (w.handle a.seq a.command a.arguments).world

/-- What is sent for requests that arrive one after the other, and how that ends. Each is answered
before the next arrives, until all are answered or one answer breaks off. -/
inductive Answers : World → List Asked → List Content → Except Error Unit → Prop
  | done {w : World} : Answers w [] [] (.ok ())
  | answered {w : World} {a : Asked} {asked : List Asked} {block contents : List Content}
      {result : Except Error Unit} : a.Answered (w.outcome a) block →
      Answers (w.after a) asked contents result → Answers w (a :: asked) (block ++ contents) result
  | brokenOff {w : World} {a : Asked} {asked : List Asked} {block : List Content} {e : Error} :
      a.BrokenOff (w.outcome a) block e → Answers w (a :: asked) block (.error e)

/-- If no answer breaks off, the responses are one for each request in their order. -/
theorem Answers.echoes (h : Answers w asked contents result) (hresult : result = .ok ()) :
    contents.filterMap Content.echo? = asked.map fun a => (a.seq, a.command) := by
  induction h with
  | done => rfl
  | answered hblock _ ih =>
    rw [List.filterMap_append, hblock.echo, ih hresult]
    rfl
  | brokenOff _ => cases hresult

/-- If an answer breaks off, its response is the last. -/
theorem Answers.echoes_of_error {e : Error} (h : Answers w asked contents result)
    (hresult : result = .error e) : e = .json .pathNotText ∧
      ∃ before a after, asked = before ++ a :: after ∧
        contents.filterMap Content.echo? = (before ++ [a]).map fun a => (a.seq, a.command) := by
  induction h with
  | done => cases hresult
  | @answered _ a _ _ _ _ hblock _ ih =>
    obtain ⟨he, before, last, after, rfl, hechoes⟩ := ih hresult
    refine ⟨he, a :: before, last, after, rfl, ?_⟩
    rw [List.filterMap_append, hblock.echo, hechoes]
    rfl
  | @brokenOff _ a asked _ e' hblock =>
    obtain rfl := Except.error.inj hresult
    exact ⟨hblock.error_eq, [], a, asked, rfl, hblock.echo⟩

/-- Of what is to be sent either all is sent, or what is before the first that cannot be. -/
theorem exists_sendable (contents : List (Except Error Content)) :
    (∃ sent, contents = sent.map .ok ∧ sendable contents = (sent, .ok ())) ∨
      ∃ sent e rest, contents = sent.map .ok ++ .error e :: rest ∧
        sendable contents = (sent, .error e) := by
  induction contents with
  | nil => exact .inl ⟨[], rfl, rfl⟩
  | cons content contents ih =>
    cases content with
    | error e => exact .inr ⟨[], e, contents, rfl, rfl⟩
    | ok c =>
      obtain ⟨sent, rfl, hsendable⟩ | ⟨sent, e, rest, rfl, hsendable⟩ := ih
      · exact .inl ⟨c :: sent, rfl, by rw [sendable, hsendable]⟩
      · exact .inr ⟨c :: sent, e, rest, rfl, by rw [sendable, hsendable]⟩

/-- How a request is answered, when `n` messages have been sent before. Unless the answer breaks
off, the server goes on if the request is not to disconnect. -/
inductive Handles (a : Asked) (outcome : Except Error Reply) (n : Nat) (answer : Answer) : Prop
  | answered {block : List Content} : a.Answered outcome block → answer.Sends n block →
      answer.goesOn = .ok (decide (a.command ≠ "disconnect")) → Handles a outcome n answer
  | brokenOff {block : List Content} {e : Error} : a.BrokenOff outcome block e →
      answer.Sends n block → answer.goesOn = .error e → Handles a outcome n answer

/-- The response to a request that was met can always be sent. -/
theorem sendable_success {a : Asked} {reply : Reply} {sent : List Content}
    {ended : Except Error Unit} (h : sendable (reply.events.map eventContent) = (sent, ended)) :
    sendable (success a.seq a.command reply) = (a.success reply :: sent, ended) := by
  rw [success, sendable, h]
  rfl

theorem handles_success {n : Nat} {a : Asked} {reply : Reply} (hseq : w.server.seq = n)
    (hcommand : a.command ≠ "disconnect") :
    Handles a (.ok reply) n (w.respond (success a.seq a.command reply)) := by
  have hsends := sends_respond hseq (success a.seq a.command reply)
  obtain ⟨sent, hsent, hsendable⟩ | ⟨sent, e, rest, hsent, hsendable⟩ :=
    exists_sendable (reply.events.map eventContent)
  · have hall := sendable_success (a := a) hsendable
    rw [hall] at hsends
    refine .answered (.met hsent) hsends ?_
    simp [respond, hall, Except.map, hcommand]
  · have hpart := sendable_success (a := a) hsendable
    rw [hpart] at hsends
    obtain ⟨before, after, hevents, hbefore, hafter⟩ := List.map_eq_append_iff.mp hsent
    obtain ⟨event, after, rfl, hevent, -⟩ := List.map_eq_cons_iff.mp hafter
    refine .brokenOff (.met hevents hbefore hevent) hsends ?_
    simp [respond, hpart, Except.map]

theorem handles_failure {n : Nat} {a : Asked} (e : Error) (hseq : w.server.seq = n)
    (hcommand : a.command ≠ "disconnect") :
    Handles a (.error e) n (w.respond (failure a.seq a.command e)) := by
  have hsends := sends_respond hseq (failure a.seq a.command e)
  have hon : (w.respond (failure a.seq a.command e)).goesOn =
      .ok (decide (a.command ≠ "disconnect")) := by
    rw [decide_eq_true hcommand]
    cases e <;> rfl
  cases e with
  | missingTool path => exact .answered (.hinted rfl) hsends hon
  | _ => exact .answered (.failed fun _ h => nomatch h) hsends hon

/-- A request is answered, and only one to disconnect stops the server in a good way. -/
theorem handles (w : World) (a : Asked) :
    Handles a (w.outcome a) w.server.seq (w.handle a.seq a.command a.arguments) := by
  have hstop : Request.parse a.command a.arguments = .ok .disconnect ↔ a.command = "disconnect" :=
    Request.parse_eq_disconnect
  unfold outcome
  fun_cases handle w a.seq a.command a.arguments with
  | case1 e hparse ms w' hsend =>
    rw [hparse] at hstop ⊢
    have he : ∀ path, e ≠ .missingTool path := by
      rintro path rfl
      exact Request.parse_ne_missingTool path hparse
    exact .answered (.failed he) (sends_sendAll rfl hsend _) (by simp [← hstop])
  | case2 hparse ms w' hsend =>
    rw [hparse] at hstop ⊢
    have hnothing : Reply.empty.events.map eventContent = List.map .ok [] := rfl
    exact .answered (.met hnothing) (sends_sendAll (seq_stripAll w _) hsend _) (by simp [← hstop])
  | case3 request hne hparse reply w' hdispatch =>
    have hseq := seq_dispatch w request
    rw [hparse] at hstop ⊢
    simp only [hdispatch] at hseq ⊢
    exact handles_success hseq fun h => hne (Except.ok.inj (hstop.mpr h))
  | case4 request hne hparse e w' hdispatch =>
    have hseq := seq_dispatch w request
    rw [hparse] at hstop ⊢
    simp only [hdispatch] at hseq ⊢
    exact handles_failure e hseq fun h => hne (Except.ok.inj (hstop.mpr h))

/-- From any world on, a stream of messages is served to its end, to the first request to
disconnect or to an answer that breaks off, and what is sent are the answers to the requests in
their order. -/
theorem serve_answers (hstream : Frame.Stream input bodies)
    (hread : bodies.map readBody = incoming.map .ok) :
    ∃ contents, (w.serve input).messages = Message.numbered w.server.seq contents ∧
      Answers w (Asked.throughDisconnect (incoming.filterMap Message.asked?)) contents
        (w.serve input).result := by
  induction hstream generalizing w incoming with
  | done hnext =>
    obtain rfl : incoming = [] := by simpa using hread.symm
    rw [serve_of_end hnext]
    exact ⟨[], rfl, .done⟩
  | more hnext _ ih =>
    cases incoming with
    | nil => simp at hread
    | cons m incoming =>
      simp only [List.map_cons, List.cons.injEq] at hread
      have hreceive := receive_of_readBody (w := w) hread.1
      rw [serve_of_next hnext hreceive]
      cases hasked : m.asked? with
      | none =>
        rw [List.filterMap_cons_none hasked]
        exact ih hread.2
      | some a =>
        rw [List.filterMap_cons_some hasked, Asked.throughDisconnect]
        dsimp only
        cases handles w a with
        | @brokenOff block e hblock hsends hunsent =>
          rw [hunsent]
          refine ⟨block, hsends.messages, ?_⟩
          split <;> exact .brokenOff hblock
        | @answered block hblock hsends hon =>
          rw [hon]
          by_cases hcommand : a.command = "disconnect"
          · rw [if_pos hcommand, decide_eq_false (not_not_intro hcommand)]
            refine ⟨block ++ [], ?_, .answered hblock .done⟩
            rw [List.append_nil, hsends.messages]
          · rw [if_neg hcommand, decide_eq_true hcommand]
            obtain ⟨contents, hmessages, hanswers⟩ := ih (w := w.after a) hread.2
            refine ⟨block ++ contents, ?_, .answered hblock hanswers⟩
            have hseq : (w.after a).server.seq = w.server.seq + block.length := hsends.seq
            rw [Message.numbered_append, ← hseq, ← hmessages, hsends.messages]
            rfl

/-- As long as all images are at paths that are text, no answer breaks off. -/
theorem result_of_spelled (h : w.Spelled) (hreached : w.Reached)
    (hstream : Frame.Stream input bodies) (hread : bodies.map readBody = incoming.map .ok) :
    (w.serve input).result = .ok () := by
  induction hstream generalizing w incoming with
  | done hnext => rw [serve_of_end hnext]
  | more hnext _ ih =>
    cases incoming with
    | nil => simp at hread
    | cons m incoming =>
      simp only [List.map_cons, List.cons.injEq] at hread
      have hreceive := receive_of_readBody (w := w) hread.1
      rw [serve_of_next hnext hreceive]
      cases hasked : m.asked? with
      | none => exact ih h hreached hread.2
      | some a =>
        have hreached' : (w.after a).Reached := hreached.handle a.seq a.command a.arguments
        have hsends := h.handle_sends hreached.orderly a.seq a.command a.arguments
        have hspelled := @Spelled.handle w h hreached.orderly a.seq a.command a.arguments
        dsimp only
        cases hon : (w.handle a.seq a.command a.arguments).goesOn with
        | error e => exact absurd hon (hsends e)
        | ok on =>
          cases on with
          | false => rfl
          | true => exact ih (hspelled hon) hreached' hread.2

/-- After the answer to the first message the server goes on with the others. -/
theorem serve_output_cons {m : Message} {ms : List Message} {a : Asked}
    (hlength : (Text.toBytes m.text).length ≤ Frame.maxLength)
    (hread : readBody (Text.toBytes m.text) = .ok m) (hasked : m.asked? = some a)
    (hon : (w.handle a.seq a.command a.arguments).goesOn = .ok true) :
    (w.serve (output (m :: ms))).messages = (w.handle a.seq a.command a.arguments).messages ++
        ((w.after a).serve (output ms)).messages ∧
      (w.serve (output (m :: ms))).result = ((w.after a).serve (output ms)).result := by
  rw [serve_of_next (Message.next_output_cons hlength) (receive_of_readBody hread), hasked]
  dsimp only
  rw [hon]
  exact ⟨rfl, rfl⟩

/-- After an answer that breaks off the server is gone. -/
theorem serve_output_cons_of_error {m : Message} {ms : List Message} {a : Asked} {e : Error}
    (hlength : (Text.toBytes m.text).length ≤ Frame.maxLength)
    (hread : readBody (Text.toBytes m.text) = .ok m) (hasked : m.asked? = some a)
    (hunsent : (w.handle a.seq a.command a.arguments).goesOn = .error e) :
    (w.serve (output (m :: ms))).messages = (w.handle a.seq a.command a.arguments).messages ∧
      (w.serve (output (m :: ms))).result = .error e := by
  rw [serve_of_next (Message.next_output_cons hlength) (receive_of_readBody hread), hasked]
  dsimp only
  rw [hunsent]
  exact ⟨rfl, rfl⟩

/-- What is sent can be read again, frame by frame. -/
theorem stream_output {ms : List Message}
    (hlength : ∀ m ∈ ms, (Text.toBytes m.text).length ≤ Frame.maxLength) :
    Frame.Stream (output ms) (ms.map fun m => Text.toBytes m.text) := by
  induction ms with
  | nil => exact .done rfl
  | cons m ms ih =>
    exact .more (Message.next_output_cons (hlength m List.mem_cons_self))
      (ih fun m' hm' => hlength m' (List.mem_cons_of_mem m hm'))

/-- What comes of messages that are sent to a new server. Its own messages are numbered from one on
without a gap. They are the answers to the messages that are taken for requests, one after the
other, up to the first that asks to disconnect. Each is answered once, under its number and with its
command: first of all if it is met, and last of all if it fails, then with a hint before it if and
only if a program is missing. All of them are answered, and the server ends well, if heaps go to a
directory that is text or no program is set that renders them, and so with all settings that an
invocation can start with. With others an event that tells of an image may not be written: then the
answer breaks off there, and the requests behind it get none. -/
theorem requests_answered (settings : Settings) (host : Host)
    (hstream : Frame.Stream input bodies) (hread : bodies.map readBody = incoming.map .ok) :
    let w : World := ⟨.ofSettings settings, host⟩
    let run := w.serve input
    let asked := Asked.throughDisconnect (incoming.filterMap Message.asked?)
    run.messages.map (·.seq) = List.range' 1 run.messages.length ∧
    (∀ m ∈ run.messages, m.type = m.content.kind) ∧
    Answers w asked (run.messages.map (·.content)) run.result ∧
    (settings.Spelled → run.result = .ok ()) ∧
    (∀ config, CommandLine.startSettings host config = .ok settings → run.result = .ok ()) ∧
    (run.result = .ok () →
      run.messages.filterMap (·.content.echo?) = asked.map fun a => (a.seq, a.command)) ∧
    (∀ e, run.result = .error e → e = .json .pathNotText ∧
      ∃ before a after, asked = before ++ a :: after ∧
        run.messages.filterMap (·.content.echo?) =
          (before ++ [a]).map fun a => (a.seq, a.command)) ∧
    ((∀ m ∈ run.messages, (Text.toBytes m.text).length ≤ Frame.maxLength) →
      Frame.Stream (output run.messages) (run.messages.map fun m => Text.toBytes m.text)) := by
  intro w run asked
  obtain ⟨contents, hmessages, hanswers⟩ := serve_answers (w := w) hstream hread
  change run.messages = Message.numbered 0 contents at hmessages
  have hcontents : run.messages.map (·.content) = contents := by
    rw [hmessages, Message.content_numbered]
  have hechoes : run.messages.filterMap (·.content.echo?) = contents.filterMap Content.echo? := by
    rw [← hcontents, List.filterMap_map]
    rfl
  have hends : settings.Spelled → run.result = .ok () := fun h =>
    result_of_spelled (spelled_ofSettings h host) (.start settings host) hstream hread
  refine ⟨?_, ?_, hcontents ▸ hanswers, hends, ?_, ?_, ?_, stream_output⟩
  · have hlength := congrArg List.length hcontents
    rw [List.length_map] at hlength
    rw [hlength, hmessages, Message.seq_numbered]
  · intro m hm
    exact Message.type_of_mem_numbered (hmessages ▸ hm)
  · intro config hstart
    exact hends (Settings.spelled_of_startSettings hstart)
  · intro hresult
    rw [hechoes, hanswers.echoes hresult]
  · intro e hresult
    rw [hechoes]
    exact hanswers.echoes_of_error hresult

theorem requests_answered_of_mixed :
    let ms : List Message := [⟨1, "event", .event "opened" none⟩,
      ⟨2, "request", .request "nonsense" none⟩, ⟨3, "request", .request "initialize" none⟩,
      ⟨4, "request", .request "disconnect" none⟩, ⟨5, "request", .request "initialize" none⟩]
    (emptyWorld.serve (output ms)).messages.filterMap (·.content.echo?) =
      [(2, "nonsense"), (3, "initialize"), (4, "disconnect")] := by
  intro ms
  have hstream : Frame.Stream (output ms) _ := stream_output (by decide +kernel)
  have hread : (ms.map fun m => Text.toBytes m.text).map readBody = ms.map .ok := by
    have hnone : Content.Fits none := fun _ h => nomatch h
    refine Message.readBody_texts fun m hm => ?_
    simp only [ms, List.mem_cons, List.not_mem_nil, or_false] at hm
    obtain rfl | rfl | rfl | rfl | rfl := hm <;> exact ⟨by decide, hnone, rfl⟩
  have hspelled : emptyWorld.server.settings.Spelled := .inr rfl
  obtain ⟨-, -, -, hends, -, hechoes, -⟩ :=
    requests_answered emptyWorld.server.settings emptyWorld.host hstream hread
  exact hechoes (hends hspelled)

/-- What a request brings that opens a document with one state, which has a heap. -/
def heapArguments : Json :=
  .object [("decorationOptions", .array [.object [("index", .int 0), ("numberToDisplay", .int 0),
      ("originalPosition", .object [("character", .int 0), ("line", .int 0)])]]),
    ("steps", .array [.object [("decoration", .int 0), ("heap", .string "g"), ("index", .int 0),
      ("verifiableId", .int 0)]]),
    ("text", .string "ab"), ("uri", .string "d")]

/-- A document is opened, its heap is asked for, and then something else. -/
def heapAsking : List Message :=
  [⟨1, "request", .request "stepsAsDecorationOptions" (some heapArguments)⟩,
    ⟨2, "request", .request "showHeap"
      (some (.object [("clientIndex", .int 0), ("uri", .string "d")]))⟩,
    ⟨3, "request", .request "initialize" none⟩]

theorem legible_heapAsking : ∀ m ∈ heapAsking,
    m.seq < UInt64.size ∧ m.content.Legible ∧ m.content.received = m.content := by
  have hzero : ∀ depth, Json.Kept depth (.int 0) := fun _ => .nat (n := 0) (by decide)
  have hposition : ∀ depth, Json.Kept (depth + 1)
      (.object [("character", .int 0), ("line", .int 0)]) :=
    fun _ => .object (by simp [hzero])
  have hmarker : ∀ depth, Json.Kept (depth + 2) (.object [("index", .int 0),
      ("numberToDisplay", .int 0),
      ("originalPosition", .object [("character", .int 0), ("line", .int 0)])]) :=
    fun _ => .object (by simp [hzero, hposition])
  have hstep : ∀ depth, Json.Kept (depth + 1) (.object [("decoration", .int 0),
      ("heap", .string "g"), ("index", .int 0), ("verifiableId", .int 0)]) :=
    fun _ => .object (by simp [hzero, Json.Kept.string])
  have harguments : Json.Kept (Json.maxDepth - 1) heapArguments :=
    .object (by simp [hmarker, hstep, Json.Kept.string, Json.Kept.array])
  have hwanted : Json.Kept (Json.maxDepth - 1)
      (.object [("clientIndex", .int 0), ("uri", .string "d")]) :=
    .object (by simp [hzero, Json.Kept.string])
  intro m hm
  simp only [heapAsking, List.mem_cons, List.not_mem_nil, or_false] at hm
  obtain rfl | rfl | rfl := hm
  · exact ⟨by decide, by rintro _ ⟨⟩; exact ⟨harguments, rfl⟩, rfl⟩
  · exact ⟨by decide, by rintro _ ⟨⟩; exact ⟨hwanted, rfl⟩, rfl⟩
  · exact ⟨by decide, (fun _ h => nomatch h), rfl⟩

/-- The directory of the heaps is not text. The heap is rendered, but the event that tells of it is
not sent, and nor is an answer to the request behind. -/
theorem answers_end_at_heap :
    let settings := { drawing true with heapDirectory := ⟨[0x2F, 0xFF]⟩ }
    let run := World.serve ⟨.ofSettings settings, drawingHost⟩ (output heapAsking)
    Frame.Stream (output heapAsking) (heapAsking.map fun m => Text.toBytes m.text) ∧
      (heapAsking.map fun m => Text.toBytes m.text).map readBody = heapAsking.map .ok ∧
      (Asked.throughDisconnect (heapAsking.filterMap Message.asked?)).map
          (fun a => (a.seq, a.command)) =
        [(1, "stepsAsDecorationOptions"), (2, "showHeap"), (3, "initialize")] ∧
      run.messages.filterMap (·.content.echo?) =
        [(1, "stepsAsDecorationOptions"), (2, "showHeap")] ∧
      run.result = .error (.json .pathNotText) := by
  intro settings run
  let w : World := ⟨.ofSettings settings, drawingHost⟩
  let wanted : Asked :=
    ⟨2, "showHeap", some (.object [("clientIndex", .int 0), ("uri", .string "d")])⟩
  let opening := w.handle 1 "stepsAsDecorationOptions" (some heapArguments)
  let rendering := opening.world.handle wanted.seq wanted.command wanted.arguments
  have hlength : ∀ m ∈ heapAsking, (Text.toBytes m.text).length ≤ Frame.maxLength := by
    decide +kernel
  have hread : ∀ m ∈ heapAsking, readBody (Text.toBytes m.text) = .ok m := by
    intro m hm
    obtain ⟨hseq, hlegible, hreceived⟩ := legible_heapAsking m hm
    rw [Message.readBody_text hseq hlegible, hreceived]
  have hopening : opening.goesOn = .ok true := goesOn_of_toOption (by decide +kernel)
  have hbroken : rendering.goesOn.toOption = none := by decide +kernel
  have hechoes : (opening.messages ++ rendering.messages).filterMap (·.content.echo?) =
      [(1, "stepsAsDecorationOptions"), (2, "showHeap")] := by decide +kernel
  refine ⟨stream_output hlength, Message.readBody_texts legible_heapAsking, by decide, ?_⟩
  cases hunsent : rendering.goesOn with
  | ok on => simp [hunsent, Except.toOption] at hbroken
  | error e =>
    obtain ⟨-, -, -, -, event, -, hevent⟩ := unsent_of_handle hunsent
    obtain rfl := (eventContent_eq_error hevent).1
    obtain ⟨hfirst, hresult⟩ := serve_output_cons (hlength _ List.mem_cons_self)
      (hread _ List.mem_cons_self) rfl hopening
    obtain ⟨hsecond, hresult'⟩ := serve_output_cons_of_error
      (hlength _ (List.mem_cons_of_mem _ List.mem_cons_self))
      (hread _ (List.mem_cons_of_mem _ List.mem_cons_self)) rfl hunsent
    have hmessages : run.messages = opening.messages ++ rendering.messages :=
      hfirst.trans (congrArg (opening.messages ++ ·) hsecond)
    rw [hmessages]
    exact ⟨hechoes, hresult.trans hresult'⟩

end World

end Waymark
