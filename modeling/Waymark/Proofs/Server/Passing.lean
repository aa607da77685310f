import Waymark.Proofs.Server.Leaving

/-! Which messages are carried out. A message is taken for a request by its fields, and any other is
passed over as if it had not been sent. What a message says of its own kind does not count. -/

namespace Waymark

/-- What a message asks for that is taken for a request. -/
structure Asked where
  seq : Nat
  command : String
  arguments : Option Json

namespace Content
variable {entries : List (String × Json)} {key s : String} {v : Json} {c : Content}

/-- The entries name a command, and they do not say twice what it is given. -/
def Commanding (entries : List (String × Json)) : Prop :=
  (∃ command, entries.filter (·.1 == "command") = [("command", .string command)]) ∧
    (entries.filter (·.1 == "arguments")).length ≤ 1

theorem atMostOne?_eq_some_some :
    atMostOne? entries key = some (some v) ↔ entries.filter (·.1 == key) = [(key, v)] := by
  have hkey : ∀ e ∈ entries.filter (·.1 == key), e.1 = key := by
    intro e he
    simpa using (List.mem_filter.mp he).2
  unfold atMostOne?
  split
  · next heq => simp [heq]
  · next key' v' heq =>
    rw [heq] at hkey ⊢
    obtain rfl : key' = key := hkey _ List.mem_cons_self
    simp
  · next hnil hone =>
    refine ⟨fun h => (by cases h), fun h => ?_⟩
    exact (hone key v h).elim

theorem isSome_value? :
    (value? entries key).isSome = true ↔ (entries.filter (·.1 == key)).length ≤ 1 := by
  have hsome : (value? entries key).isSome = (atMostOne? entries key).isSome := by
    unfold value?
    split <;> simp [*]
  rw [hsome]
  unfold atMostOne?
  generalize entries.filter (·.1 == key) = found
  match found with
  | [] => simp
  | [_] => simp
  | _ :: _ :: _ => simp

theorem exactlyOne?_string :
    exactlyOne? .string entries key = some s ↔
      entries.filter (·.1 == key) = [(key, .string s)] := by
  rw [← atMostOne?_eq_some_some]
  unfold exactlyOne?
  split
  · next v heq =>
    rw [heq]
    cases v <;> simp [Json.Codec.string, Json.Codec.stringAs, Except.toOption]
  · next h =>
    refine ⟨fun h => (by cases h), fun heq => ?_⟩
    exact (h _ heq).elim

/-- A command that is there makes a request. -/
theorem isSome_request? : (request? entries).isSome = true ↔ Commanding entries := by
  unfold Commanding
  simp only [← exactlyOne?_string, ← isSome_value?, request?]
  cases exactlyOne? .string entries "command" <;> cases value? entries "arguments" <;> simp

theorem commanding_filter (entries : List (String × Json)) :
    Commanding (entries.filter fun e => e.1 != "seq" && e.1 != "type") ↔ Commanding entries := by
  have hfilter : ∀ key, key ≠ "seq" → key ≠ "type" →
      (entries.filter fun e => e.1 != "seq" && e.1 != "type").filter (·.1 == key) =
        entries.filter (·.1 == key) := by
    intro key hseq htype
    rw [List.filter_filter]
    refine List.filter_congr fun e _ => ?_
    by_cases heq : e.1 = key <;> simp [heq, hseq, htype]
  unfold Commanding
  rw [hfilter "command" (by decide) (by decide), hfilter "arguments" (by decide) (by decide)]

theorem kind_of_request? (h : request? entries = some c) : c.kind = "request" := by
  simp only [request?, Option.bind_eq_bind, Option.bind_eq_some_iff] at h
  obtain ⟨command, -, arguments, -, hc⟩ := h
  exact Option.some.inj hc ▸ rfl

theorem kind_of_response? (h : response? entries = some c) : c.kind = "response" := by
  simp only [response?, Option.bind_eq_bind, Option.bind_eq_some_iff] at h
  obtain ⟨seq, -, success, -, command, -, message, -, body, -, hc⟩ := h
  exact Option.some.inj hc ▸ rfl

theorem kind_of_event? (h : event? entries = some c) : c.kind = "event" := by
  simp only [event?, Option.bind_eq_bind, Option.bind_eq_some_iff] at h
  obtain ⟨name, -, body, -, hc⟩ := h
  exact Option.some.inj hc ▸ rfl

theorem kind_of_ofEntries? (h : ofEntries? entries = some c) :
    c.kind = "request" ↔ Commanding entries := by
  rw [← isSome_request?]
  unfold ofEntries? at h
  cases hrequest : request? entries with
  | some c' =>
    rw [hrequest, Option.some_or] at h
    simp [← Option.some.inj h, kind_of_request? hrequest]
  | none =>
    rw [hrequest, Option.none_or, Option.or_eq_some_iff] at h
    obtain h | ⟨-, h⟩ := h
    · simp [kind_of_response? h]
    · simp [kind_of_event? h]

end Content

namespace Message
variable {m : Message}

/-- What a message asks for, if it is taken for a request. -/
def asked? (m : Message) : Option Asked :=
  match m.content with
  | .request command arguments => some ⟨m.seq, command, arguments⟩
  | _ => none

/-- The entries of the object that a body holds. -/
def entries? (body : Bytes) : Option (List (String × Json)) :=
  match (Utf8.decode body).toOption.bind Json.readRaw? with
  | some (.object entries) => some entries
  | _ => none

theorem entries?_text (hseq : m.seq < UInt64.size) (h : m.content.Legible) :
    entries? (Text.toBytes m.text) = some m.envelope := by
  have htext : Json.readRaw? m.text = some (.object m.envelope) :=
    Json.readRaw?_render (kept_envelope hseq h)
  simp [entries?, Utf8.decode_toBytes, Except.toOption, htext]

theorem commanding_envelope (m : Message) :
    Content.Commanding m.envelope ↔ m.content.kind ≠ "event" := by
  rw [← Content.commanding_filter, envelope, List.filter_append, Content.filter_fields]
  cases m with
  | mk seq type content =>
    cases content <;> simp [Content.Commanding, Content.fields, Content.kind]

theorem kind_of_ofJson? {v : Json} (h : ofJson? v = some m) : ∃ entries, v = .object entries ∧
    (m.content.kind = "request" ↔ Content.Commanding entries) := by
  unfold ofJson? at h
  split at h
  · next entries =>
    simp only [Option.bind_eq_bind, Option.bind_eq_some_iff] at h
    obtain ⟨seq, -, type, -, content, hcontent, hm⟩ := h
    obtain rfl := Option.some.inj hm
    refine ⟨entries, rfl, ?_⟩
    rw [← Content.commanding_filter]
    exact Content.kind_of_ofEntries? hcontent
  · cases h

/-- The fields decide what a message is taken for. -/
theorem kind_of_readBody {body : Bytes} (h : World.readBody body = .ok m) :
    ∃ entries, entries? body = some entries ∧
      (m.content.kind = "request" ↔ Content.Commanding entries) := by
  unfold World.readBody at h
  split at h
  · next m' hbody =>
    obtain rfl := Except.ok.inj h
    obtain ⟨t, htext, hm⟩ := Option.bind_eq_some_iff.mp hbody
    obtain ⟨v, hread, hm⟩ := Option.bind_eq_some_iff.mp hm
    obtain ⟨entries, rfl, hkind⟩ := kind_of_ofJson? hm
    exact ⟨entries, by simp [entries?, htext, hread], hkind⟩
  · cases h

end Message

namespace World
variable {w : World} {input body rest : Bytes} {m : Message}

/-- What is no request is passed over, and a request is handled. -/
theorem receive_of_readBody (hread : readBody body = .ok m) :
    w.receive body = .ok (match m.asked? with
      | some a => w.handle a.seq a.command a.arguments
      | none => ⟨[], .ok true, w⟩) := by
  unfold receive Message.asked?
  rw [hread]
  cases hcontent : m.content <;> simp [hcontent]

/-- A message that names no command is passed over: nothing is sent, nothing changes, and the server
goes on with what comes next. A message that names one is handled as a request for it. Neither
depends on what the message says it is. -/
theorem fields_decide (w : World) (hnext : Frame.next input = .ok (some (body, rest)))
    (hread : readBody body = .ok m) :
    ∃ entries, Message.entries? body = some entries ∧
      (¬Content.Commanding entries →
        w.receive body = .ok ⟨[], .ok true, w⟩ ∧ w.serve input = w.serve rest) ∧
      (Content.Commanding entries → ∃ command arguments, m.content = .request command arguments ∧
        w.receive body = .ok (w.handle m.seq command arguments)) := by
  obtain ⟨entries, hentries, hkind⟩ := Message.kind_of_readBody hread
  have hreceive := receive_of_readBody (w := w) hread
  refine ⟨entries, hentries, fun hnot => ?_, fun hcommanding => ?_⟩
  · have hasked : m.asked? = none := by
      unfold Message.asked?
      split
      · next hcontent => exact (hnot (hkind.mp (by rw [hcontent]; rfl))).elim
      · rfl
    rw [hasked] at hreceive
    refine ⟨hreceive, ?_⟩
    rw [serve_of_next hnext hreceive]
    rfl
  · have hrequest := hkind.mpr hcommanding
    obtain ⟨seq, type, content⟩ := m
    cases content with
    | request command arguments => exact ⟨command, arguments, rfl, hreceive⟩
    | response => simp [Content.kind] at hrequest
    | event => simp [Content.kind] at hrequest

/-- An event comes, and then a request. -/
theorem fields_decide_of_event :
    let event : Message := ⟨1, "event", .event "opened" none⟩
    let ms : List Message := [⟨2, "request", .request "initialize" none⟩]
    emptyWorld.receive (Text.toBytes event.text) = .ok ⟨[], .ok true, emptyWorld⟩ ∧
      emptyWorld.serve (output (event :: ms)) = emptyWorld.serve (output ms) := by
  intro event ms
  have hlegible : event.content.Legible := fun _ h => nomatch h
  have hseq : event.seq < UInt64.size := by decide
  have hnext : Frame.next (output (event :: ms)) = _ :=
    Message.next_output_cons (by decide +kernel)
  obtain ⟨entries, hentries, hpassed, -⟩ :=
    fields_decide emptyWorld hnext (Message.readBody_text hseq hlegible)
  obtain rfl : event.envelope = entries :=
    Option.some.inj ((Message.entries?_text hseq hlegible).symm.trans hentries)
  exact hpassed (by simp [Message.commanding_envelope, event, Content.kind])

/-- A response is taken for the request that it answers. It is answered in turn, and since it names
the command to disconnect, the server never comes to the request behind it. -/
theorem response_carried_out :
    let response : Message := ⟨1, "response", .response 1 true "disconnect" none none⟩
    let ms : List Message := [⟨2, "request", .request "initialize" none⟩]
    response.type ≠ "request" ∧
      emptyWorld.receive (Text.toBytes response.text) ≠ .ok ⟨[], .ok true, emptyWorld⟩ ∧
      (emptyWorld.serve (output (response :: ms))).messages =
        [⟨1, "response", .response 1 true "disconnect" none none⟩] := by
  intro response ms
  have hnext : Frame.next (output (response :: ms)) = _ :=
    Message.next_output_cons (by decide +kernel)
  have hread : readBody (Text.toBytes response.text) =
      .ok ⟨1, "response", .request "disconnect" none⟩ :=
    Message.readBody_text (by decide) ⟨by decide, fun _ h => nomatch h⟩
  have hreceive := receive_of_readBody (w := emptyWorld) hread
  refine ⟨by decide, fun heq => ?_, ?_⟩
  · have hanswer := Except.ok.inj (hreceive.symm.trans heq)
    cases congrArg Answer.messages hanswer
  · rw [serve_of_next hnext hreceive]
    rfl

end World

end Waymark
