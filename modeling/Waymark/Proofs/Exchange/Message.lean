import Waymark.Proofs.Exchange.Frame
import Waymark.Proofs.Json.Reading
import Waymark.Server.Serve

/-! What is read of a message that was sent. Requests and events come back as they were; a response
shows a command, and is taken for a request to carry it out. -/

namespace Waymark

namespace Content
variable {payload : Option Json} {entries : List (String × Json)} {key : String} {c : Content}

/-- A payload that can be read inside an envelope, if there is one. -/
def Fits (payload : Option Json) : Prop :=
  ∀ v ∈ payload, Json.Kept (Json.maxDepth - 1) v ∧ v.canonical = v

/-- What is sent of a content can be read: its number is one of 64 bits and its payload fits. -/
def Legible : Content → Prop
  | request _ arguments => Fits arguments
  | response requestSeq _ _ _ body => requestSeq < UInt64.size ∧ Fits body
  | event _ body => Fits body

/-- A payload that says something. -/
def present : Option Json → Option Json
  | some .null => none
  | payload => payload

/-- What a content is taken for where it arrives. -/
def received : Content → Content
  | request command arguments => request command (present arguments)
  | response _ _ command _ _ => request command none
  | event name body => event name (present body)

theorem kept_payload (h : Fits payload) : Json.Kept (Json.maxDepth - 1) (payload.getD .null) := by
  cases payload with
  | none => exact .null
  | some v => exact (h v rfl).1

theorem value?_payload (hkey : entries.filter (·.1 == key) = [(key, payload.getD .null)])
    (h : Fits payload) : value? entries key = some (present payload) := by
  unfold value? atMostOne?
  rw [hkey]
  cases payload with
  | none => rfl
  | some v =>
    have hv := (h v rfl).2
    cases v <;> simp_all [present]

theorem exactlyOne?_field {α : Type} {codec : Json.Codec α} {v : Json} {a : α}
    (hkey : entries.filter (·.1 == key) = [(key, v)]) (hv : codec.decode v = .ok a) :
    exactlyOne? codec entries key = some a := by
  simp [exactlyOne?, atMostOne?, hkey, hv, Except.toOption]

theorem exactlyOne?_absent {α : Type} {codec : Json.Codec α}
    (hkey : entries.filter (·.1 == key) = []) : exactlyOne? codec entries key = none := by
  simp [exactlyOne?, atMostOne?, hkey]

/-- The fields of a content can be read. -/
theorem kept_fields (h : c.Legible) : ∀ e ∈ c.fields, Json.Kept (Json.maxDepth - 1) e.2 := by
  cases c with
  | request command arguments =>
    simpa [fields] using ⟨.string command, kept_payload h⟩
  | response requestSeq success command message body =>
    have hmessage : Json.Kept (Json.maxDepth - 1) (.ofOption .string message) := by
      cases message with
      | none => exact .null
      | some s => exact .string s
    simpa [fields] using
      ⟨.nat (Nat.le_pred_of_lt h.1), .bool success, .string command, hmessage, kept_payload h.2⟩
  | event name body =>
    simpa [fields] using ⟨.string name, kept_payload h⟩

/-- What the fields of a content are taken for. A command alone makes a request. -/
theorem ofEntries?_fields (h : c.Legible) : ofEntries? c.fields = some c.received := by
  cases c with
  | request command arguments =>
    have harguments : value? (fields (.request command arguments)) "arguments" =
        some (present arguments) := value?_payload (by simp [fields]) h
    have hcommand : exactlyOne? .string (fields (.request command arguments)) "command" =
        some command := exactlyOne?_field (v := .string command) (by simp [fields]) rfl
    simp [ofEntries?, request?, hcommand, harguments, received]
  | response requestSeq success command message body =>
    have hcommand : exactlyOne? .string (fields (.response requestSeq success command message body))
        "command" = some command := exactlyOne?_field (v := .string command) (by simp [fields]) rfl
    have harguments : value? (fields (.response requestSeq success command message body))
        "arguments" = some none := by
      simp [value?, atMostOne?, fields]
    -- The other fields are never looked at.
    simp [ofEntries?, request?, hcommand, harguments, received]
  | event name body =>
    have hbody : value? (fields (.event name body)) "body" = some (present body) :=
      value?_payload (by simp [fields]) h
    have hcommand : exactlyOne? .string (fields (.event name body)) "command" = none :=
      exactlyOne?_absent (by simp [fields])
    have hseq : exactlyOne? .word64 (fields (.event name body)) "request_seq" = none :=
      exactlyOne?_absent (by simp [fields])
    have hname : exactlyOne? .string (fields (.event name body)) "event" = some name :=
      exactlyOne?_field (v := .string name) (by simp [fields]) rfl
    simp [ofEntries?, request?, response?, event?, hcommand, hseq, hname, hbody, received]

/-- No content has a field that is named like one of the envelope. -/
theorem filter_fields (c : Content) :
    c.fields.filter (fun e => e.1 != "seq" && e.1 != "type") = c.fields := by
  cases c <;> simp [fields]

theorem filter_fields_eq_nil (c : Content) (h : key = "seq" ∨ key = "type") :
    c.fields.filter (·.1 == key) = [] := by
  obtain rfl | rfl := h <;> cases c <;> simp [fields]

end Content

namespace Message
variable {m : Message}

/-- The entries of the object that a message is written as. -/
def envelope (m : Message) : List (String × Json) :=
  [("seq", .nat m.seq), ("type", .string m.type)] ++ m.content.fields

theorem ofJson?_envelope (hseq : m.seq < UInt64.size) (h : m.content.Legible) :
    ofJson? (.object m.envelope) = some { m with content := m.content.received } := by
  have hnumber : Json.Codec.word64.decode (.nat m.seq) = .ok m.seq :=
    Json.Codec.word64_faithful m.seq hseq
  have hseq' : Content.exactlyOne? .word64 m.envelope "seq" = some m.seq :=
    Content.exactlyOne?_field (by simp [envelope, Content.filter_fields_eq_nil]) hnumber
  have htype : Content.exactlyOne? .string m.envelope "type" = some m.type :=
    Content.exactlyOne?_field (v := .string m.type)
      (by simp [envelope, Content.filter_fields_eq_nil]) rfl
  have hrest : m.envelope.filter (fun e => e.1 != "seq" && e.1 != "type") = m.content.fields := by
    rw [envelope, List.filter_append, Content.filter_fields]
    rfl
  simp [ofJson?, hseq', htype, hrest, Content.ofEntries?_fields h]

theorem kept_envelope (hseq : m.seq < UInt64.size) (h : m.content.Legible) :
    Json.Kept Json.maxDepth (.object m.envelope) := by
  have hentries : ∀ e ∈ m.envelope, Json.Kept (Json.maxDepth - 1) e.2 := by
    intro e he
    obtain he | he := List.mem_append.mp he
    · simp only [List.mem_cons, List.not_mem_nil, or_false] at he
      obtain rfl | rfl := he
      · exact .nat (Nat.le_pred_of_lt hseq)
      · exact .string m.type
    · exact Content.kept_fields h e he
  exact .object hentries

theorem readBody_text (hseq : m.seq < UInt64.size) (h : m.content.Legible) :
    World.readBody (Text.toBytes m.text) = .ok { m with content := m.content.received } := by
  have htext : ofText? m.text = some { m with content := m.content.received } := by
    rw [ofText?, text, show m.toJson = .object m.envelope from rfl,
      Json.readRaw?_render (kept_envelope hseq h)]
    exact ofJson?_envelope hseq h
  simp [World.readBody, Utf8.decode_toBytes, Except.toOption, htext]

/-- Messages that lose nothing on their way are read one by one. -/
theorem readBody_texts {ms : List Message} (h : ∀ m ∈ ms,
      m.seq < UInt64.size ∧ m.content.Legible ∧ m.content.received = m.content) :
    (ms.map fun m => Text.toBytes m.text).map World.readBody = ms.map .ok := by
  rw [List.map_map]
  refine List.map_congr_left fun m hm => ?_
  obtain ⟨hseq, hlegible, hreceived⟩ := h m hm
  rw [Function.comp_apply, readBody_text hseq hlegible, hreceived]

theorem text_pos (m : Message) : 0 < (Text.toBytes m.text).length := by
  rw [Text.length_toBytes]
  exact Nat.lt_of_lt_of_le (by decide : 0 < '\x7b'.utf8Size) (Nat.le_add_right _ _)

theorem next_output {ms : List Message} {rest : Bytes}
    (h : (Text.toBytes m.text).length ≤ Frame.maxLength) :
    Frame.next (World.output (m :: ms) ++ rest) =
      .ok (some (Text.toBytes m.text, World.output ms ++ rest)) := by
  rw [World.output, List.flatMap_cons, List.append_assoc]
  exact Frame.next_wrap m.text_pos h _

theorem next_output_cons {ms : List Message}
    (h : (Text.toBytes m.text).length ≤ Frame.maxLength) :
    Frame.next (World.output (m :: ms)) =
      .ok (some (Text.toBytes m.text, World.output ms)) := by
  have hnext : Frame.next (World.output (m :: ms) ++ []) = _ := next_output h
  simpa only [List.append_nil] using hnext

/-- A message that is sent is the next one to be read where it arrives. Requests and events are read
as what they were, up to a payload that says nothing. A response is read as a request for the
command that it answers, since its fields are tried as those of a request first. -/
theorem read_output {rest : Bytes} (hseq : m.seq < UInt64.size) (h : m.content.Legible)
    (hlength : (Text.toBytes m.text).length ≤ Frame.maxLength) :
    Frame.next (World.output [m] ++ rest) = .ok (some (Text.toBytes m.text, rest)) ∧
      World.readBody (Text.toBytes m.text) = .ok { m with content := m.content.received } :=
  ⟨next_output hlength, readBody_text hseq h⟩

theorem read_output_of_request :
    let m : Message := ⟨7, "request", .request "addMarkers"
      (some (.object [("ratio", .float false ⟨6755399441055744, -52⟩), ("uri", .string "d\n")]))⟩
    Frame.next (World.output [m] ++ [0x0A]) = .ok (some (Text.toBytes m.text, [0x0A])) ∧
      World.readBody (Text.toBytes m.text) = .ok m := by
  intro m
  refine read_output (by decide) (fun v hv => ?_) (by decide +kernel)
  obtain rfl := Option.mem_some.mp hv
  refine ⟨.object fun e he => ?_, rfl⟩
  simp only [List.mem_cons, List.not_mem_nil, or_false] at he
  obtain rfl | rfl := he
  · have htext : Binary64.text ⟨6755399441055744, -52⟩ = ['1', '.', '5'] := by decide +kernel
    have hread : Json.number false ['1', '.', '5'] =
        some (.float false ⟨6755399441055744, -52⟩, []) := by rfl
    exact .float (htext ▸ hread)
  · exact .string _

/-- A response that says what it is comes back as a request. -/
theorem response_read_as_request :
    let m : Message := ⟨1, "response", .response 1 true "initialize" none none⟩
    m.type = m.content.kind ∧
      World.readBody (Text.toBytes m.text) =
        .ok ⟨1, "response", .request "initialize" none⟩ :=
  ⟨rfl, readBody_text (by decide) ⟨by decide, fun _ h => nomatch h⟩⟩

end Message

end Waymark
