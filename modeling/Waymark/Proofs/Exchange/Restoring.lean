import Waymark.Exchange.Codec
import Waymark.Proofs.Json.Records

/-! What is exchanged comes back from the value it is written as: each record from its fields, and
what is made of records from theirs. Numbers may be as large as those that are sent can be. -/

namespace Waymark
open Json
open Json.Record (restores_seq restores_map restores_required restores_optional
  decodeObject_eq_ok_iff reads_required Setting)

namespace Json.Codec

theorem option_size_faithful : size.option.Faithful fun n => ∀ i ∈ n, i < UInt64.size :=
  option_faithful size_faithful fun _ => nofun

theorem option_string_faithful : string.option.Faithful fun s => ∀ t ∈ s, True :=
  option_faithful string_faithful fun _ => nofun

end Json.Codec

namespace Position
variable {setting : Setting}

/-- The numbers are those of 32 bits. -/
structure Fits (p : Position) : Prop where
  line : p.line < UInt32.size
  character : p.character < UInt32.size

theorem apart_record : record.Apart := by decide

theorem restores {p : Position} (h : p.Fits) : record.Restores p p :=
  restores_seq (restores_map (restores_required (Codec.word32_faithful _ h.line)))
    (restores_required (Codec.word32_faithful _ h.character))

theorem codec_faithful : (codec setting).Faithful Fits :=
  Record.codec_faithful apart_record fun _ => restores

theorem option_faithful : (codec setting).option.Faithful fun p => ∀ q ∈ p, q.Fits :=
  Codec.option_faithful codec_faithful fun _ => nofun

end Position

namespace Range
variable {setting : Setting}

/-- Both ends have numbers of 32 bits. -/
structure Fits (r : Range) : Prop where
  start : r.start.Fits
  stop : r.stop.Fits

theorem codec_faithful : (codec setting).Faithful Fits := by
  refine Record.codec_faithful (by cases setting <;> decide) fun r h => ?_
  exact restores_seq (restores_map (restores_required (Position.codec_faithful _ h.start)))
      (restores_required (Position.codec_faithful _ h.stop))

end Range

theorem Colour.codec_faithful : Colour.codec.Faithful fun _ => True := by
  intro c _
  change ofName c.name = .ok c
  rw [ofName, ofName?_name]

namespace Step

/-- The numbers are those of 64 bits, and those of the position fit as well. -/
structure Fits (s : Step) : Prop where
  index : s.index < UInt64.size
  parent : ∀ i ∈ s.parent, i < UInt64.size
  verifiable : s.verifiable < UInt64.size
  decoration : ∀ i ∈ s.decoration, i < UInt64.size
  position : ∀ p ∈ s.position, p.Fits

theorem apart_record : record.Apart := by decide

/-- Everything but the depth is sent. -/
theorem restores {s : Step} (h : s.Fits) : record.Restores s { s with depth := 0 } :=
  restores_seq (restores_seq (restores_seq (restores_seq (restores_seq (restores_seq (restores_seq
    (restores_map (restores_required (Codec.size_faithful _ h.index)))
    (restores_optional (Codec.option_size_faithful _ h.parent)))
    (restores_optional (Codec.bool_faithful _ trivial)))
    (restores_required (Codec.size_faithful _ h.verifiable)))
    (restores_optional (Codec.option_string_faithful _ fun _ _ => trivial)))
    (restores_optional (Codec.option_size_faithful _ h.decoration)))
    (restores_optional (Position.option_faithful _ h.position)))
    (restores_optional (Codec.option_string_faithful _ fun _ _ => trivial))

theorem decode_encode {s : Step} (h : s.Fits) :
    codec.decode (codec.encode s) = .ok { s with depth := 0 } :=
  Record.decode_encode apart_record (restores h)

theorem codec_faithful : codec.Faithful fun s => s.Fits ∧ s.depth = 0 := by
  rintro s ⟨h, hdepth⟩
  rw [decode_encode h, ← hdepth]

end Step

namespace TraceEntry

/-- The number of the state is one of 64 bits. -/
def Fits (e : TraceEntry) : Prop := e.state < UInt64.size

theorem codec_faithful : codec.Faithful Fits := by
  refine Record.codec_faithful (by decide) fun e h => ?_
  exact restores_seq (restores_seq
      (restores_map (restores_required (Codec.size_faithful _ h)))
      (restores_required (Colour.codec_faithful _ trivial)))
      (restores_required (Codec.bool_faithful _ trivial))

end TraceEntry

namespace TraceRequest

/-- The numbers are those of 64 bits. -/
structure Fits (r : TraceRequest) : Prop where
  requestId : r.requestId < UInt64.size
  state : r.state < UInt64.size

theorem codec_faithful : codec.Faithful Fits := by
  refine Record.codec_faithful (by decide) fun r h => ?_
  exact restores_seq (restores_seq
      (restores_map (restores_optional (Codec.word64_faithful _ h.requestId)))
      (restores_required (Codec.string_faithful _ trivial)))
      (restores_required (Codec.size_faithful _ h.state))

end TraceRequest

namespace TraceReply

/-- The numbers are those of 64 bits, in the entries too. -/
structure Fits (r : TraceReply) : Prop where
  requestId : r.requestId < UInt64.size
  entries : ∀ e ∈ r.entries, e.Fits

theorem codec_faithful : codec.Faithful Fits := by
  refine Record.codec_faithful (by decide) fun r h => ?_
  exact restores_seq (restores_seq
      (restores_map (restores_required (Codec.word64_faithful _ h.requestId)))
      (restores_required (Codec.string_faithful _ trivial)))
      (restores_required (Codec.list_faithful TraceEntry.codec_faithful _ h.entries))

end TraceReply

namespace HeapRequest

/-- The numbers are those of 64 bits. -/
structure Fits (r : HeapRequest) : Prop where
  requestId : r.requestId < UInt64.size
  state : r.state < UInt64.size

theorem codec_faithful : codec.Faithful Fits := by
  refine Record.codec_faithful (by decide) fun r h => ?_
  exact restores_seq (restores_seq
      (restores_map (restores_optional (Codec.word64_faithful _ h.requestId)))
      (restores_required (Codec.string_faithful _ trivial)))
      (restores_required (Codec.size_faithful _ h.state))

end HeapRequest

namespace HeapGraph

/-- The numbers are those of 64 bits, and those of the position fit as well. -/
structure Fits (g : HeapGraph) : Prop where
  requestId : g.requestId < UInt64.size
  state : g.state < UInt64.size
  position : ∀ p ∈ g.position, p.Fits

theorem codec_faithful : codec.Faithful Fits := by
  refine Record.codec_faithful (by decide) fun g h => ?_
  exact restores_seq (restores_seq (restores_seq (restores_seq (restores_seq
      (restores_map (restores_required (Codec.word64_faithful _ h.requestId)))
      (restores_required (Codec.string_faithful _ trivial)))
      (restores_required (Codec.size_faithful _ h.state)))
      (restores_required (Codec.string_faithful _ trivial)))
      (restores_optional (Codec.option_string_faithful _ fun _ _ => trivial)))
      (restores_optional (Position.option_faithful _ h.position))

end HeapGraph

namespace RenderedMarker

/-- The range has numbers of 32 bits. -/
def Fits (m : RenderedMarker) : Prop := m.range.Fits

theorem codec_faithful : codec.Faithful Fits := by
  refine Record.codec_faithful (by decide) fun m h => ?_
  exact restores_seq (restores_seq (restores_seq
      (restores_map (restores_required (Range.codec_faithful _ h)))
      (restores_required (Codec.string_faithful _ trivial)))
      (restores_required (Codec.string_faithful _ trivial)))
      (restores_required (Codec.string_faithful _ trivial))

end RenderedMarker

namespace Pointing

/-- The position has numbers of 32 bits. -/
def Fits (p : Pointing) : Prop := p.position.Fits

/-- A place in a document as it is written, the fields of its position beside its own. -/
def fields (p : Pointing) : List (String × Json) :=
  [("uri", .string p.uri), ("line", .nat p.position.line), ("character", .nat p.position.character)]

/-- The entries of the object that a place in a document is written as. -/
def entries (p : Pointing) : Table Json := Table.overlay [] p.fields

theorem get?_entries {p : Pointing} {key : String} {v : Json} (h : (key, v) ∈ p.fields) :
    p.entries.get? key = some v := by
  refine Table.get?_overlay_of_mem ?_ h
  change ["uri", "line", "character"].Nodup
  decide

theorem decode_uri {p : Pointing} : record.decodeObject p.entries = .ok p.uri := by
  have hrecord : record.Apart := by decide
  refine (decodeObject_eq_ok_iff hrecord (Table.sorted_overlay .nil)).mpr ?_
  exact reads_required.mpr ⟨.string p.uri, get?_entries (.head _), rfl⟩

theorem decode_position {p : Pointing} (h : p.Fits) :
    Position.record.decodeObject p.entries = .ok p.position := by
  refine (decodeObject_eq_ok_iff Position.apart_record (Table.sorted_overlay .nil)).mpr ?_
  refine Position.restores h _ fun f hf => ?_
  obtain rfl | hf := List.mem_cons.mp hf
  · exact get?_entries (.tail _ (.head _))
  · obtain rfl := List.mem_singleton.mp hf
    exact get?_entries (.tail _ (.tail _ (.head _)))

theorem codec_faithful : codec.Faithful Fits := by
  intro p h
  have hencode : codec.encode p = .object p.entries := rfl
  rw [hencode]
  simp only [codec, decode_uri, decode_position h]
  rfl

end Pointing

namespace TextEdit

/-- The positions have numbers of 32 bits. -/
def Fits : TextEdit → Prop
  | insert place _ => place.Fits
  | delete range => range.Fits

/-- The tag of an edit. -/
def tag : TextEdit → String
  | insert _ _ => "insert"
  | delete _ => "delete"

/-- The fields that an edit has beside its tag. -/
def fields : TextEdit → List (String × Json)
  | insert place text =>
    [("at", (Position.codec .tagged).encode place), ("text", Codec.text.encode text)]
  | delete range => [("range", (Range.codec .tagged).encode range)]

/-- The entries of the object that an edit is written as. -/
def entries (e : TextEdit) : Table Json := Table.overlay [] (("kind", .string e.tag) :: e.fields)

theorem encode_eq (e : TextEdit) : codec.encode e = .object e.entries := by
  cases e <;> rfl

theorem nodup_keys (e : TextEdit) : ("kind" :: e.fields.map Prod.fst).Nodup := by
  cases e with
  | insert place text =>
    change ["kind", "at", "text"].Nodup
    decide
  | delete range =>
    change ["kind", "range"].Nodup
    decide

theorem decode_encode_eq (e : TextEdit) : codec.decode (codec.encode e) =
    decodeTagged e.tag (.object (e.entries.filter fun f => f.1 != "kind")) := by
  have hkind : Table.get? e.entries "kind" = some (.string e.tag) :=
    Table.get?_overlay_of_mem (nodup_keys e) (.head _)
  have htag : decodeTag (.string e.tag) = .ok e.tag := by cases e <;> rfl
  rw [encode_eq]
  simp only [codec, hkind, htag, bind, Except.bind]

/-- The fields of an edit are found when its tag has been taken from among them. -/
theorem decode_fields {σ α : Type} {r : Record σ α} {s : σ} {a : α} {e : TextEdit} (hr : r.Apart)
    (h : r.Restores s a)
    (hfields : ∀ f ∈ r.fields, ∃ v, f.write s = some v ∧ (f.key, v) ∈ e.fields) :
    r.decodeObject (e.entries.filter fun f => f.1 != "kind") = .ok a := by
  have hsorted : e.entries.Sorted := Table.sorted_overlay .nil
  have hkeys := nodup_keys e
  refine (decodeObject_eq_ok_iff hr (hsorted.filter _)).mpr (h _ fun f hf => ?_)
  obtain ⟨v, hv, hmem⟩ := hfields f hf
  have hne : f.key ≠ "kind" := fun heq =>
    (List.nodup_cons.mp hkeys).1 (heq ▸ List.mem_map_of_mem hmem)
  rw [Table.get?_filter_ne hne, hv]
  exact Table.get?_overlay_of_mem hkeys (List.mem_cons_of_mem _ hmem)

theorem codec_faithful : codec.Faithful Fits := by
  intro e h
  rw [decode_encode_eq]
  cases e with
  | insert place text =>
    have hrestores : insertRecord.Restores (place, text) (place, text) :=
      restores_seq (restores_map (restores_required (Position.codec_faithful _ h)))
        (restores_required (Codec.text_faithful _ trivial))
    have hdecode := decode_fields (e := insert place text) (by decide) hrestores fun f hf => by
      obtain rfl | hf := List.mem_cons.mp hf
      · exact ⟨_, rfl, .head _⟩
      · obtain rfl := List.mem_singleton.mp hf
        exact ⟨_, rfl, .tail _ (.head _)⟩
    exact congrArg (Except.map fun p : Position × Text => insert p.1 p.2) hdecode
  | delete range =>
    have hrestores : deleteRecord.Restores range range :=
      restores_required (Range.codec_faithful _ h)
    have hdecode := decode_fields (e := delete range) (by decide) hrestores fun f hf => by
      obtain rfl := List.mem_singleton.mp hf
      exact ⟨_, rfl, .head _⟩
    exact congrArg (Except.map delete) hdecode

end TextEdit

namespace EditBatch

/-- The positions of all edits have numbers of 32 bits. -/
def Fits (b : EditBatch) : Prop := ∀ e ∈ b.edits, e.Fits

theorem codec_faithful : codec.Faithful Fits := by
  refine Record.codec_faithful (by decide) fun b h => ?_
  exact restores_seq (restores_map (restores_required (Codec.string_faithful _ trivial)))
      (restores_required (Codec.list_faithful TextEdit.codec_faithful _ h))

end EditBatch

/-- All that the verifier and the editor exchange about states, heaps, places and edits is read as
it was written: absent parts as absent, any texts, and numbers up to the largest of their width.
The depth of a step is not sent and has to be zero. -/
theorem exchanged_values_restored :
    (Step.codec.Faithful fun s => s.Fits ∧ s.depth = 0) ∧
    TraceEntry.codec.Faithful TraceEntry.Fits ∧
    TraceRequest.codec.Faithful TraceRequest.Fits ∧
    TraceReply.codec.Faithful TraceReply.Fits ∧
    HeapRequest.codec.Faithful HeapRequest.Fits ∧
    HeapGraph.codec.Faithful HeapGraph.Fits ∧
    Pointing.codec.Faithful Pointing.Fits ∧
    RenderedMarker.codec.Faithful RenderedMarker.Fits ∧
    (∀ setting, (Range.codec setting).Faithful Range.Fits) ∧
    TextEdit.codec.Faithful TextEdit.Fits ∧
    EditBatch.codec.Faithful EditBatch.Fits :=
  ⟨Step.codec_faithful, TraceEntry.codec_faithful, TraceRequest.codec_faithful,
    TraceReply.codec_faithful, HeapRequest.codec_faithful, HeapGraph.codec_faithful,
    Pointing.codec_faithful, RenderedMarker.codec_faithful, fun _ => Range.codec_faithful,
    TextEdit.codec_faithful, EditBatch.codec_faithful⟩

/-- A step and a batch with the largest numbers there are. -/
theorem exchanged_values_restored_of_largest :
    let most := UInt64.size - 1
    let last : Position := ⟨UInt32.size - 1, UInt32.size - 1⟩
    let step : Step := ⟨most, some most, true, most, some "f", none, some last, none, 0⟩
    let batch : EditBatch := ⟨"file:///f", [.insert last "\u200B".toList, .delete ⟨last, last⟩]⟩
    step.Fits ∧ batch.Fits ∧ Step.codec.decode (Step.codec.encode step) = .ok step ∧
      EditBatch.codec.decode (EditBatch.codec.encode batch) = .ok batch := by
  intro most last step batch
  obtain ⟨hsteps, -, -, -, -, -, -, -, -, -, hbatches⟩ := exchanged_values_restored
  have hmost : most < UInt64.size := by decide
  have hlast : last.Fits := ⟨by decide, by decide⟩
  have hstep : step.Fits := by
    refine ⟨hmost, ?_, hmost, nofun, ?_⟩
    · rintro i ⟨⟩
      exact hmost
    · rintro p ⟨⟩
      exact hlast
  have hbatch : batch.Fits := by
    intro e he
    obtain rfl | he := List.mem_cons.mp he
    · exact hlast
    · obtain rfl := List.mem_singleton.mp he
      exact ⟨hlast, hlast⟩
  exact ⟨hstep, hbatch, hsteps step ⟨hstep, rfl⟩, hbatches batch hbatch⟩

end Waymark
