import Mathlib.Data.List.Basic
import Waymark.Proofs.Exchange.Message

/-! Streams of frames. Reading takes them apart again body by body, and of a frame that is cut off
it takes nothing. -/

namespace Waymark

namespace Frame
variable {announced n : Nat} {line input rest body cut : Bytes}

/-- All bodies of a stream one after the other, and what reading it ends with: the end of the input
or an error. -/
def bodies (input : Bytes) : List Bytes × Except Error Unit :=
  match _h : next input with
  | .error e => ([], .error e)
  | .ok none => ([], .ok ())
  | .ok (some (body, rest)) =>
    let (later, result) := bodies rest
    (body :: later, result)
termination_by input.length
decreasing_by exact length_lt_of_next _h

theorem bodies_of_some (h : next input = .ok (some (body, rest))) :
    bodies input = (body :: (bodies rest).1, (bodies rest).2) := by
  rw [bodies]
  split <;> rename_i heq
  · rw [h] at heq
    cases heq
  · rw [h] at heq
    cases heq
  · rw [h] at heq
    cases heq
    rfl

/-- Where no body can be taken, reading ends. -/
theorem bodies_of_not_some (h : ∀ taken, next input ≠ .ok (some taken)) :
    (bodies input).1 = [] := by
  rw [bodies]
  split
  · rfl
  · rfl
  · next heq => exact absurd heq (h _)

theorem bodies_nil : bodies [] = ([], .ok ()) := by
  rw [bodies]
  rfl

/-- Headers that have come to their end are read in the same way whatever follows. -/
theorem headersFrom_append (h : headersFrom announced line input = .ok (some (n, rest)))
    (hne : rest ≠ []) (more : Bytes) :
    headersFrom announced line (input ++ more) = .ok (some (n, rest ++ more)) := by
  induction input generalizing announced line with
  | nil =>
    unfold headersFrom at h
    split at h
    · cases h
    · split at h
      · cases h
      · cases h
        exact absurd rfl hne
      · cases h
  | cons b bs ih =>
    rw [List.cons_append]
    unfold headersFrom at h ⊢
    split at h
    · next hb =>
      rw [if_pos hb]
      split at h
      · cases h
      · cases h
        rfl
      · exact ih h
    · next hb =>
      rw [if_neg hb]
      exact ih h

/-- What has been taken off a stream does not depend on what comes later. -/
theorem next_append (h : next input = .ok (some (body, rest))) (more : Bytes) :
    next (input ++ more) = .ok (some (body, rest ++ more)) := by
  unfold next at h
  split at h
  · cases h
  · cases h
  · next n behind hheaders =>
    split at h
    · next hlength =>
      cases h
      have hpos := (headersFrom_some hheaders).1
      have hne : behind ≠ [] := by
        rintro rfl
        exact absurd hlength (Nat.not_le_of_lt hpos)
      have henough : n ≤ (behind ++ more).length := by
        rw [List.length_append]
        exact Nat.le_add_right_of_le hlength
      simp only [next, headersFrom_append hheaders hne, if_pos henough,
        List.take_append_of_le_length hlength, List.drop_append_of_le_length hlength]
    · cases h

/-- No body is taken of a frame before all of it is there. -/
theorem next_cut (h : next (cut ++ rest) = .ok (some (body, []))) (hne : rest ≠ []) :
    ∀ taken, next cut ≠ .ok (some taken) := by
  rintro ⟨body', rest'⟩ htaken
  rw [next_append htaken rest] at h
  have hrest : rest' ++ rest = [] := congrArg Prod.snd (Option.some.inj (Except.ok.inj h))
  exact hne (List.append_eq_nil_iff.mp hrest).2

end Frame

namespace Message

/-- Messages in their frames, each with a head of its own. -/
def framed (frames : List (Frame.Head × Message)) : Bytes :=
  frames.flatMap fun f => f.1.frame (Text.toBytes f.2.text)

theorem next_framed (head : Frame.Head) (m : Message)
    (h : (Text.toBytes m.text).length ≤ Frame.maxLength) (rest : Bytes) :
    Frame.next (head.frame (Text.toBytes m.text) ++ rest) =
      .ok (some (Text.toBytes m.text, rest)) :=
  Frame.next_frame head m.text_pos h rest

/-- The messages are read one by one, and then what follows them. -/
theorem bodies_framed {frames : List (Frame.Head × Message)}
    (h : ∀ f ∈ frames, (Text.toBytes f.2.text).length ≤ Frame.maxLength) (tail : Bytes) :
    Frame.bodies (framed frames ++ tail) =
      ((frames.map fun f => Text.toBytes f.2.text) ++ (Frame.bodies tail).1,
        (Frame.bodies tail).2) := by
  induction frames with
  | nil => rfl
  | cons f frames ih =>
    have hrest := ih fun f' hf' => h f' (List.mem_cons_of_mem f hf')
    have hnext := next_framed f.1 f.2 (h f List.mem_cons_self) (framed frames ++ tail)
    rw [framed, List.flatMap_cons, List.append_assoc, ← framed, Frame.bodies_of_some hnext, hrest]
    rfl

/-- However many messages are sent, whatever is in them and whatever headers are added to them on
the way: they are read as they were written, byte by byte and in their order, and then the stream is
at its end. If it is cut off within one more frame, the messages before that are read all the same,
and of this one nothing is. -/
theorem framed_read_whole (frames : List (Frame.Head × Message))
    (counted : ∀ f ∈ frames, (Text.toBytes f.2.text).length ≤ Frame.maxLength) :
    let sent := frames.map fun f => Text.toBytes f.2.text
    Frame.bodies (framed frames) = (sent, .ok ()) ∧
    ((∀ f ∈ frames, f.1 = .plain) → framed frames = World.output (frames.map (·.2))) ∧
    ∀ (head : Frame.Head) (m : Message) (cut rest : Bytes),
      (Text.toBytes m.text).length ≤ Frame.maxLength →
      head.frame (Text.toBytes m.text) = cut ++ rest → rest ≠ [] →
      (Frame.bodies (framed frames ++ cut)).1 = sent ∧
        (Frame.next cut = .ok none ∨ ∃ error, Frame.next cut = .error error) := by
  intro sent
  refine ⟨?_, ?_, ?_⟩
  · have hall := bodies_framed counted []
    rw [Frame.bodies_nil, List.append_nil, List.append_nil] at hall
    exact hall
  · intro hplain
    rw [framed, World.output, List.flatMap_map]
    refine List.flatMap_congr fun f hf => ?_
    rw [hplain f hf, Frame.wrap_eq_frame]
  · intro head m cut rest hm hcut hne
    have hwhole : Frame.next (cut ++ rest) = .ok (some (Text.toBytes m.text, [])) := by
      have hframe := next_framed head m hm []
      rwa [List.append_nil, hcut] at hframe
    have hnone := Frame.next_cut hwhole hne
    constructor
    · rw [bodies_framed counted, Frame.bodies_of_not_some hnone, List.append_nil]
    · cases hnext : Frame.next cut with
      | error error => exact .inr ⟨error, rfl⟩
      | ok taken =>
        cases taken with
        | none => exact .inl rfl
        | some taken => exact absurd hnext (hnone taken)

/-- A head with other headers on both sides, and lines that end in both ways. -/
def crowdedHead : Frame.Head where
  before := [(⟨"X-Größe: 😀".toList, by decide, by decide, by decide⟩, .feed),
    (⟨"content-length: 9".toList, by decide, by decide, by decide⟩, .returnFeed)]
  length := .feed
  after := [(⟨[' '], by decide, by decide, by decide⟩, .returnFeed)]
  empty := .feed

/-- A message that has the beginning of a frame in it. -/
def framelike : Message :=
  ⟨1, "event", .event "output" (some (.string "ü\r\nContent-Length: 2\r\n\r\n\x7b\x7d"))⟩

/-- Headers and texts that look like headers do no harm, and one byte that is missing is enough. -/
theorem framed_read_whole_of_crowded :
    let bytes := Text.toBytes framelike.text
    let cut := (crowdedHead.frame bytes).dropLast
    Frame.bodies (framed [(crowdedHead, framelike), (.plain, framelike)]) =
      ([bytes, bytes], .ok ()) ∧
    (Frame.bodies (framed [(.plain, framelike)] ++ cut)).1 = [bytes] := by
  intro bytes cut
  have hlength : bytes.length ≤ Frame.maxLength := by decide +kernel
  have hsome : crowdedHead.frame bytes ≠ [] := by decide +kernel
  have hcut : crowdedHead.frame bytes = cut ++ [(crowdedHead.frame bytes).getLast hsome] :=
    (List.dropLast_concat_getLast hsome).symm
  constructor
  · exact (framed_read_whole [(crowdedHead, framelike), (.plain, framelike)]
      (by simpa [bytes] using hlength)).1
  · exact ((framed_read_whole [(.plain, framelike)] (by simpa [bytes] using hlength)).2.2
      crowdedHead framelike cut _ hlength hcut (by simp)).1

end Message

end Waymark
