import Waymark.Error
import Waymark.Text.Blank

/-! Frames: bodies in a stream, each behind headers that say how long it is. -/

namespace Waymark.Frame

/-- The name of the header that counts. -/
def lengthHeader : Text := "Content-Length:".toList

/-- A body in its frame. -/
def wrap (body : Bytes) : Bytes :=
  Text.toBytes
      ("Content-Length: ".toList ++ Nat.toDigits 10 body.length ++ ['\r', '\n', '\r', '\n'])
    ++ body

/-- What a header line says. -/
inductive Header
  /-- The length announced so far. -/
  | announced (length : Nat)
  /-- The headers end here. -/
  | finished
deriving DecidableEq, Repr

/-- The largest length that can be announced. -/
def maxLength : Nat := UInt64.size - 1

/-- The number that a text spells in base ten, perhaps behind a plus sign. -/
def length? (t : Text) : Option Nat :=
  let digits := match t with
    | '+' :: rest => rest
    | t => t
  if digits.isEmpty || !digits.all Char.isDigit then none
  else
    let n := digits.foldl (fun n c => n * 10 + (c.toNat - '0'.toNat)) 0
    if n ≤ maxLength then some n else none

/-- Reads a header line. Empty lines are passed over as long as no length is announced, and so are
headers that say nothing of the length. -/
def readHeader (announced : Nat) (line : Bytes) : Except Error Header :=
  match Utf8.decode line with
  | .error _ => .error (.file .notText)
  | .ok text =>
    let text := (text.reverse.dropWhile fun c => c == '\r' || c == '\n').reverse
    if text.isEmpty then .ok (if 0 < announced then .finished else .announced announced)
    else if lengthHeader.isPrefixOf text then
      match length? (Text.trimBlank (text.drop lengthHeader.length)) with
      | some n => .ok (.announced n)
      | none => .error (.protocol (.badLength text))
    else .ok (.announced announced)

/-- Reads headers, with the part of a line that has been read in reverse. Gives the length of the
body and what follows the headers, or nothing at the end of the input. -/
def headersFrom (announced : Nat) (line : Bytes) : Bytes → Except Error (Option (Nat × Bytes))
  | [] =>
    if line.isEmpty then .ok none
    else
      match readHeader announced line.reverse with
      | .error e => .error e
      | .ok .finished => .ok (some (announced, []))
      | .ok (.announced _) => .ok none
  | b :: bs =>
    if b = 0x0A then
      match readHeader announced (b :: line).reverse with
      | .error e => .error e
      | .ok .finished => .ok (some (announced, bs))
      | .ok (.announced n) => headersFrom n [] bs
    else headersFrom announced (b :: line) bs

/-- The next body of a stream and what follows it; nothing at the end of the input. -/
def next (input : Bytes) : Except Error (Option (Bytes × Bytes)) :=
  match headersFrom 0 [] input with
  | .error e => .error e
  | .ok none => .ok none
  | .ok (some (length, rest)) =>
    if length ≤ rest.length then .ok (some (rest.take length, rest.drop length))
    else .error (.file .endOfInput)

theorem readHeader_finished {announced : Nat} {line : Bytes}
    (h : readHeader announced line = .ok .finished) : 0 < announced := by
  unfold readHeader at h
  split at h
  · simp at h
  · dsimp only at h
    split at h
    · split at h
      · assumption
      · simp at h
    · split at h
      · split at h <;> simp at h
      · simp at h

/-- The length announced is above zero, and some input has been read. -/
theorem headersFrom_some {announced n : Nat} {line input rest : Bytes}
    (h : headersFrom announced line input = .ok (some (n, rest))) :
    0 < n ∧ rest.length ≤ input.length := by
  induction input generalizing announced line with
  | nil =>
    unfold headersFrom at h
    split at h
    · simp at h
    · split at h <;> simp at h
      obtain ⟨rfl, rfl⟩ := h
      exact ⟨readHeader_finished ‹_›, Nat.le_refl _⟩
  | cons b bs ih =>
    unfold headersFrom at h
    split at h
    · split at h
      · simp at h
      · simp at h
        obtain ⟨rfl, rfl⟩ := h
        exact ⟨readHeader_finished ‹_›, Nat.le_succ _⟩
      · have := ih h
        exact ⟨this.1, Nat.le_succ_of_le this.2⟩
    · have := ih h
      exact ⟨this.1, Nat.le_succ_of_le this.2⟩

/-- Every frame takes some of the input. -/
theorem length_lt_of_next {input body rest : Bytes} (h : next input = .ok (some (body, rest))) :
    rest.length < input.length := by
  unfold next at h
  split at h
  · simp at h
  · simp at h
  · next n more hm =>
    split at h
    · simp at h
      obtain ⟨-, rfl⟩ := h
      have := headersFrom_some hm
      simp only [List.length_drop]
      omega
    · simp at h

end Waymark.Frame
