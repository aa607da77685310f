import Mathlib.Data.Nat.Digits.Defs
import Waymark.Exchange.Frame
import Waymark.Proofs.Text.Utf8

/-! Frames compose: a body put in a frame is read back, and what follows it stays for the next
reading. Whoever sends a frame may put more headers around the one that counts, and may end the
lines of the headers in either way. -/

namespace Waymark.Frame
variable {n announced : Nat} {line body rest bs : Bytes} {t : Text} {c : Char} {b : UInt8}

/-- How a line of the headers ends. -/
inductive LineEnd
  | feed
  | returnFeed
deriving DecidableEq, Repr

/-- What comes before the line feed at the end of a line. -/
def LineEnd.opening : LineEnd → Text
  | feed => []
  | returnFeed => ['\r']

/-- A text on a line of its own. -/
def lineOf (t : Text) (e : LineEnd) : Bytes := Text.toBytes (t ++ e.opening ++ ['\n'])

/-- The text fits on one line. -/
def Unbroken (t : Text) : Prop := ∀ c ∈ t, c ≠ '\r' ∧ c ≠ '\n'

instance (t : Text) : Decidable (Unbroken t) :=
  List.decidableBAll (fun c => c ≠ '\r' ∧ c ≠ '\n') t

theorem unbroken_nil : Unbroken [] := fun _ hc => nomatch hc

/-- A header that says nothing of the length. -/
structure OtherHeader where
  text : Text
  nonempty : text ≠ []
  unbroken : Unbroken text
  other : lengthHeader.isPrefixOf text = false

/-- Lines with such headers. -/
def linesOf (headers : List (OtherHeader × LineEnd)) : Bytes :=
  headers.flatMap fun h => lineOf h.1.text h.2

/-- The text of the header that counts. -/
def lengthText (n : Nat) : Text := "Content-Length: ".toList ++ Nat.toDigits 10 n

/-- What comes before a body, but for the length itself: the headers on both sides of the one that
counts, and how this one and the empty line end. -/
structure Head where
  before : List (OtherHeader × LineEnd)
  length : LineEnd
  after : List (OtherHeader × LineEnd)
  empty : LineEnd

/-- A body in a frame with this head. -/
def Head.frame (h : Head) (body : Bytes) : Bytes :=
  linesOf h.before ++ (lineOf (lengthText body.length) h.length ++
    (linesOf h.after ++ (lineOf [] h.empty ++ body)))

/-- The head that is sent. -/
def Head.plain : Head := ⟨[], .returnFeed, [], .returnFeed⟩

theorem wrap_eq_frame (body : Bytes) : wrap body = Head.plain.frame body := by
  have hends : Text.toBytes ['\r', '\n', '\r', '\n'] =
      Text.toBytes ['\r'] ++ (Text.toBytes ['\n'] ++ lineOf [] .returnFeed) := rfl
  have hwrap : wrap body =
      Text.toBytes (lengthText body.length ++ ['\r', '\n', '\r', '\n']) ++ body := rfl
  have hframe : Head.plain.frame body =
      Text.toBytes (lengthText body.length ++ ['\r'] ++ ['\n']) ++
        (lineOf [] .returnFeed ++ body) := rfl
  rw [hwrap, hframe, Text.toBytes_append, hends, Text.toBytes_append, Text.toBytes_append]
  simp only [List.append_assoc]

/-- Only a line feed has the byte of one. -/
theorem ne_feed_of_mem_encode (hc : c ≠ '\n') (hb : b ∈ String.utf8EncodeChar c) : b ≠ 0x0A := by
  have hnumber : c.val.toNat ≠ 10 := fun heq => hc (Char.ext (UInt32.toNat_inj.mp heq))
  have hnat : b.toNat = c.val.toNat ∧ c.val.toNat < 128 ∨ 128 ≤ b.toNat := by
    rw [String.utf8EncodeChar.eq_1] at hb
    split at hb
    · rw [List.mem_singleton.mp hb, Utf8.toNat_ofNat (by omega)]
      omega
    · right
      have hhigh : ∀ n, 128 ≤ n → n < 256 → 128 ≤ (UInt8.ofNat n).toNat := by
        intro n hlow hn
        rwa [Utf8.toNat_ofNat hn]
      split at hb
      · simp only [List.mem_cons, List.not_mem_nil, or_false] at hb
        rcases hb with rfl | rfl <;> exact hhigh _ (by omega) (by omega)
      · split at hb
        · simp only [List.mem_cons, List.not_mem_nil, or_false] at hb
          rcases hb with rfl | rfl | rfl <;> exact hhigh _ (by omega) (by omega)
        · simp only [List.mem_cons, List.not_mem_nil, or_false] at hb
          rcases hb with rfl | rfl | rfl | rfl <;> exact hhigh _ (by omega) (by omega)
  rintro rfl
  have hten : (0x0A : UInt8).toNat = 10 := rfl
  omega

theorem toBytes_feedless (h : '\n' ∉ t) : ∀ b ∈ Text.toBytes t, b ≠ 0x0A := by
  intro b hb
  obtain ⟨c, hc, hbyte⟩ := List.mem_flatMap.mp hb
  exact ne_feed_of_mem_encode (fun heq => h (heq ▸ hc)) hbyte

/-- A header is read once its line is complete. -/
theorem headersFrom_line (h : ∀ b ∈ bs, b ≠ 0x0A) (rest : Bytes) :
    headersFrom announced line (bs ++ 0x0A :: rest) =
      match readHeader announced (line.reverse ++ bs ++ [0x0A]) with
      | .error e => .error e
      | .ok .finished => .ok (some (announced, rest))
      | .ok (.announced n) => headersFrom n [] rest := by
  induction bs generalizing line with
  | nil =>
    rw [List.append_nil, ← List.reverse_cons]
    exact if_pos rfl
  | cons b bs ih =>
    have hb := h b List.mem_cons_self
    have hrest := @ih (b :: line) fun b' hb' => h b' (List.mem_cons_of_mem b hb')
    simp only [List.cons_append, headersFrom, if_neg hb, hrest]
    simp

theorem headersFrom_lineOf (h : Unbroken t) (e : LineEnd) (rest : Bytes) :
    headersFrom announced [] (lineOf t e ++ rest) =
      match readHeader announced (lineOf t e) with
      | .error error => .error error
      | .ok .finished => .ok (some (announced, rest))
      | .ok (.announced n) => headersFrom n [] rest := by
  have hfeedless : '\n' ∉ t ++ e.opening := by
    intro hfeed
    rcases List.mem_append.mp hfeed with hfeed | hfeed
    · exact (h '\n' hfeed).2 rfl
    · cases e <;> simp [LineEnd.opening] at hfeed
  have hline : lineOf t e = Text.toBytes (t ++ e.opening) ++ [0x0A] := Text.toBytes_append
  rw [hline, List.append_assoc, List.singleton_append,
    headersFrom_line (toBytes_feedless hfeedless)]
  simp only [List.reverse_nil, List.nil_append]

/-- The line end is not part of what a header line says. -/
theorem dropWhile_lineEnd (h : Unbroken t) (e : LineEnd) :
    ((t ++ e.opening ++ ['\n']).reverse.dropWhile fun c => c == '\r' || c == '\n').reverse = t := by
  have htext : (t.reverse.dropWhile fun c => c == '\r' || c == '\n') = t.reverse := by
    cases hreverse : t.reverse with
    | nil => rfl
    | cons c rest =>
      have hc : c ∈ t := List.mem_reverse.mp (hreverse ▸ List.mem_cons_self)
      rw [List.dropWhile_cons_of_neg]
      simp [(h c hc).1, (h c hc).2]
  cases e with
  | feed => simpa [LineEnd.opening] using congrArg List.reverse htext
  | returnFeed => simpa [LineEnd.opening] using congrArg List.reverse htext

/-- An empty line ends the headers once a length is announced. -/
theorem readHeader_empty (h : 0 < announced) (e : LineEnd) :
    readHeader announced (lineOf [] e) = .ok .finished := by
  simp only [readHeader, lineOf, Utf8.decode_toBytes, dropWhile_lineEnd unbroken_nil]
  rw [if_pos List.isEmpty_nil, if_pos h]

theorem readHeader_other (other : OtherHeader) (e : LineEnd) :
    readHeader announced (lineOf other.text e) = .ok (.announced announced) := by
  simp only [readHeader, lineOf, Utf8.decode_toBytes, dropWhile_lineEnd other.unbroken]
  rw [if_neg (by simpa using other.nonempty), if_neg (by simp [other.other])]

theorem isDigit_toDigits (hc : c ∈ Nat.toDigits 10 n) : c.isDigit = true :=
  Nat.isDigit_of_mem_toDigits (by decide) (by decide) hc

/-- The digits of a length are read as the length. -/
theorem length?_toDigits (h : n ≤ maxLength) : length? (Nat.toDigits 10 n) = some n := by
  have hall : (Nat.toDigits 10 n).all Char.isDigit = true :=
    List.all_eq_true.mpr fun c => isDigit_toDigits
  have hvalue : (Nat.toDigits 10 n).foldl (fun n c => n * 10 + (c.toNat - 48)) 0 = n := by
    have := Nat.ofDigitChars_ten_toDigits (n := n)
    simpa [Nat.ofDigitChars, Nat.mul_comm] using this
  have hplus : ∀ rest, Nat.toDigits 10 n ≠ '+' :: rest := by
    intro rest heq
    rw [heq] at hall
    simp at hall
  unfold length?
  split
  · next heq => exact absurd heq (hplus _)
  · simp [Nat.toDigits_ne_nil, hall, hvalue, h]

theorem isBlank_of_isDigit (h : c.isDigit = true) : Text.isBlank c = false := by
  by_contra hblank
  have hlow : 48 ≤ c.toNat ∧ c.toNat ≤ 57 := by
    simp only [Char.isDigit, Bool.and_eq_true, decide_eq_true_eq] at h
    exact ⟨UInt32.le_iff_toNat_le.mp h.1, UInt32.le_iff_toNat_le.mp h.2⟩
  simp [Text.isBlank] at hblank
  omega

/-- Nothing is dropped from a text of digits. -/
theorem dropWhile_digits (ht : ∀ c ∈ t, c.isDigit = true) : t.dropWhile Text.isBlank = t := by
  cases t with
  | nil => rfl
  | cons c t =>
    rw [List.dropWhile_cons_of_neg]
    simp [isBlank_of_isDigit (ht c List.mem_cons_self)]

theorem unbroken_lengthText (n : Nat) : Unbroken (lengthText n) := by
  intro c hc
  rcases List.mem_append.mp hc with hc | hc
  · have hall : "Content-Length: ".toList.all fun c => c ≠ '\r' ∧ c ≠ '\n' := rfl
    exact of_decide_eq_true (List.all_eq_true.mp hall c hc)
  · have hdigit := isDigit_toDigits hc
    constructor <;> rintro rfl <;> simp at hdigit

/-- The header that counts is read as the length that it was made from. -/
theorem readHeader_length (h : n ≤ maxLength) (e : LineEnd) :
    readHeader announced (lineOf (lengthText n) e) = .ok (.announced n) := by
  have htrim : Text.trimBlank (' ' :: Nat.toDigits 10 n) = Nat.toDigits 10 n := by
    have hfront : (' ' :: Nat.toDigits 10 n).dropWhile Text.isBlank = Nat.toDigits 10 n := by
      rw [List.dropWhile_cons_of_pos rfl]
      exact dropWhile_digits fun _ => isDigit_toDigits
    have hback : (Nat.toDigits 10 n).reverse.dropWhile Text.isBlank = _ :=
      dropWhile_digits fun c hc => isDigit_toDigits (List.mem_reverse.mp hc)
    rw [Text.trimBlank, Text.trim, hfront, hback, List.reverse_reverse]
  have hbegins : lengthHeader.isPrefixOf (lengthText n) = true := rfl
  have hdrop : (lengthText n).drop lengthHeader.length = ' ' :: Nat.toDigits 10 n := rfl
  have hsome : ¬ (lengthText n).isEmpty = true := Bool.false_ne_true
  simp only [readHeader, lineOf, Utf8.decode_toBytes, dropWhile_lineEnd (unbroken_lengthText n)]
  rw [if_neg hsome, if_pos hbegins, hdrop, htrim, length?_toDigits h]

/-- Other headers are passed over. -/
theorem headersFrom_linesOf (headers : List (OtherHeader × LineEnd)) (rest : Bytes) :
    headersFrom announced [] (linesOf headers ++ rest) = headersFrom announced [] rest := by
  induction headers with
  | nil => rfl
  | cons h headers ih =>
    obtain ⟨other, e⟩ := h
    rw [linesOf, List.flatMap_cons, List.append_assoc, headersFrom_lineOf other.unbroken,
      readHeader_other]
    exact ih

/-- A frame is taken off the front of a stream; the frames behind it stay. -/
theorem next_frame (head : Head) (hpos : 0 < body.length) (h : body.length ≤ maxLength)
    (rest : Bytes) : next (head.frame body ++ rest) = .ok (some (body, rest)) := by
  have hheaders : headersFrom 0 [] (head.frame body ++ rest) =
      .ok (some (body.length, body ++ rest)) := by
    simp only [Head.frame, List.append_assoc]
    rw [headersFrom_linesOf, headersFrom_lineOf (unbroken_lengthText _), readHeader_length h]
    dsimp only
    rw [headersFrom_linesOf, headersFrom_lineOf unbroken_nil,
      readHeader_empty hpos]
  simp [next, hheaders]

theorem next_wrap (hpos : 0 < body.length) (h : body.length ≤ maxLength) (rest : Bytes) :
    next (wrap body ++ rest) = .ok (some (body, rest)) := by
  rw [wrap_eq_frame]
  exact next_frame .plain hpos h rest

end Waymark.Frame
