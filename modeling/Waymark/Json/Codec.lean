import Waymark.Json.Printer
import Waymark.Text.Quoted

/-! Codecs: how values of a type are written as JSON and read back, and what can be wrong with a
value that is read. -/

namespace Waymark.Json

/-- What a value is, as far as an error tells. -/
inductive Kind
  | null
  | boolean (b : Bool)
  | integer (i : Int)
  | float (negative : Bool) (magnitude : Binary64)
  | string (s : String)
  | sequence
  | map
deriving DecidableEq, Repr

/-- The kind of a value. -/
def kind : Json → Kind
  | .null => .null
  | .bool b => .boolean b
  | .int i => .integer i
  | .float negative x => .float negative x
  | .string s => .string s
  | .array _ => .sequence
  | .object _ => .map

/-- A word in grave accents, as error texts mark what they quote. -/
def marked (s : String) : String := "\x60" ++ s ++ "\x60"

namespace Kind

/-- How an error text names a value. -/
def describe : Kind → String
  | null => "null"
  | boolean b => "boolean " ++ marked (if b then "true" else "false")
  | integer i => "integer " ++ marked (String.ofList (renderInt i))
  | float negative x =>
    "floating point " ++ marked (String.ofList (render (.float negative x)))
  | string s => "string " ++ String.ofList (Text.quoted s.toList)
  | sequence => "sequence"
  | map => "map"

end Kind

/-- Why a value cannot be read as what is wanted. -/
inductive Misfit
  /-- It is of the wrong kind. -/
  | wrongType (found : Kind) (expected : String)
  /-- It is of the right kind, but not one of the values wanted. -/
  | wrongValue (found : Kind) (expected : String)
  /-- It names none of the known variants. -/
  | unknownVariant (name : String) (known : List String)
  /-- It is an object without a field that has to be there. -/
  | missingField (name : String)
  /-- It is an array that stops before field number `index`, which has to be there. -/
  | tooShort (index : Nat) (record : String) (size : Nat)
  /-- It is an array with more items than there are fields. -/
  | tooLong (length : Nat)
  /-- It is an array inside a tagged value, with more items than there are fields. -/
  | tooLongFor (length : Nat) (size : Nat)
deriving DecidableEq, Repr

namespace Misfit

/-- The choice among names. -/
def oneOf : List String → String
  | [] => "there are no variants"
  | [a] => marked a
  | [a, b] => marked a ++ " or " ++ marked b
  | names => "one of " ++ String.intercalate ", " (names.map marked)

/-- A number of elements. -/
def elements (n : Nat) : String := toString n ++ (if n = 1 then " element" else " elements")

/-- The wording of a misfit. -/
def message : Misfit → String
  | wrongType found expected => "invalid type: " ++ found.describe ++ ", expected " ++ expected
  | wrongValue found expected => "invalid value: " ++ found.describe ++ ", expected " ++ expected
  | unknownVariant name known =>
    "unknown variant " ++ marked name ++ ", expected " ++ oneOf known
  | missingField name => "missing field " ++ marked name
  | tooShort index record size =>
    "invalid length " ++ toString index ++ ", expected " ++ record ++ " with " ++ elements size
  | tooLong length => "invalid length " ++ toString length ++ ", expected fewer elements in array"
  | tooLongFor length size =>
    "invalid length " ++ toString length ++ ", expected " ++ elements size ++ " in sequence"

end Misfit

/-- How values of a type are written and read. -/
structure Codec (α : Type) where
  encode : α → Json
  decode : Json → Except Misfit α

namespace Codec
variable {α : Type}

/-- A codec reads back the values it writes, as far as they satisfy `p`. -/
def Faithful (c : Codec α) (p : α → Prop) : Prop := ∀ a, p a → c.decode (c.encode a) = .ok a

/-- Numbers below a limit, under the name that error texts have for them. -/
def natBelow (limit : Nat) (name : String) : Codec Nat where
  encode n := .nat n
  decode v :=
    match v with
    | .int i =>
      if 0 ≤ i ∧ i < limit then .ok i.toNat else .error (.wrongValue (.integer i) name)
    | v => .error (.wrongType v.kind name)

/-- Counts and indices. -/
def size : Codec Nat := natBelow UInt64.size "usize"

/-- Identifiers of requests. -/
def word64 : Codec Nat := natBelow UInt64.size "u64"

/-- Lines and columns. -/
def word32 : Codec Nat := natBelow UInt32.size "u32"

/-- Truth values. -/
def bool : Codec Bool where
  encode b := .bool b
  decode v :=
    match v with
    | .bool b => .ok b
    | v => .error (.wrongType v.kind "a boolean")

/-- Strings, under the name that error texts have for them. -/
def stringAs (name : String) : Codec String where
  encode s := .string s
  decode v :=
    match v with
    | .string s => .ok s
    | v => .error (.wrongType v.kind name)

/-- Strings. -/
def string : Codec String := stringAs "a string"

/-- Texts. -/
def text : Codec Text where
  encode t := .string (String.ofList t)
  decode v := (string.decode v).map String.toList

/-- Values that may be missing; null stands for none. -/
def option (c : Codec α) : Codec (Option α) where
  encode := Json.ofOption c.encode
  decode v :=
    match v with
    | .null => .ok none
    | v => (c.decode v).map some

/-- Reads values one after the other and stops at the first misfit. -/
def decodeAll (c : Codec α) : List Json → Except Misfit (List α)
  | [] => .ok []
  | v :: vs => do
    let a ← c.decode v
    let as ← decodeAll c vs
    return a :: as

/-- Lists of values. -/
def list (c : Codec α) : Codec (List α) where
  encode := Json.ofList c.encode
  decode v :=
    match v with
    | .array vs => c.decodeAll vs
    | v => .error (.wrongType v.kind "a sequence")

theorem natBelow_faithful {limit : Nat} {name : String} :
    (natBelow limit name).Faithful (· < limit) := by
  intro n hn
  simp [natBelow, Json.nat, hn]

theorem size_faithful : size.Faithful (· < UInt64.size) := natBelow_faithful

theorem word64_faithful : word64.Faithful (· < UInt64.size) := natBelow_faithful

theorem word32_faithful : word32.Faithful (· < UInt32.size) := natBelow_faithful

theorem bool_faithful : bool.Faithful fun _ => True := fun _ _ => rfl

theorem string_faithful : string.Faithful fun _ => True := fun _ _ => rfl

theorem text_faithful : text.Faithful fun _ => True := by
  intro t _
  simp [text, string, stringAs, Except.map]

theorem list_faithful {c : Codec α} {p : α → Prop} (h : c.Faithful p) :
    c.list.Faithful fun as => ∀ a ∈ as, p a := by
  intro as has
  change c.decodeAll (as.map c.encode) = .ok as
  induction as with
  | nil => rfl
  | cons a as ih =>
    have ha := h a (has a List.mem_cons_self)
    have has := ih fun b hb => has b (List.mem_cons_of_mem _ hb)
    simp [decodeAll, ha, has, bind, Except.bind, pure, Except.pure]

/-- An optional value is read back if no value is written as null. -/
theorem option_faithful {c : Codec α} {p : α → Prop} (h : c.Faithful p)
    (hn : ∀ a, c.encode a ≠ .null) : c.option.Faithful fun a => ∀ b ∈ a, p b := by
  intro a ha
  cases a with
  | none => rfl
  | some a =>
    have hd := h a (ha a rfl)
    change (match c.encode a with
      | .null => Except.ok none
      | v => (c.decode v).map some) = _
    cases he : c.encode a
    case null => exact absurd he (hn a)
    all_goals simp_all [Except.map]

end Codec

end Waymark.Json
