import Waymark.Json.Binary64
import Waymark.Table

/-! JSON values. An object in canonical form has its keys in order and each of them once. -/

namespace Waymark

/-- A JSON value. Integers are those of 64 bits, signed or not; every other number is a
floating-point one. -/
inductive Json
  | null
  | bool (b : Bool)
  | int (i : Int)
  | float (negative : Bool) (magnitude : Binary64)
  | string (s : String)
  | array (items : List Json)
  | object (entries : List (String × Json))

namespace Json

instance : Inhabited Json := ⟨null⟩

/-- A natural number as a value. -/
def nat (n : Nat) : Json := int n

/-- An object with the given entries; of several under one key the last wins. -/
def ofFields (fields : List (String × Json)) : Json := object (Table.overlay [] fields)

/-- An optional value, null if there is none. -/
def ofOption {α : Type} (f : α → Json) : Option α → Json
  | none => null
  | some a => f a

/-- A list of values. -/
def ofList {α : Type} (f : α → Json) (xs : List α) : Json := array (xs.map f)

mutual

/-- The canonical form of a value. -/
def canonical : Json → Json
  | array items => array (canonicalItems items)
  | object entries => object (Table.overlay [] (canonicalEntries entries))
  | v => v

/-- The items of an array in canonical form. -/
def canonicalItems : List Json → List Json
  | [] => []
  | v :: vs => v.canonical :: canonicalItems vs

/-- The entries of an object with their values in canonical form. -/
def canonicalEntries : List (String × Json) → List (String × Json)
  | [] => []
  | (k, v) :: rest => (k, v.canonical) :: canonicalEntries rest

end

/-- The value under a key of an object. -/
def get? (key : String) : Json → Option Json
  | object entries => Table.get? entries key
  | _ => none

end Json

end Waymark
