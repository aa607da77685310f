import Waymark.Json.Codec

/-! Records: structures written as objects. A record is read from an object by key, or from an
array that lists its fields in order. -/

namespace Waymark.Json

/-- A field of a record over `σ`: its key, how it is written, if it is, and whether a value fits
it. -/
structure Field (σ : Type) where
  key : String
  write : σ → Option Json
  check : Json → Except Misfit Unit

/-- Why a record's fields do not give its value. -/
inductive Gap
  | missing (key : String)
  | misfit (m : Misfit)
deriving DecidableEq, Repr

/-- A part `α` of a structure `σ`: the fields it is written in, in their order, and how it is
built from their values. -/
structure Record (σ α : Type) where
  fields : List (Field σ)
  build : (String → Option Json) → Except Gap α

namespace Record
variable {σ α β : Type}

/-- A part that takes no field. -/
protected def pure (a : α) : Record σ α := ⟨[], fun _ => .ok a⟩

/-- Two parts side by side. -/
protected def seq (f : Record σ (α → β)) (x : Record σ α) : Record σ β where
  fields := f.fields ++ x.fields
  build values :=
    match f.build values with
    | .error gap => .error gap
    | .ok g => (x.build values).map g

instance : Applicative (Record σ) where
  pure := .pure
  seq f x := f.seq (x ())

/-- Reads the value of a field. -/
def readField (c : Codec α) (v : Json) : Except Gap α := (c.decode v).mapError .misfit

/-- A field that has to be there. -/
def required (key : String) (get : σ → α) (c : Codec α) : Record σ α where
  fields := [⟨key, fun s => some (c.encode (get s)), fun v => (c.decode v).map fun _ => ()⟩]
  build values :=
    match values key with
    | none => .error (.missing key)
    | some v => readField c v

/-- A field that stands for `missing` if it is left out. -/
def optional (key : String) (get : σ → α) (c : Codec α) (missing : α) : Record σ α where
  fields := [⟨key, fun s => some (c.encode (get s)), fun v => (c.decode v).map fun _ => ()⟩]
  build values :=
    match values key with
    | none => .ok missing
    | some v => readField c v

/-- A field that is read but never written. -/
def readOnly (key : String) (c : Codec α) (missing : α) : Record σ α :=
  let r := optional key id c missing
  ⟨r.fields.map fun f => ⟨f.key, fun _ => none, f.check⟩, r.build⟩

/-- The entries of the object that a structure is written as. -/
def entries (r : Record σ α) (s : σ) : Table Json :=
  Table.overlay [] (r.fields.filterMap fun f => (f.write s).map fun v => (f.key, v))

/-- The object that a structure is written as. -/
def encode (r : Record σ α) (s : σ) : Json := .object (r.entries s)

/-- Checks the values of an object in the order of its keys, up to the first misfit. Keys that
belong to no field are passed over. -/
def checkEntries (fields : List (Field σ)) : List (String × Json) → Except Misfit Unit
  | [] => .ok ()
  | (key, v) :: rest =>
    match fields.find? (·.key == key) with
    | none => checkEntries fields rest
    | some f =>
      match f.check v with
      | .error m => .error m
      | .ok () => checkEntries fields rest

/-- Reads a record from an object: misfits are told before missing fields. -/
def decodeObject (r : Record σ α) (entries : List (String × Json)) : Except Misfit α :=
  match checkEntries r.fields entries with
  | .error m => .error m
  | .ok () =>
    match r.build (Table.get? entries) with
    | .ok a => .ok a
    | .error (.misfit m) => .error m
    | .error (.missing key) => .error (.missingField key)

/-- Where a record stands: errors word a surplus of items in another way inside a tagged
value. -/
inductive Setting
  | plain
  | tagged
deriving DecidableEq, Repr

/-- The misfit of an array with too many items. -/
def Setting.surplus (setting : Setting) (length size : Nat) : Misfit :=
  match setting with
  | .plain => .tooLong length
  | .tagged => .tooLongFor length size

/-- Reads a record from an array, where only fields at the end can be left out. -/
def decodeArray (setting : Setting) (name : String) (r : Record σ α) (items : List Json) :
    Except Misfit α :=
  let keys := r.fields.map (·.key)
  match r.build (Table.get? (keys.zip items)) with
  | .error (.misfit m) => .error m
  | .error (.missing key) => .error (.tooShort (keys.idxOf key) name keys.length)
  | .ok a =>
    if keys.length < items.length then .error (setting.surplus items.length keys.length) else .ok a

/-- Reads a record of the given name. -/
def decode (setting : Setting) (name : String) (r : Record σ α) : Json → Except Misfit α
  | .object entries => r.decodeObject entries
  | .array items => r.decodeArray setting name items
  | v => .error (.wrongType v.kind name)

/-- The codec of a whole structure. -/
def codec (name : String) (r : Record σ σ) (setting : Setting) : Codec σ :=
  ⟨r.encode, r.decode setting ("struct " ++ name)⟩

end Record

end Waymark.Json
