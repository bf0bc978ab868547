/-
Reading records from JSON values. A record is given as an object, whose unknown members are ignored,
or as an array of its fields in declaration order. In an object the members are checked in key
order, so of several faulty ones the first in that order is reported, and a missing field only after
them; in an array the fields are read from the front.
-/
import IamConvergence.Record.Mismatch

namespace IamConvergence

/-! ## Field types -/

namespace Decode

/-- A text. -/
def text : Value → Except Mismatch String
  | .text s => .ok s
  | v => .error (.wrongType v "a string")

/-- A text or null for none. -/
def optionalText : Value → Except Mismatch (Option String)
  | .null => .ok none
  | v => (text v).map some

/-- A truth value. -/
def bool : Value → Except Mismatch Bool
  | .bool b => .ok b
  | v => .error (.wrongType v "a boolean")

/-- An integer from `least` up to but without `bound`. -/
def integer (least bound : Int) (expected : String) : Value → Except Mismatch Int
  | .number (.integer i) =>
    if least ≤ i ∧ i < bound then .ok i else .error (.outOfRange i expected)
  | v => .error (.wrongType v expected)

/-- A signed integer of 32 bits. -/
def int32 : Value → Except Mismatch Int := integer (-twoPow 31) (twoPow 31) "i32"

/-- A count of at most 64 bits. -/
def count (v : Value) : Except Mismatch Nat := (integer 0 (twoPow 64) "usize" v).map Int.toNat

/-- A list of texts. -/
def texts : Value → Except Mismatch (List String)
  | .array vs => vs.mapM text
  | v => .error (.wrongType v "a sequence")

/-- A table of texts. -/
def textTable : Value → Except Mismatch (Table String)
  | .object ms => do
    let es ← ms.mapM fun (k, v) => (text v).map (k, ·)
    .ok (Table.ofList es)
  | v => .error (.wrongType v "a map")

/-- An instant. -/
def instant : Value → Except Mismatch Instant
  | .text s => (Rfc3339.parse s).mapError .badInstant
  | v => .error (.wrongType v "an RFC 3339 formatted date and time string")

/-- Any value, as it stands. -/
def anything (v : Value) : Except Mismatch Value := .ok v

end Decode

/-! ## Shapes -/

/-- A field of a record: its name, how its value is read, and what it is when it is missing. -/
structure Field (α : Type) where
  name : String
  decode : Value → Except Mismatch α
  absent : Option α := none

/-- Where the fields of a record come from: the value of a field, by name or by place, and the
mismatch that a field without value amounts to. -/
structure Source where
  value? : (name : String) → (place : Nat) → Option Value
  lacking : (name : String) → (place : Nat) → Mismatch

/-- The members of an object. -/
def Source.ofMembers (ms : List (String × Value)) : Source where
  value? name _ := ms.lookup name
  lacking name _ := .missing name

/-- The items of an array, in a record of the given name and number of fields. -/
def Source.ofItems (record : String) (fields : Nat) (vs : List Value) : Source where
  value? _ place := vs[place]?
  lacking _ place := .tooShort place record fields

/-- Reads a field that stands at a given place. -/
def Source.read {α : Type} (src : Source) (place : Nat) (f : Field α) : Except Mismatch α :=
  match src.value? f.name place, f.absent with
  | some v, _ => f.decode v
  | none, some x => .ok x
  | none, none => .error (src.lacking f.name place)

/-- How a record is made of its fields: the check of each field's value, in declaration order, and
the making. -/
structure Shape (α : Type) where
  checks : List (String × (Value → Option Mismatch))
  build : Source → Except Mismatch α

namespace Shape

variable {α β : Type}

/-- A shape without fields. -/
def of (x : α) : Shape α := ⟨[], fun _ => .ok x⟩

/-- Adds a field behind the others. -/
def field (s : Shape (β → α)) (f : Field β) : Shape α where
  checks := s.checks ++ [(f.name, fun v =>
    match f.decode v with
    | .ok _ => none
    | .error m => some m)]
  build src := do
    let make ← s.build src
    let x ← src.read s.checks.length f
    .ok (make x)

/-- The first fault among members, in their order. -/
def memberFault? (s : Shape α) (ms : List (String × Value)) : Option Mismatch :=
  ms.findSome? fun (k, v) => (s.checks.lookup k).bind (· v)

/-- Reads a record of the given name. -/
def decode (s : Shape α) (record : String) : Value → Except Mismatch α
  | .object ms =>
    match s.memberFault? ms with
    | some m => .error m
    | none => s.build (.ofMembers ms)
  | .array vs => do
    let x ← s.build (.ofItems record s.checks.length vs)
    if vs.length ≤ s.checks.length then .ok x else .error (.tooLong vs.length)
  | v => .error (.wrongType v ("struct " ++ record))

end Shape

end IamConvergence
