/-
Values of JSON documents. The members of an object stand in strictly increasing key order, which
the reader establishes and `Value.WellFormed` states.
-/
import IamConvergence.Number.Binary64
import IamConvergence.Ordered.Table

namespace IamConvergence

/-- A number of a document: an integer of at most 64 bits, or a floating-point number. -/
inductive Number where
  | integer (i : Int)
  | float (x : Binary64)
  deriving DecidableEq

/-- The floating-point number nearest to a number of a document. -/
def Number.toBinary64? : Number → Option Binary64
  | .integer i => Binary64.ofInt? i
  | .float x => some x

/-- Whether an integer has a form with 64 bits, signed or unsigned. -/
def Number.InRange : Number → Prop
  | .integer i => -twoPow 63 ≤ i ∧ i < twoPow 64
  | .float _ => True

/-- A JSON value. -/
inductive Value where
  | null
  | bool (b : Bool)
  | number (n : Number)
  | text (s : String)
  | array (items : List Value)
  | object (members : List (String × Value))

namespace Value

instance : Inhabited Value := ⟨.null⟩

/-- An integer value. -/
abbrev int (i : Int) : Value := .number (.integer i)

/-- The object with the given members; of several under one key the last counts. -/
def ofMembers (ms : List (String × Value)) : Value := .object (Entries.ofList ms)

/-- The object of those members that are present. -/
def ofPresent (ms : List (String × Option Value)) : Value :=
  ofMembers (ms.filterMap fun (k, v) => v.map (k, ·))

/-- The array of a list of texts. -/
def texts (xs : List String) : Value := .array (xs.map .text)

/-- The object of a table of texts. -/
def textTable (t : Table String) : Value := .object (t.entries.map fun (k, s) => (k, .text s))

/-- Whether a value is null. -/
def isNull : Value → Bool
  | .null => true
  | _ => false

/-! ## Well-formedness -/

mutual

/-- Keys strictly increase in every object, and integers have at most 64 bits. -/
def WellFormed : Value → Prop
  | .number n => n.InRange
  | .array items => WellFormedItems items
  | .object members => Entries.Ordered members ∧ WellFormedMembers members
  | _ => True

def WellFormedItems : List Value → Prop
  | [] => True
  | v :: vs => v.WellFormed ∧ WellFormedItems vs

def WellFormedMembers : List (String × Value) → Prop
  | [] => True
  | (_, v) :: ms => v.WellFormed ∧ WellFormedMembers ms

end

/-! ## Decidable equality -/

mutual

/-- Decides whether two values are the same. -/
def decEq : (a b : Value) → Decidable (a = b)
  | .null, .null => isTrue rfl
  | .bool a, .bool b => decidable_of_iff (a = b) (by simp)
  | .number a, .number b => decidable_of_iff (a = b) (by simp)
  | .text a, .text b => decidable_of_iff (a = b) (by simp)
  | .array a, .array b =>
    have := decEqItems a b
    decidable_of_iff (a = b) (by simp)
  | .object a, .object b =>
    have := decEqMembers a b
    decidable_of_iff (a = b) (by simp)
  | .null, .bool _ | .null, .number _ | .null, .text _ | .null, .array _ | .null, .object _
  | .bool _, .null | .bool _, .number _ | .bool _, .text _ | .bool _, .array _ | .bool _, .object _
  | .number _, .null | .number _, .bool _ | .number _, .text _ | .number _, .array _
  | .number _, .object _
  | .text _, .null | .text _, .bool _ | .text _, .number _ | .text _, .array _ | .text _, .object _
  | .array _, .null | .array _, .bool _ | .array _, .number _ | .array _, .text _
  | .array _, .object _
  | .object _, .null | .object _, .bool _ | .object _, .number _ | .object _, .text _
  | .object _, .array _ => isFalse (by simp)

def decEqItems : (a b : List Value) → Decidable (a = b)
  | [], [] => isTrue rfl
  | [], _ :: _ | _ :: _, [] => isFalse (by simp)
  | a :: as, b :: bs =>
    have := decEq a b
    have := decEqItems as bs
    decidable_of_iff (a = b ∧ as = bs) (by simp)

def decEqMembers : (a b : List (String × Value)) → Decidable (a = b)
  | [], [] => isTrue rfl
  | [], _ :: _ | _ :: _, [] => isFalse (by simp)
  | (k, a) :: as, (l, b) :: bs =>
    have := decEq a b
    have := decEqMembers as bs
    decidable_of_iff (k = l ∧ a = b ∧ as = bs) (by simp [and_assoc])

end

instance : DecidableEq Value := decEq

end Value

end IamConvergence
