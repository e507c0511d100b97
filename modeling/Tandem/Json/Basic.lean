import Tandem.Json.Number

/-! # JSON values -/

namespace Tandem

/-- A JSON value. An object keeps its fields in the order in which they are written. -/
inductive Json where
  | null
  | bool (b : Bool)
  | number (n : Json.Number)
  | string (s : String)
  | array (items : List Json)
  | object (fields : List (String × Json))
  deriving Repr

namespace Json

instance : Inhabited Json := ⟨null⟩

/-- A natural number as a value. -/
def nat (n : Nat) : Json := .number (.integer n)

/-- A machine word as a value. -/
def word (n : UInt64) : Json := .nat n.toNat

/-- A 32-bit word as a value. -/
def word32 (n : UInt32) : Json := .nat n.toNat

/-- A present value, or `null`. -/
def orNull {α : Type} (write : α → Json) : Option α → Json
  | some a => write a
  | none => .null

/-- A field that is written only when it has a value. -/
def present {α : Type} (name : String) (write : α → Json) : Option α → List (String × Json)
  | some a => [(name, write a)]
  | none => []

/-- The field of an object with a given name. -/
def field? (name : String) : Json → Option Json
  | .object fields => fields.lookup name
  | _ => none

/-- A field of an object put in the place that the order of names gives it, over an equal name. -/
def putField (name : String) (value : Json) : List (String × Json) → List (String × Json)
  | [] => [(name, value)]
  | (other, old) :: rest =>
    if name < other then (name, value) :: (other, old) :: rest
    else if name = other then (name, value) :: rest
    else (other, old) :: putField name value rest

mutual

/-- The same value with the fields of every object in the order of their names. Of fields with
equal names the last one stays. -/
def sorted : Json → Json
  | .array items => .array (sortedItems items)
  | .object fields => .object (sortedFields fields [])
  | value => value

/-- Every item of an array with its fields in order. -/
def sortedItems : List Json → List Json
  | [] => []
  | item :: rest => item.sorted :: sortedItems rest

/-- Fields put in order behind those that already are. -/
def sortedFields : List (String × Json) → List (String × Json) → List (String × Json)
  | [], done => done
  | (name, value) :: rest, done => sortedFields rest (putField name value.sorted done)

end

end Json

end Tandem
