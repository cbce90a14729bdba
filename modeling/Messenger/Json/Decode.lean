/-
Reading typed values from JSON.

A record is an object whose members are its fields, in any order, unknown ones ignored and a
known one never given twice; or it is an array of the fields in their order.  A choice is the
name of an alternative, alone or as the only member of an object that holds its content.
-/
import Messenger.Json.Basic

namespace Messenger.Json

def asBool? : Json → Option Bool
  | .bool b => some b
  | _ => none

def asText? : Json → Option String
  | .text t => t
  | _ => none

/-- An integer from `low` to `high`. -/
def asInt? (low high : Int) : Json → Option Int
  | .number n => n.toInt?.filter fun i => low ≤ i && i ≤ high
  | _ => none

/-- A natural number below `bound`. -/
def asNat? (bound : Nat) (json : Json) : Option Nat :=
  (json.asInt? 0 (bound - 1)).map Int.toNat

def asInt64? : Json → Option Int := asInt? Int64.minValue.toInt Int64.maxValue.toInt

def asNat64? : Json → Option Nat := asNat? UInt64.size

def asList? (read : Json → Option α) : Json → Option (List α)
  | .array elements => elements.mapM read
  | _ => none

def asOctets? : Json → Option (List UInt8) := asList? fun json => (json.asNat? 256).map UInt8.ofNat

/-- A value that may be `null`. -/
def asOption? (read : Json → Option α) : Json → Option (Option α)
  | .null => some none
  | json => (read json).map some

/-- The fields of a record that are present. -/
structure Fields where
  entries : List (String × Json)

/-- The members of an object that are fields; a field may come only once. -/
def knownMembers? (names : List String) (members : List (Option String × Json)) : Option Fields := do
  let members ← members.mapM fun (key, value) => key.map (·, value)
  let known := members.filter fun member => names.contains member.1
  guard (known.map (·.1)).Nodup
  return ⟨known⟩

/-- The fields of a record, from an object or from an array.  The array must hold all of them
unless those at its end may be left out. -/
def fields? (names : List String) (mayEndEarly : Bool) : Json → Option Fields
  | .object members => knownMembers? names members
  | .array elements =>
    if elements.length = names.length || mayEndEarly && elements.length < names.length then
      some ⟨names.zip elements⟩
    else none
  | _ => none

namespace Fields

def find? (fields : Fields) (name : String) : Option Json := fields.entries.lookup name

def required? (fields : Fields) (name : String) (read : Json → Option α) : Option α :=
  (fields.find? name).bind read

/-- A field that counts as `null` when it is absent. -/
def optional? (fields : Fields) (name : String) (read : Json → Option α) : Option (Option α) :=
  match fields.find? name with
  | none => some none
  | some json => json.asOption? read

def defaulted? (fields : Fields) (name : String) (default : α) (read : Json → Option α) : Option α :=
  match fields.find? name with
  | none => some default
  | some json => read json

end Fields

/-- An alternative and its content. -/
structure Choice where
  name : String
  content : Option Json

def choice? : Json → Option Choice
  | .text (some name) => some ⟨name, none⟩
  | .object [(some name, content)] => some ⟨name, some content⟩
  | _ => none

/-- An alternative without content has none, or `null`. -/
def Choice.isPlain (choice : Choice) : Bool :=
  match choice.content with
  | none => true
  | some .null => true
  | some _ => false

/-- One of a set of alternatives that have no content. -/
def asPlainChoice? (alternatives : List α) (name : α → String) (json : Json) : Option α := do
  let choice ← json.choice?
  guard choice.isPlain
  alternatives.find? fun a => name a = choice.name

end Messenger.Json
