/-
JSON values.

A text is kept as `none` when it contains half of a surrogate pair: such a value can be skipped
but never read as text.  An object keeps its members in order and keeps repeated names, since it
is for the reader of an object to refuse them.
-/
import Messenger.Json.Numeral

namespace Messenger

inductive Json where
  | null
  | bool (b : Bool)
  | number (n : Numeral)
  | text (t : Option String)
  | array (elements : List Json)
  | object (members : List (Option String × Json))

namespace Json

instance : Inhabited Json := ⟨.null⟩

def str (s : String) : Json := .text (some s)

def int (n : Int) : Json := .number (.ofInt n)

def nat (n : Nat) : Json := .int n

def record (members : List (String × Json)) : Json :=
  .object (members.map fun member => (some member.1, member.2))

/-- The value of an optional field. -/
def option (f : α → Json) : Option α → Json
  | none => .null
  | some a => f a

def list (f : α → Json) (xs : List α) : Json := .array (xs.map f)

/-- The octets as an array of numbers. -/
def octets (bytes : List UInt8) : Json := list (fun b => .nat b.toNat) bytes

end Json

end Messenger
