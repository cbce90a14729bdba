/-
Writing JSON values, on one line or indented by two blanks for each level.
-/
import Messenger.Json.Basic

namespace Messenger.Json

def controlDigits (n : Nat) : List Char := [Nat.digitChar (n / 16), Nat.digitChar (n % 16)]

/-- How one character stands in a text. -/
def escape (c : Char) : List Char :=
  match c with
  | '"' => ['\\', '"']
  | '\\' => ['\\', '\\']
  | '\x08' => ['\\', 'b']
  | '\t' => ['\\', 't']
  | '\n' => ['\\', 'n']
  | '\x0c' => ['\\', 'f']
  | '\r' => ['\\', 'r']
  | c => if c.toNat < 0x20 then ['\\', 'u', '0', '0'] ++ controlDigits c.toNat else [c]

def quote (s : String) : String := String.ofList ('"' :: s.toList.flatMap escape ++ ['"'])

/-- What cannot be a text is written as nothing. -/
def quoteText (t : Option String) : String := (t.map quote).getD "null"

mutual

/-- The value on one line, without blanks. -/
def compact : Json → String
  | .null => "null"
  | .bool b => if b then "true" else "false"
  | .number n => String.ofList n.toChars
  | .text t => quoteText t
  | .array elements => "[" ++ compactElements elements ++ "]"
  | .object members => "\x7b" ++ compactMembers members ++ "\x7d"

def compactElements : List Json → String
  | [] => ""
  | [last] => compact last
  | element :: rest => compact element ++ "," ++ compactElements rest

def compactMembers : List (Option String × Json) → String
  | [] => ""
  | [(key, last)] => quoteText key ++ ":" ++ compact last
  | (key, value) :: rest => quoteText key ++ ":" ++ compact value ++ "," ++ compactMembers rest

end

def newLine (depth : Nat) : String := "\n" ++ String.ofList (List.replicate (2 * depth) ' ')

mutual

/-- The value over several lines; an empty array or object stays on one. -/
def indented (depth : Nat) : Json → String
  | .null => "null"
  | .bool b => if b then "true" else "false"
  | .number n => String.ofList n.toChars
  | .text t => quoteText t
  | .array [] => "[]"
  | .array elements =>
    "[" ++ indentedElements (depth + 1) elements ++ newLine depth ++ "]"
  | .object [] => "\x7b\x7d"
  | .object members =>
    "\x7b" ++ indentedMembers (depth + 1) members ++ newLine depth ++ "\x7d"

def indentedElements (depth : Nat) : List Json → String
  | [] => ""
  | [last] => newLine depth ++ indented depth last
  | element :: rest =>
    newLine depth ++ indented depth element ++ "," ++ indentedElements depth rest

def indentedMembers (depth : Nat) : List (Option String × Json) → String
  | [] => ""
  | [(key, last)] => newLine depth ++ quoteText key ++ ": " ++ indented depth last
  | (key, value) :: rest =>
    newLine depth ++ quoteText key ++ ": " ++ indented depth value ++ ","
      ++ indentedMembers depth rest

end

def pretty (json : Json) : String := indented 0 json

end Messenger.Json
