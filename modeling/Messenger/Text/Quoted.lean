/-
Text between double quotation marks, so that it can be read off a log line unambiguously.

The quotation mark and the backslash are written after a backslash, the usual controls by their
letter, and every other character that combines with its neighbour or leaves no ink by its code
point in braces.
-/
import Messenger.Text.Quoted.Table

namespace Messenger.Text.Quoted

/-- The hexadecimal digits of a number, without leading zeros. -/
def codePoint (n : Nat) : List Char := Nat.toDigits 16 n

/-- How one character stands between quotation marks. -/
def escape (c : Char) : List Char :=
  match c with
  | '\x00' => ['\\', '0']
  | '\t' => ['\\', 't']
  | '\r' => ['\\', 'r']
  | '\n' => ['\\', 'n']
  | '"' => ['\\', '"']
  | '\\' => ['\\', '\\']
  | c =>
    if graphemeExtend.has c || unprintable.has c then
      ['\\', 'u', '\x7b'] ++ codePoint c.toNat ++ ['\x7d']
    else [c]

/-- The text between quotation marks. -/
def quote (text : String) : String :=
  String.ofList ('"' :: text.toList.flatMap escape ++ ['"'])

end Messenger.Text.Quoted
