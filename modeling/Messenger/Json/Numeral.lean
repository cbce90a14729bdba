/-
Numbers as they are written in JSON.

A numeral keeps the digits that were read, because what a number means depends on who asks: a
counter takes only a whole number written without point or exponent, a coordinate takes any.
`ofChars?` is the grammar, `toInt?` and `toDouble?` are the two readings.
-/

namespace Messenger

/-- A number as written: sign, digits before and after the point, power of ten. -/
structure Numeral where
  negative : Bool
  whole : List Nat
  fraction : List Nat
  exponent : Option Int
deriving DecidableEq, Repr

namespace Numeral

def valueOf (digits : List Nat) : Nat := digits.foldl (fun n digit => 10 * n + digit) 0

def digitsOf (n : Nat) : List Nat := (Nat.toDigits 10 n).map fun c => c.toNat - '0'.toNat

def ofInt (n : Int) : Numeral := ⟨n < 0, digitsOf n.natAbs, [], none⟩

def isDigit (c : Char) : Bool := '0' ≤ c && c ≤ '9'

def digitOf (c : Char) : Nat := c.toNat - '0'.toNat

def spanDigits (cs : List Char) : List Nat × List Char :=
  ((cs.takeWhile isDigit).map digitOf, cs.dropWhile isDigit)

/-- An exponent part: a mark, an optional sign, at least one digit and nothing more. -/
def exponent? : List Char → Option (Option Int)
  | [] => some none
  | mark :: rest =>
    let (negative, rest) := match rest with
      | '-' :: rest => (true, rest)
      | '+' :: rest => (false, rest)
      | rest => (false, rest)
    match spanDigits rest with
    | ([], _) => none
    | (digits, []) =>
      if mark = 'e' ∨ mark = 'E' then
        some (some (if negative then -(valueOf digits : Int) else valueOf digits))
      else none
    | (_, _ :: _) => none

/-- The part after the whole digits. -/
def tail? (negative : Bool) (whole : List Nat) : List Char → Option Numeral
  | '.' :: rest =>
    match spanDigits rest with
    | ([], _) => none
    | (fraction, rest) => (exponent? rest).map (⟨negative, whole, fraction, ·⟩)
  | rest => (exponent? rest).map (⟨negative, whole, [], ·⟩)

/-- An unsigned numeral: no leading zero stands before another digit. -/
def unsigned? (negative : Bool) (cs : List Char) : Option Numeral :=
  match spanDigits cs with
  | ([], _) => none
  | (0 :: _ :: _, _) => none
  | (whole, rest) => tail? negative whole rest

def ofChars? : List Char → Option Numeral
  | '-' :: rest => unsigned? true rest
  | cs => unsigned? false cs

/-- The integer that a numeral writes without point or exponent.  Minus zero is no integer. -/
def toInt? (n : Numeral) : Option Int :=
  match n.fraction, n.exponent with
  | [], none =>
    let magnitude := valueOf n.whole
    if n.negative then if magnitude = 0 then none else some (-magnitude) else some magnitude
  | _, _ => none

def toChars (n : Numeral) : List Char :=
  let write := List.map fun digit => Nat.digitChar digit
  (if n.negative then ['-'] else []) ++ write n.whole
    ++ (if n.fraction.isEmpty then [] else '.' :: write n.fraction)
    ++ match n.exponent with
      | none => []
      | some e => 'e' :: (toString e).toList

end Numeral

end Messenger
