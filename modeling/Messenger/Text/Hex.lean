/-
Hexadecimal text of octets, two digits for each, in either case.  Main statements: each octet
gives two characters, and lower-case text reads back.
-/

namespace Messenger.Text.Hex

/-- The case of the digits above nine. -/
inductive LetterCase
  | lower
  | upper
deriving DecidableEq

def digits : LetterCase → List Char
  | .lower => "0123456789abcdef".toList
  | .upper => "0123456789ABCDEF".toList

def digit (case : LetterCase) (n : Nat) : Char := (digits case).getD n '0'

/-- The two digits of each octet, the high one first. -/
def encode (case : LetterCase) : List UInt8 → List Char
  | [] => []
  | octet :: rest =>
    digit case (octet.toNat / 16) :: digit case (octet.toNat % 16) :: encode case rest

/-- The number that a digit of either case stands for. -/
def value? (c : Char) : Option Nat := (digits .lower).idxOf? c.toLower

/-- Reads pairs of digits; an odd digit or another character is refused. -/
def decode? : List Char → Option (List UInt8)
  | [] => some []
  | [_] => none
  | high :: low :: rest => do
    let h ← value? high
    let l ← value? low
    let octets ← decode? rest
    return UInt8.ofNat (16 * h + l) :: octets

theorem length_encode (case : LetterCase) (octets : List UInt8) :
    (encode case octets).length = 2 * octets.length := by
  induction octets with
  | nil => rfl
  | cons octet rest ih => simp only [encode, List.length_cons, ih]; omega

theorem value?_digit_lower : ∀ n < 16, value? (digit .lower n) = some n := by decide

theorem decode?_encode (octets : List UInt8) : decode? (encode .lower octets) = some octets := by
  induction octets with
  | nil => rfl
  | cons octet rest ih =>
    have bound : octet.toNat < 256 := octet.toNat_lt
    simp only [encode, decode?, value?_digit_lower (octet.toNat / 16) (by omega),
      value?_digit_lower (octet.toNat % 16) (by omega), ih, bind, Option.bind, pure,
      Nat.div_add_mod, UInt8.ofNat_toNat]

end Messenger.Text.Hex
