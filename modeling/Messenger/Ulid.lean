/-
Generated names: 128 bits, written as twenty-six digits of base thirty-two.

The digits leave out the letters that are easily mistaken for others, and names are ordered as the
numbers that they write.
-/

namespace Messenger.Ulid

def alphabet : List Char := "0123456789ABCDEFGHJKMNPQRSTVWXYZ".toList

def width : Nat := 26

/-- So many digits of a number, the last ones if it has more. -/
def digits : Nat → Nat → List Char
  | 0, _ => []
  | places + 1, n => digits places (n / 32) ++ [alphabet.getD (n % 32) '0']

def encode (n : Nat) : String := String.ofList (digits width (n % (1 <<< 128)))

/-- Whether a text has the form of a name; the first digit has only three bits. -/
def isUlid (s : String) : Bool :=
  let cs := s.toList
  cs.length = width && cs.all alphabet.contains && cs.head?.any (· ≤ '7')

theorem length_digits (places n : Nat) : (digits places n).length = places := by
  induction places generalizing n with
  | zero => rfl
  | succ places ih => simp [digits, ih]

end Messenger.Ulid
