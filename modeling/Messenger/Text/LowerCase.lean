/-
Lower case for whole texts.

Every character is replaced by its lower-case form, wherever it stands, with two exceptions:
the capital I with a dot above becomes two characters, and the capital sigma becomes the final
sigma at the end of a word.  A sigma ends a word when, looking past the characters that case
ignores, a cased character comes before it and none comes after it.
-/
import Messenger.Text.LowerCase.Table

namespace Messenger.Text

/-- The lower-case form of a character that has one character as its lower-case form. -/
def lowerChar (c : Char) : Char :=
  if c.toNat < 0x80 then c.toLower
  else match lowerRuns.find? (·.holds c.toNat) with
    | some run => run.small c.toNat
    | none => c

/-- Whether the first character that case does not ignore is cased. -/
def reachesCased (cs : List Char) : Bool :=
  match cs.dropWhile caseIgnorable.has with
  | c :: _ => cased.has c
  | [] => false

/-- The lower-case sigma between `before`, read backwards, and `after`. -/
def lowerSigma (before after : List Char) : Char :=
  if reachesCased before && !reachesCased after then 'ς' else 'σ'

/-- The lower-case form of one character in its place. -/
def lowerAt (before : List Char) (c : Char) (after : List Char) : List Char :=
  if c = 'Σ' then [lowerSigma before after]
  else if c = 'İ' then ['i', '\u0307']
  else [lowerChar c]

/-- Lower case of the rest of a text, of which `before` has been read (in reverse). -/
def lowerFrom (before : List Char) : List Char → List Char
  | [] => []
  | c :: rest => lowerAt before c rest ++ lowerFrom (c :: before) rest

/-- Lower case of a text. -/
def lowerCase (cs : List Char) : List Char := lowerFrom [] cs

end Messenger.Text
