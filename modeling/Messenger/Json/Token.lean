/-
The tokens of a JSON text.

The text is read character by character through a small machine: it is between tokens, or inside
a word, a number or a text, or inside an escape of a text.  A word or a number ends at the first
character that cannot belong to it, and that character is then read as the start of the next
token.  A text ends at its closing quotation mark; only then are the surrogate units among its
escapes joined in pairs.
-/
import Messenger.Json.Basic

namespace Messenger.Json

/-- A token; words and numbers are already values. -/
inductive Token where
  | openArray
  | closeArray
  | openObject
  | closeObject
  | comma
  | colon
  | text (t : Option String)
  | scalar (value : Json)

/-- A part of a text: a character, or a sixteen-bit unit from a numbered escape. -/
inductive Piece where
  | char (c : Char)
  | unit (n : Nat)

def isHighSurrogate (n : Nat) : Bool := 0xD800 ≤ n && n < 0xDC00

def isLowSurrogate (n : Nat) : Bool := 0xDC00 ≤ n && n < 0xE000

/-- Joins high and low units to characters; a unit without its other half spoils the text. -/
def joinUnits : List Piece → Option (List Char)
  | [] => some []
  | .char c :: rest => (joinUnits rest).map (c :: ·)
  | .unit high :: .unit low :: rest =>
    if isHighSurrogate high then
      if isLowSurrogate low then
        (joinUnits rest).map
          (Char.ofNat (0x10000 + (high - 0xD800) * 0x400 + (low - 0xDC00)) :: ·)
      else none
    else if isLowSurrogate high then none
    else (joinUnits (.unit low :: rest)).map (Char.ofNat high :: ·)
  | .unit n :: rest =>
    if isHighSurrogate n || isLowSurrogate n then none
    else (joinUnits rest).map (Char.ofNat n :: ·)

/-- Where the machine stands; what has been read of a token is kept in reverse. -/
inductive Mode where
  | between
  | word (read : List Char)
  | number (read : List Char)
  | text (read : List Piece)
  | escape (read : List Piece)
  | numbered (read : List Piece) (digits : List Nat)

/-- The white space of JSON. -/
def isSpace (c : Char) : Bool := c = ' ' || c = '\t' || c = '\n' || c = '\r'

def isNumeralChar (c : Char) : Bool :=
  Numeral.isDigit c || c = '-' || c = '+' || c = '.' || c = 'e' || c = 'E'

def word? : List Char → Option Json
  | ['n', 'u', 'l', 'l'] => some .null
  | ['t', 'r', 'u', 'e'] => some (.bool true)
  | ['f', 'a', 'l', 's', 'e'] => some (.bool false)
  | _ => none

def shortEscape? : Char → Option Char
  | '"' => some '"'
  | '\\' => some '\\'
  | '/' => some '/'
  | 'b' => some '\x08'
  | 'f' => some '\x0c'
  | 'n' => some '\n'
  | 'r' => some '\r'
  | 't' => some '\t'
  | _ => none

def hexDigit? (c : Char) : Option Nat := "0123456789abcdef".toList.idxOf? c.toLower

/-- The tokens read so far, in reverse, and where the machine stands. -/
structure Lexer where
  mode : Mode
  tokens : List Token

def Lexer.startToken (tokens : List Token) (c : Char) : Option Lexer :=
  if isSpace c then some ⟨.between, tokens⟩
  else match c with
    | '[' => some ⟨.between, .openArray :: tokens⟩
    | ']' => some ⟨.between, .closeArray :: tokens⟩
    | '\x7b' => some ⟨.between, .openObject :: tokens⟩
    | '\x7d' => some ⟨.between, .closeObject :: tokens⟩
    | ',' => some ⟨.between, .comma :: tokens⟩
    | ':' => some ⟨.between, .colon :: tokens⟩
    | '"' => some ⟨.text [], tokens⟩
    | c =>
      if c = '-' || Numeral.isDigit c then some ⟨.number [c], tokens⟩
      else if c.isAlpha then some ⟨.word [c], tokens⟩
      else none

/-- The tokens after a number or word that ends here. -/
def Lexer.closed? : Lexer → Option (List Token)
  | ⟨.between, tokens⟩ => some tokens
  | ⟨.word read, tokens⟩ => (word? read.reverse).map fun value => .scalar value :: tokens
  | ⟨.number read, tokens⟩ =>
    (Numeral.ofChars? read.reverse).map fun n => .scalar (.number n) :: tokens
  | _ => none

def Lexer.step (lexer : Lexer) (c : Char) : Option Lexer :=
  match lexer with
  | ⟨.between, tokens⟩ => startToken tokens c
  | ⟨.word read, tokens⟩ =>
    if c.isAlpha then some ⟨.word (c :: read), tokens⟩
    else lexer.closed?.bind (startToken · c)
  | ⟨.number read, tokens⟩ =>
    if isNumeralChar c then some ⟨.number (c :: read), tokens⟩
    else lexer.closed?.bind (startToken · c)
  | ⟨.text read, tokens⟩ =>
    if c = '"' then
      some ⟨.between, .text ((joinUnits read.reverse).map String.ofList) :: tokens⟩
    else if c = '\\' then some ⟨.escape read, tokens⟩
    else if c.toNat < 0x20 then none
    else some ⟨.text (.char c :: read), tokens⟩
  | ⟨.escape read, tokens⟩ =>
    if c = 'u' then some ⟨.numbered read [], tokens⟩
    else (shortEscape? c).map fun c => ⟨.text (.char c :: read), tokens⟩
  | ⟨.numbered read digits, tokens⟩ => do
    let digit ← hexDigit? c
    match digits with
    | [third, second, first] =>
      return ⟨.text (.unit (((first * 16 + second) * 16 + third) * 16 + digit) :: read), tokens⟩
    | digits => return ⟨.numbered read (digit :: digits), tokens⟩

/-- The tokens of a text, or `none` when some part of it is no token. -/
def tokens? (cs : List Char) : Option (List Token) := do
  let lexer ← cs.foldlM Lexer.step ⟨.between, []⟩
  let tokens ← lexer.closed?
  return tokens.reverse

end Messenger.Json
