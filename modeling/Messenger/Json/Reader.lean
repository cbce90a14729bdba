/-
Reading a JSON value from its tokens.

The reader keeps a stack of the arrays and objects that are still open and takes one token at a
time, so reading ends because the tokens do, however deeply the value is nested.
-/
import Messenger.Json.Token

namespace Messenger.Json

/-- An open array or object with what it holds so far, in reverse. -/
inductive Frame where
  | array (read : List Json)
  | object (read : List (Option String × Json))
  | member (read : List (Option String × Json)) (key : Option String)

/-- What may come next. -/
inductive Expected where
  | value
  | valueOrClose
  | key
  | keyOrClose
  | colon
  | commaOrClose
  | nothing (result : Json)

/-- The open containers, innermost first, and what may come next. -/
structure Reader where
  stack : List Frame
  expected : Expected

/-- Puts a complete value where it belongs. -/
def Reader.deliver (value : Json) : List Frame → Option Reader
  | [] => some ⟨[], .nothing value⟩
  | .array read :: outer => some ⟨.array (value :: read) :: outer, .commaOrClose⟩
  | .member read key :: outer => some ⟨.object ((key, value) :: read) :: outer, .commaOrClose⟩
  | .object _ :: _ => none

/-- Takes a token where a value may start. -/
def Reader.startValue (stack : List Frame) : Token → Option Reader
  | .openArray => some ⟨.array [] :: stack, .valueOrClose⟩
  | .openObject => some ⟨.object [] :: stack, .keyOrClose⟩
  | .text t => deliver (.text t) stack
  | .scalar value => deliver value stack
  | _ => none

def Reader.close : Token → List Frame → Option Reader
  | .closeArray, .array read :: outer => deliver (.array read.reverse) outer
  | .closeObject, .object read :: outer => deliver (.object read.reverse) outer
  | _, _ => none

/-- Takes the name of a member. -/
def Reader.startMember : Token → List Frame → Option Reader
  | .text key, .object read :: outer => some ⟨.member read key :: outer, .colon⟩
  | _, _ => none

/-- What may come after a comma. -/
def Reader.afterComma : List Frame → Option Reader
  | stack@(.array _ :: _) => some ⟨stack, .value⟩
  | stack@(.object _ :: _) => some ⟨stack, .key⟩
  | _ => none

def Reader.step (reader : Reader) (token : Token) : Option Reader :=
  match reader.expected, token with
  | .value, token => startValue reader.stack token
  | .valueOrClose, .closeArray => close .closeArray reader.stack
  | .valueOrClose, token => startValue reader.stack token
  | .key, token => startMember token reader.stack
  | .keyOrClose, .closeObject => close .closeObject reader.stack
  | .keyOrClose, token => startMember token reader.stack
  | .colon, .colon => some ⟨reader.stack, .value⟩
  | .commaOrClose, .comma => afterComma reader.stack
  | .commaOrClose, token => close token reader.stack
  | _, _ => none

/-- Reads a text that holds exactly one JSON value. -/
def parse? (text : String) : Option Json := do
  let tokens ← tokens? text.toList
  let reader ← tokens.foldlM Reader.step ⟨[], .value⟩
  match reader.expected with
  | .nothing result => return result
  | _ => none

end Messenger.Json
