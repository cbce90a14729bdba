/-
Octets: what a body or a key is made of.

A text is sent as the octets of its UTF-8 form.  Not all octets are a text, so the way back may
fail; `Octets.text?_ofText` says that it does not fail for what was made from a text.
-/

namespace Messenger

/-- A sequence of octets. -/
abbrev Octets := List UInt8

namespace Octets

/-- The UTF-8 form of a text. -/
def ofText (text : String) : Octets := text.toUTF8.data.toList

/-- The text whose UTF-8 form the octets are. -/
def text? (octets : Octets) : Option String := String.fromUTF8? ⟨octets.toArray⟩

@[simp] theorem text?_ofText (text : String) : text? (ofText text) = some text := by
  have valid : ByteArray.IsValidUTF8 ⟨text.toByteArray.data⟩ := text.isValidUTF8
  simp [text?, ofText, String.fromUTF8?, String.toUTF8, String.fromUTF8, valid]

end Octets

end Messenger
