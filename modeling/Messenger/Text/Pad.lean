/-
Columns: texts filled up with blanks to a width.  A text that is wide enough is left as it is.
-/

namespace Messenger.Text

/-- Blanks for the characters that a text is short of a width. -/
def fill (width : Nat) (s : String) : String :=
  String.ofList (List.replicate (width - s.length) ' ')

def padRight (width : Nat) (s : String) : String := s ++ fill width s

def padLeft (width : Nat) (s : String) : String := fill width s ++ s

theorem length_padRight (width : Nat) (s : String) :
    (padRight width s).length = max width s.length := by
  simp [padRight, fill]; omega

theorem length_padLeft (width : Nat) (s : String) :
    (padLeft width s).length = max width s.length := by
  simp [padLeft, fill]; omega

end Messenger.Text
