/-
Columns of text: a text filled up with blanks to a width, on either side.
-/
namespace Replica.Text

/-- The blanks that fill a text up to `width` characters. -/
def fill (width : Nat) (s : String) : String :=
  String.ofList (List.replicate (width - s.length) ' ')

/-- The text at the left of a column. -/
def padRight (width : Nat) (s : String) : String := s ++ fill width s

/-- The text at the right of a column. -/
def padLeft (width : Nat) (s : String) : String := fill width s ++ s

end Replica.Text
