/-
Structured documents and their indented text: two blanks a level, one entry a
line, names and texts in double quotes.
-/
import Replica.Bytes

namespace Replica.Text

/-- A document. -/
inductive Document
  | text (value : String)
  | number (value : Nat)
  | list (items : List Document)
  | record (fields : List (String × Document))
  deriving Inhabited

namespace Document

/-- How a text in a document writes one character. -/
def escape (c : Char) : List Char :=
  if c = '"' then ['\\', '"']
  else if c = '\\' then ['\\', '\\']
  else if c = '\n' then ['\\', 'n']
  else if c = '\r' then ['\\', 'r']
  else if c = '\t' then ['\\', 't']
  else if c = Char.ofNat 8 then ['\\', 'b']
  else if c = Char.ofNat 12 then ['\\', 'f']
  else if c.toNat < 32 then ['\\', 'u'] ++ hexDigits 4 c.toNat
  else [c]

/-- A text in double quotes. -/
def quote (s : String) : String := String.ofList ('"' :: s.toList.flatMap escape ++ ['"'])

/-- The start of a line at a level. -/
def indent (level : Nat) : String := String.ofList (List.replicate (2 * level) ' ')

mutual

/-- The indented text of a document that starts at a level. -/
def render (level : Nat) : Document → String
  | text value => quote value
  | number value => toString value
  | list [] => "[]"
  | list (item :: items) =>
    "[\n" ++ indent (level + 1) ++ render (level + 1) item ++ renderItems level items
      ++ "\n" ++ indent level ++ "]"
  | record [] => "\x7b\x7d"
  | record (field :: fields) =>
    "\x7b\n" ++ indent (level + 1) ++ quote field.1 ++ ": " ++ render (level + 1) field.2
      ++ renderFields level fields ++ "\n" ++ indent level ++ "\x7d"

/-- The items after the first. -/
def renderItems (level : Nat) : List Document → String
  | [] => ""
  | item :: items =>
    ",\n" ++ indent (level + 1) ++ render (level + 1) item ++ renderItems level items

/-- The fields after the first. -/
def renderFields (level : Nat) : List (String × Document) → String
  | [] => ""
  | field :: fields =>
    ",\n" ++ indent (level + 1) ++ quote field.1 ++ ": " ++ render (level + 1) field.2
      ++ renderFields level fields

end

end Document

end Replica.Text
