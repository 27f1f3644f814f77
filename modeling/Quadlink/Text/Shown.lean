import Quadlink.Unicode.Printable

/-!
# Text in diagnostics

A diagnostic shows a text between double quotes. Quotes and backslashes stand behind a backslash,
the common controls have letters, and every other character that does not print is given by its
code point.
-/

namespace Quadlink.Text

def codePointChars (c : Char) : List Char :=
  ['\\', 'u', '\x7b'] ++ Nat.toDigits 16 c.toNat ++ ['\x7d']

/-- One character of a shown text. What does not print is shown by its number. -/
def shownChar (c : Char) : List Char :=
  if c = '"' then ['\\', '"']
  else if c = '\\' then ['\\', '\\']
  else if c = '\n' then ['\\', 'n']
  else if c = '\r' then ['\\', 'r']
  else if c = '\t' then ['\\', 't']
  else if c.toNat = 0 then ['\\', '0']
  else if Unicode.isPrintable c then [c]
  else codePointChars c

def shown (s : String) : String :=
  String.ofList ('"' :: s.toList.flatMap shownChar ++ ['"'])

/-- A named list of fields, in the form `Name \x7b a: 1, b: 2 \x7d`; `more` says that some fields
are left out. -/
def shownFields (name : String) (fields : List (String × String)) (more : Bool) : String :=
  let shownPairs := fields.map (fun field => field.1 ++ ": " ++ field.2)
  let all := if more then shownPairs ++ [".."] else shownPairs
  name ++ " \x7b " ++ String.intercalate ", " all ++ " \x7d"

def shownOption (value : Option String) : String :=
  match value with
  | none => "None"
  | some text => "Some(" ++ text ++ ")"

end Quadlink.Text
