import Quadlink.Text.Utf8

/-!
# Tokens of JSON

A JSON text is cut into tokens before its structure is looked at. Strings keep their bytes as
they are written, because a string that nobody reads need not make sense: its escapes must have
the right form, but neither its encoding nor its surrogates are checked here. Numbers keep their
digits, because their range depends on the reader.
-/

namespace Quadlink.Json

/-- A number as written: sign, digits, digits behind the point, and sign and digits of the exponent.
What number it is depends on who reads it. -/
structure NumberToken where
  negative : Bool
  digits : List Nat
  fraction : Option (List Nat)
  exponent : Option (Bool × List Nat)
  deriving Repr, DecidableEq

inductive Token
  | openBrace
  | closeBrace
  | openBracket
  | closeBracket
  | colon
  | comma
  | null
  | true
  | false
  | number (token : NumberToken)
  | string (raw : Bytes)
  deriving Repr, DecidableEq

def byte (c : Char) : UInt8 := UInt8.ofNat c.toNat

def isSpace (b : UInt8) : Bool :=
  b == byte ' ' || b == byte '\n' || b == byte '\r' || b == byte '\t'

def isDigit (b : UInt8) : Bool :=
  byte '0' ≤ b && b ≤ byte '9'

def digitOf (b : UInt8) : Nat := b.toNat - '0'.toNat

def hexOf? (b : UInt8) : Option Nat :=
  if isDigit b then some (digitOf b)
  else if byte 'a' ≤ b && b ≤ byte 'f' then some (b.toNat - 'a'.toNat + 10)
  else if byte 'A' ≤ b && b ≤ byte 'F' then some (b.toNat - 'A'.toNat + 10)
  else none

/-- The letters that may follow a backslash, apart from `u`. -/
def isEscape (b : UInt8) : Bool :=
  ['"', '\\', '/', 'b', 'f', 'n', 'r', 't'].any (fun c => b == byte c)

/-- Read a string up to its closing quote. What is read is the string as it is written, with its
escapes: they are checked for their form and nothing else. -/
def lexString : Bytes → Option (Bytes × Bytes)
  | [] => none
  | b :: rest =>
    if b == byte '"' then some ([], rest)
    else if b == byte '\\' then
      match rest with
      | [] => none
      | e :: rest' =>
        if isEscape e then (lexString rest').map fun parts => (b :: e :: parts.1, parts.2)
        else if e == byte 'u' then
          match rest' with
          | w :: x :: y :: z :: rest'' =>
            if [w, x, y, z].all (fun h => (hexOf? h).isSome) then
              (lexString rest'').map fun parts => (b :: e :: w :: x :: y :: z :: parts.1, parts.2)
            else none
          | _ => none
        else none
    else if b < 0x20 then none
    else (lexString rest).map fun parts => (b :: parts.1, parts.2)

def takeDigits (bytes : Bytes) : List Nat × Bytes :=
  ((bytes.takeWhile isDigit).map digitOf, bytes.dropWhile isDigit)

/-- The digits behind a decimal point, if there is one; at least one must follow it. -/
def lexFraction (bytes : Bytes) : Option (Option (List Nat) × Bytes) :=
  match bytes with
  | b :: rest =>
    if b == byte '.' then
      match takeDigits rest with
      | ([], _) => none
      | (digits, rest') => some (some digits, rest')
    else some (none, bytes)
  | [] => some (none, [])

/-- The exponent, if there is one; at least one digit must follow its sign. -/
def lexExponent (bytes : Bytes) : Option (Option (Bool × List Nat) × Bytes) :=
  match bytes with
  | b :: rest =>
    if b == byte 'e' || b == byte 'E' then
      let (negative, rest) :=
        match rest with
        | s :: rest' =>
          if s == byte '-' then (Bool.true, rest')
          else if s == byte '+' then (Bool.false, rest')
          else (Bool.false, rest)
        | [] => (Bool.false, rest)
      match takeDigits rest with
      | ([], _) => none
      | (digits, rest') => some (some (negative, digits), rest')
    else some (none, bytes)
  | [] => some (none, [])

/-- Read a number; a zero is not followed by further digits. -/
def lexNumber (negative : Bool) (bytes : Bytes) : Option (NumberToken × Bytes) :=
  match takeDigits bytes with
  | ([], _) => none
  | (0 :: _ :: _, _) => none
  | (digits, rest) =>
    match lexFraction rest with
    | none => none
    | some (fraction, rest') =>
      match lexExponent rest' with
      | none => none
      | some (exponent, rest'') => some (⟨negative, digits, fraction, exponent⟩, rest'')

def lexWord (word : List Char) (token : Token) (bytes : Bytes) : Option (Token × Bytes) :=
  if bytes.take word.length = word.map byte then some (token, bytes.drop word.length) else none

/-- Read the token at the front. It goes as far as it can; what may follow it is a matter of the
structure. -/
def lexOne (bytes : Bytes) : Option (Token × Bytes) :=
  match bytes with
  | [] => none
  | b :: rest =>
    if b == byte '\x7b' then some (.openBrace, rest)
    else if b == byte '\x7d' then some (.closeBrace, rest)
    else if b == byte '[' then some (.openBracket, rest)
    else if b == byte ']' then some (.closeBracket, rest)
    else if b == byte ':' then some (.colon, rest)
    else if b == byte ',' then some (.comma, rest)
    else if b == byte '"' then (lexString rest).map fun parts => (.string parts.1, parts.2)
    else if b == byte '-' then (lexNumber Bool.true rest).map fun parts => (.number parts.1, parts.2)
    else if isDigit b then (lexNumber Bool.false bytes).map fun parts => (.number parts.1, parts.2)
    else if b == byte 'n' then lexWord ['n', 'u', 'l', 'l'] .null bytes
    else if b == byte 't' then lexWord ['t', 'r', 'u', 'e'] .true bytes
    else if b == byte 'f' then lexWord ['f', 'a', 'l', 's', 'e'] .false bytes
    else none

/-- Cut at most `fuel` tokens from a text. -/
def lexAll : Nat → Bytes → Option (List Token)
  | 0, _ => none
  | fuel + 1, bytes =>
    match bytes.dropWhile isSpace with
    | [] => some []
    | b :: rest =>
      match lexOne (b :: rest) with
      | none => none
      | some (token, rest') => (lexAll fuel rest').map (token :: ·)

/-- The tokens of a text; there are no more of them than bytes. -/
def lex (bytes : Bytes) : Option (List Token) :=
  lexAll (bytes.length + 1) bytes

end Quadlink.Json
