import Quadlink.Json.Value

/-!
# Writing JSON

The text of a JSON value, without blanks. Quotes, backslashes and control characters of strings
are escaped. A floating-point number is written with seventeen digits, which tell it from every
other one.
-/

namespace Quadlink.Json

/-! ## Strings -/

def hexDigit (n : Nat) : Char :=
  if n < 10 then Char.ofNat ('0'.toNat + n) else Char.ofNat ('a'.toNat + (n - 10))

/-- One character of a written string. Nothing but quotes, backslashes and control characters needs
to be escaped. -/
def escapeChar (c : Char) : List Char :=
  if c = '"' then ['\\', '"']
  else if c = '\\' then ['\\', '\\']
  else if c.toNat < 0x20 then
    ['\\', 'u', '0', '0', hexDigit (c.toNat / 16), hexDigit (c.toNat % 16)]
  else [c]

def quoted (s : String) : String := String.ofList ('"' :: s.toList.flatMap escapeChar ++ ['"'])

/-! ## Numbers -/

/-- The first seventeen digits of a positive quotient as a whole number, and the power of ten that
it stands by. -/
def leadingDigits (top bottom : Nat) : Nat × Int :=
  let atLeast (e : Int) : Bool :=
    if e < 0 then bottom ≤ top * Nat.pow 10 e.natAbs else bottom * Nat.pow 10 e.natAbs ≤ top
  let guess : Int := ((toString top).length : Int) - (toString bottom).length
  let first := if atLeast guess then guess else guess - 1
  let shift := 16 - first
  let up := if shift < 0 then top else top * Nat.pow 10 shift.natAbs
  let down := if shift < 0 then bottom * Nat.pow 10 shift.natAbs else bottom
  ((2 * up + down) / (2 * down), -shift)

/-- A finite floating-point number given by its bits. -/
def floatText (bits : UInt64) : String :=
  let n := bits.toNat
  let minus := if n >>> 63 = 1 then "-" else ""
  let stored := (n >>> 52) % 2048
  let mantissa := if stored = 0 then n % (1 <<< 52) else n % (1 <<< 52) + (1 <<< 52)
  let exponent : Int := (max stored 1 : Nat) - 1075
  if mantissa = 0 then minus ++ "0.0"
  else
    let (digits, power) :=
      if exponent < 0 then leadingDigits mantissa (1 <<< exponent.natAbs)
      else leadingDigits (mantissa <<< exponent.natAbs) 1
    minus ++ toString digits ++ "e" ++ toString power

def Number.text : Number → String
  | .natural n => toString n
  | .negative n => "-" ++ toString n
  | .float bits => floatText bits

/-! ## Values -/

mutual

def Value.text : Value → String
  | .null => "null"
  | .bool b => if b then "true" else "false"
  | .number n => n.text
  | .string s => quoted s
  | .array items => "[" ++ itemsText items ++ "]"
  | .object members => "\x7b" ++ membersText members ++ "\x7d"

def itemsText : List Value → String
  | [] => ""
  | [item] => item.text
  | item :: rest => item.text ++ "," ++ itemsText rest

def membersText : List (String × Value) → String
  | [] => ""
  | [(name, value)] => quoted name ++ ":" ++ value.text
  | (name, value) :: rest => quoted name ++ ":" ++ value.text ++ "," ++ membersText rest

end

end Quadlink.Json
