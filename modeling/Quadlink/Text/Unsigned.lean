/-!
# Unsigned numbers in decimal

A count is written in ASCII digits, with an optional `+` in front, and must stay below a limit
that its use sets. `parseUnsigned` reads one and names the fault when it cannot; of two faults
the one met first from the left wins.
-/

namespace Quadlink.Text

/-- Why a text is no number of the wanted size. The digits are read one by one, so of several faults
the first in the text is found. -/
inductive NumberFault
  | empty
  | invalidDigit
  | tooLarge
  deriving Repr, DecidableEq

def NumberFault.message : NumberFault → String
  | .empty => "cannot parse integer from empty string"
  | .invalidDigit => "invalid digit found in string"
  | .tooLarge => "number too large to fit in target type"

def maxUInt32 : Nat := UInt32.size - 1

def maxUInt64 : Nat := UInt64.size - 1

def digitValue? (c : Char) : Option Nat :=
  if c.isDigit then some (c.toNat - '0'.toNat) else none

def readDigits (limit acc : Nat) : List Char → Except NumberFault Nat
  | [] => .ok acc
  | c :: rest =>
    match digitValue? c with
    | none => .error .invalidDigit
    | some d => if limit < acc * 10 + d then .error .tooLarge else readDigits limit (acc * 10 + d) rest

/-- Read a number that is at most `limit`. A plus sign may stand in front of it, but not alone. -/
def parseUnsigned (limit : Nat) (s : String) : Except NumberFault Nat :=
  match s.toList with
  | [] => .error .empty
  | ['+'] => .error .invalidDigit
  | '+' :: rest => readDigits limit 0 rest
  | cs => readDigits limit 0 cs

end Quadlink.Text
