import Quadlink.Json.Syntax

/-!
# Strings and numbers of JSON

A written string is read by resolving its escapes and decoding what results; escapes of surrogates
must come in pairs. A written number is a natural number below 2^64, a negative one down to -2^63,
or a binary floating-point number. The last takes as many leading digits as fit into 64 bits and
is scaled by a power of ten, in steps that round.
-/

namespace Quadlink.Json

/-! ## Strings -/

def hexUnit (w x y z : UInt8) : Nat :=
  (((hexOf? w).getD 0 * 16 + (hexOf? x).getD 0) * 16 + (hexOf? y).getD 0) * 16 + (hexOf? z).getD 0

def escapedByte (e : UInt8) : UInt8 :=
  if e == byte 'b' then 0x08
  else if e == byte 'f' then 0x0C
  else if e == byte 'n' then 0x0A
  else if e == byte 'r' then 0x0D
  else if e == byte 't' then 0x09
  else e

def isHighSurrogate (n : Nat) : Bool := 0xD800 ≤ n && n ≤ 0xDBFF

def isLowSurrogate (n : Nat) : Bool := 0xDC00 ≤ n && n ≤ 0xDFFF

def pairedChar (high low : Nat) : Char :=
  Char.ofNat (0x10000 + (high - 0xD800) * 0x400 + (low - 0xDC00))

/-- Whether a low surrogate is escaped next, and what follows it. Half of a pair is no character, so
both halves are read at once. -/
def lowSurrogate? : Bytes → Option (Nat × Bytes)
  | b :: u :: w :: x :: y :: z :: rest =>
    if b == byte '\\' && u == byte 'u' && isLowSurrogate (hexUnit w x y z) then
      some (hexUnit w x y z, rest)
    else none
  | _ => none

theorem length_of_lowSurrogate? {bytes rest : Bytes} {low : Nat}
    (h : lowSurrogate? bytes = some (low, rest)) : rest.length < bytes.length := by
  unfold lowSurrogate? at h
  split at h
  · split at h
    · simp only [Option.some.injEq, Prod.mk.injEq] at h
      obtain ⟨_, rfl⟩ := h
      simp only [List.length_cons]
      omega
    · simp at h
  · simp at h

/-- The bytes of a string with its escapes resolved. They may still be no text: the bytes in between
are taken as they stand. -/
def resolveEscapes (raw : Bytes) : Option Bytes :=
  match raw with
  | [] => some []
  | b :: rest =>
    if b == byte '\\' then
      match rest with
      | [] => none
      | e :: rest' =>
        if e == byte 'u' then
          match rest' with
          | w :: x :: y :: z :: rest'' =>
            let n := hexUnit w x y z
            if isLowSurrogate n then none
            else if isHighSurrogate n then
              match h : lowSurrogate? rest'' with
              | none => none
              | some (low, after) =>
                have : after.length < rest''.length := length_of_lowSurrogate? h
                (resolveEscapes after).map (String.utf8EncodeChar (pairedChar n low) ++ ·)
            else (resolveEscapes rest'').map (String.utf8EncodeChar (Char.ofNat n) ++ ·)
          | _ => none
        else (resolveEscapes rest').map (escapedByte e :: ·)
    else (resolveEscapes rest).map (b :: ·)
  termination_by raw.length
  decreasing_by
    all_goals
      simp only [List.length_cons]
      omega

/-- The text of a written string. -/
def readString? (raw : Bytes) : Option String :=
  match resolveEscapes raw with
  | none => none
  | some bytes =>
    match Text.decode bytes with
    | .ok text => some text
    | .error _ => none

/-! ## Numbers -/

/-- A number of JSON. Whole numbers are kept exactly if they fit into 64 bits; the floating-point
ones are given by their bits, so that equal values are the same. -/
inductive Number
  | natural (n : Nat)
  | negative (n : Nat)
  | float (bits : UInt64)
  deriving Repr, DecidableEq

def maxNatural : Nat := UInt64.size - 1

/-- Add digits to a number as long as it stays below 2^64; the rest of the digits is left. -/
def gather (acc : Nat) : List Nat → Nat × List Nat
  | [] => (acc, [])
  | d :: rest => if maxNatural < acc * 10 + d then (acc, d :: rest) else gather (acc * 10 + d) rest

/-- Divide by large powers of ten until the remaining exponent is small; nothing is left of a
number after a few steps. -/
def scaleDown : Nat → Float → Nat → Float
  | 0, f, _ => f
  | steps + 1, f, exponent =>
    if exponent ≤ 308 then f / Float.ofScientific 1 false exponent
    else if f == 0.0 then f
    else scaleDown steps (f / Float.ofScientific 1 false 308) (exponent - 308)

/-- A number times a power of ten, if it is not too large. -/
def scale? (significand : Nat) (exponent : Int) : Option Float :=
  let f := Float.ofNat significand
  if exponent < 0 then some (scaleDown 4 f exponent.natAbs)
  else if 308 < exponent then if significand = 0 then some f else none
  else
    let scaled := f * Float.ofScientific 1 false exponent.toNat
    if scaled.isInf then none else some scaled

/-- The value of some digits, but no more than 2^31. Exponents beyond that make no difference, and
their digits may be many. -/
def boundedValue (digits : List Nat) : Nat :=
  digits.foldl (fun acc d => min (acc * 10 + d) (1 <<< 31)) 0

/-- The floating-point number nearest in the sense of the module text, if it is finite. -/
def NumberToken.float? (token : NumberToken) : Option Float :=
  let (whole, dropped) := gather 0 token.digits
  let fraction := token.fraction.getD []
  let (significand, rest) := gather whole fraction
  let shift : Int := (dropped.length : Int) - ((fraction.length - rest.length : Nat) : Int)
  let exponent : Int :=
    match token.exponent with
    | none => shift
    | some (true, digits) => shift - boundedValue digits
    | some (false, digits) => shift + boundedValue digits
  (scale? significand exponent).map fun f => if token.negative then -f else f

/-- The natural number that a token writes, if it has neither sign nor point nor exponent. It may be
of any size. -/
def NumberToken.natural? (token : NumberToken) : Option Nat :=
  match token.negative, token.fraction, token.exponent with
  | false, none, none => some (token.digits.foldl (fun acc d => acc * 10 + d) 0)
  | _, _, _ => none

/-- The value of a number; a floating-point number that is too large has none. A negative zero is a
floating-point number, because it is no whole number of its own. -/
def NumberToken.read? (token : NumberToken) : Option Number :=
  let floating := token.float?.map fun f => Number.float f.toBits
  match token.fraction, token.exponent with
  | none, none =>
    let n := token.digits.foldl (fun acc d => acc * 10 + d) 0
    if token.negative then
      if n = 0 ∨ 1 <<< 63 < n then floating else some (.negative n)
    else if n ≤ maxNatural then some (.natural n)
    else floating
  | _, _ => floating

end Quadlink.Json
