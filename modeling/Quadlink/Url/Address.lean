import Quadlink.Codec.Percent
import Quadlink.Text.Pieces
import Quadlink.Text.Unsigned

/-!
# Numeric addresses

A host whose last part is a number is an IPv4 address, in any of its traditional spellings; it is
written as four decimal numbers. A host in brackets is an IPv6 address; it is written with the
longest run of zero pieces left out.
-/

namespace Quadlink.Url

open Text

/-! ## IPv4 -/

namespace Ipv4

/-- How a part of an address is read. A number that is too large is no address but still a number,
so the name is no domain either. -/
inductive Number
  | value (n : Nat)
  | tooLarge
  | none
  deriving Repr, DecidableEq

def digits? (base : Nat) (cs : List Char) : Option Nat :=
  cs.foldl
    (fun acc c =>
      match acc, Codec.Percent.hexValue? c with
      | some n, some d => if d < base then some (n * base + d) else Option.none
      | _, _ => Option.none)
    (some 0)

/-- The base of a number, and its digits. -/
def radix : List Char → Nat × List Char
  | '0' :: 'x' :: rest => (16, rest)
  | '0' :: 'X' :: rest => (16, rest)
  | '0' :: c :: rest => (8, c :: rest)
  | cs => (10, cs)

/-- Read one part: hexadecimal behind `0x`, octal behind `0`, decimal otherwise; a bare `0x` is
zero. -/
def readNumber (part : List Char) : Number :=
  match part with
  | [] => .none
  | _ =>
    let (base, digits) := radix part
    match digits? base digits with
    | Option.none => .none
    | some n => if n < UInt32.size then .value n else .tooLarge

/-- The part that decides whether a name is a number: the last one, or the one before it if the
name ends in a dot. -/
def lastPart (name : List Char) : List Char :=
  match (pieces (· == '.') name).reverse with
  | [] :: last :: _ => last
  | last :: _ => last
  | [] => []

/-- Whether a name must be an IPv4 address. -/
def endsInNumber (name : List Char) : Bool :=
  let last := lastPart name
  (!last.isEmpty && last.all Char.isDigit) || readNumber last != .none

def readNumbers? : List (List Char) → Option (List Nat)
  | [] => some []
  | part :: rest =>
    match readNumber part, readNumbers? rest with
    | .value n, some ns => some (n :: ns)
    | _, _ => Option.none

/-- Put the parts together: every part but the last is one byte, and the last fills the rest. -/
def assemble? (numbers : List Nat) : Option Nat :=
  match numbers.reverse with
  | [] => Option.none
  | last :: front =>
    let bytes := front.reverse
    if last < (1 <<< (8 * (4 - bytes.length))) && bytes.all (· < 256) then
      some ((bytes.foldl (fun acc b => acc * 256 + b) 0) <<< (8 * (4 - bytes.length)) + last)
    else Option.none

def read? (name : List Char) : Option Nat :=
  let parts := pieces (· == '.') name
  let parts := if parts.getLast? == some [] then parts.dropLast else parts
  if parts.length ≤ 4 then (readNumbers? parts).bind assemble? else Option.none

def text (address : Nat) : String :=
  toString ((address >>> 24) % 256) ++ "." ++ toString ((address >>> 16) % 256) ++ "." ++
    toString ((address >>> 8) % 256) ++ "." ++ toString (address % 256)

end Ipv4

/-! ## IPv6 -/

namespace Ipv6

def readByte? (cs : List Char) : Option Nat :=
  match cs with
  | [] => none
  | ['0'] => some 0
  | '0' :: _ => none
  | _ => if cs.length ≤ 3 then (Ipv4.digits? 10 cs).filter (· < 256) else none

/-- Two pieces written as an IPv4 address. -/
def readTail? (cs : List Char) : Option (List Nat) :=
  match (pieces (· == '.') cs).map readByte? with
  | [some a, some b, some c, some d] => some [a * 256 + b, c * 256 + d]
  | _ => none

def readPiece? (cs : List Char) : Option Nat :=
  if cs.isEmpty || 4 < cs.length then none else Ipv4.digits? 16 cs

/-- Pieces between colons; the last may be an IPv4 address. -/
def readPieces? : List (List Char) → Option (List Nat)
  | [] => some []
  | [last] => if last.contains '.' then readTail? last else (readPiece? last).map fun n => [n]
  | part :: rest =>
    match readPiece? part, readPieces? rest with
    | some n, some ns => some (n :: ns)
    | _, _ => none

/-- The text before and after the first `::`. -/
def cutAtGap? : List Char → Option (List Char × List Char)
  | ':' :: ':' :: rest => some ([], rest)
  | c :: rest => (cutAtGap? rest).map fun parts => (c :: parts.1, parts.2)
  | [] => none

/-- The pieces of one side of a gap, which may be empty. An IPv4 address can only be at the end. -/
def readSide? (last : Bool) (cs : List Char) : Option (List Nat) :=
  if cs.isEmpty then some []
  else if !last && cs.contains '.' then none
  else readPieces? (pieces (· == ':') cs)

/-- The eight pieces of an address; a gap stands for at least one zero piece. -/
def read? (cs : List Char) : Option (List Nat) :=
  match cutAtGap? cs with
  | none =>
    match readSide? true cs with
    | some ns => if ns.length = 8 then some ns else none
    | none => none
  | some (before, after) =>
    match readSide? false before, readSide? true after with
    | some front, some back =>
      if front.length + back.length ≤ 7 then
        some (front ++ List.replicate (8 - front.length - back.length) 0 ++ back)
      else none
    | _, _ => none

def zerosAtFront (pieces : List Nat) : Nat :=
  (pieces.takeWhile (· == 0)).length

/-- Start and length of the first longest run of zero pieces; `index` is where `pieces` begins. -/
def longestRun (index : Nat) : List Nat → Nat × Nat
  | [] => (index, 0)
  | n :: rest =>
    let here := zerosAtFront (n :: rest)
    let later := longestRun (index + 1) rest
    if later.2 ≤ here then (index, here) else later

def pieceText (n : Nat) : List Char :=
  Nat.toDigits 16 n

def joined (pieces : List Nat) : List Char :=
  List.intercalate [':'] (pieces.map pieceText)

/-- The address with its longest run of two or more zero pieces left out. -/
def text (pieces : List Nat) : String :=
  let (start, length) := longestRun 0 pieces
  if length < 2 then String.ofList (joined pieces)
  else
    String.ofList
      (joined (pieces.take start) ++ [':', ':'] ++ joined (pieces.drop (start + length)))

/-- The form of an address in diagnostics, where one that stands for an IPv4 address shows it. -/
def shown (pieces : List Nat) : String :=
  match pieces with
  | [0, 0, 0, 0, 0, 65535, high, low] => "::ffff:" ++ Ipv4.text (high * 65536 + low)
  | _ => text pieces

end Ipv6

end Quadlink.Url
