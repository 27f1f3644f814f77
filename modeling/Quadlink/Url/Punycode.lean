import Quadlink.Text.Pieces

/-!
# Punycode

A part of a domain name with characters outside ASCII is written in ASCII: first its ASCII
characters, then a hyphen, then for each other character, in the order of their code points, the
distance from the one before. Distances are numbers of variable length in base 36 whose digits
have thresholds that adapt to the distances met so far. The sums that arise while reading must fit
into 32 bits.
-/

namespace Quadlink.Url.Punycode

def digit (n : Nat) : Char :=
  if n < 26 then Char.ofNat ('a'.toNat + n) else Char.ofNat ('0'.toNat + (n - 26))

def digitValue? (c : Char) : Option Nat :=
  if 'a' ≤ c ∧ c ≤ 'z' then some (c.toNat - 'a'.toNat)
  else if 'A' ≤ c ∧ c ≤ 'Z' then some (c.toNat - 'A'.toNat)
  else if '0' ≤ c ∧ c ≤ '9' then some (c.toNat - '0'.toNat + 26)
  else none

/-- The least value of a digit, at position `k`, that another digit follows. -/
def threshold (bias k : Nat) : Nat :=
  min 26 (max 1 (k - bias))

theorem threshold_pos (bias k : Nat) : 1 ≤ threshold bias k := by
  unfold threshold; omega

theorem threshold_le (bias k : Nat) : threshold bias k ≤ 26 := by
  unfold threshold; omega

/-- Shrink a distance until it is small, counting 36 for each step. -/
def shrink (delta steps : Nat) : Nat × Nat :=
  if 455 < delta then shrink (delta / 35) (steps + 36) else (delta, steps)
  termination_by delta
  decreasing_by omega

/-- The bias after a distance, when `count` characters are in place. -/
def adapt (delta count : Nat) (first : Bool) : Nat :=
  let start := if first then delta / 700 else delta / 2
  let (small, steps) := shrink (start + start / count) 0
  steps + 36 * small / (small + 38)

/-- The digits of a distance, least first. A digit below the threshold of its place is the last one.
-/
def writeDelta (bias k q : Nat) : List Char :=
  let t := threshold bias k
  if q < t then [digit q]
  else digit (t + (q - t) % (36 - t)) :: writeDelta bias (k + 36) ((q - t) / (36 - t))
  termination_by q
  decreasing_by
    have h1 := threshold_pos bias k
    have h2 := threshold_le bias k
    have h3 := Nat.div_le_self (q - threshold bias k) (36 - threshold bias k)
    omega

/-- How far the writing of a part has come: the distance counted so far, the bias for the next one,
how many characters are in place, and what has been written. -/
structure Progress where
  delta : Nat
  bias : Nat
  count : Nat
  out : List Char

/-- Go over the characters of a part once for the code point `n`, writing a distance at each place
where it stands. `basic` is the number of ASCII characters. -/
def writePass (basic n : Nat) (progress : Progress) : List Char → Progress
  | [] => progress
  | c :: rest =>
    if c.toNat < n then writePass basic n { progress with delta := progress.delta + 1 } rest
    else if c.toNat = n then
      writePass basic n
        { delta := 0
          bias := adapt progress.delta (progress.count + 1) (progress.count == basic)
          count := progress.count + 1
          out := progress.out ++ writeDelta progress.bias 36 progress.delta } rest
    else writePass basic n progress rest

/-- Go over a part once for each code point of a list, the list being in ascending order. -/
def writePasses (basic : Nat) (part : List Char) (n : Nat) (progress : Progress) :
    List Nat → Progress
  | [] => progress
  | m :: rest =>
    let delta := progress.delta + (m - n) * (progress.count + 1)
    let after := writePass basic m { progress with delta := delta } part
    writePasses basic part (m + 1) { after with delta := after.delta + 1 } rest

def insertPoint (n : Nat) : List Nat → List Nat
  | [] => [n]
  | m :: rest => if n < m then n :: m :: rest else if n = m then m :: rest else m :: insertPoint n rest

/-- The ASCII form of a part, without the mark that tells it from an ordinary part. -/
def encode (part : List Char) : List Char :=
  let basic := part.filter (fun c => c.toNat < 0x80)
  let points := (part.filter (fun c => 0x80 ≤ c.toNat)).foldr (fun c acc => insertPoint c.toNat acc) []
  let start := if basic.isEmpty then [] else basic ++ ['-']
  (writePasses basic.length part 0x80 ⟨0, 72, basic.length, start⟩ points).out

/-- What the sums of a form stay below. Forms that go beyond it are refused. -/
def sumLimit : Nat := UInt32.size

/-- Read a distance: the sum of its digits by their weights, added to `acc`. -/
def readDelta (bias k weight acc : Nat) : List Char → Option (Nat × List Char)
  | [] => none
  | c :: rest =>
    match digitValue? c with
    | none => none
    | some d =>
      let t := threshold bias k
      if sumLimit ≤ acc + d * weight then none
      else if d < t then some (acc + d * weight, rest)
      else if sumLimit ≤ weight * (36 - t) then none
      else readDelta bias (k + 36) (weight * (36 - t)) (acc + d * weight) rest

theorem length_of_readDelta {bias k weight acc : Nat} {cs : List Char} {n : Nat}
    {rest : List Char} (h : readDelta bias k weight acc cs = some (n, rest)) :
    rest.length < cs.length := by
  induction cs generalizing k weight acc with
  | nil => simp [readDelta] at h
  | cons c tail ih =>
    simp only [readDelta] at h
    split at h
    · simp at h
    · split at h
      · simp at h
      · split at h
        · simp only [Option.some.injEq, Prod.mk.injEq] at h
          simp [h.2]
        · split at h
          · simp at h
          · have := ih h
            simp only [List.length_cons]
            omega

/-- Insert the characters that the distances in a text give into a part. A distance counts the steps
from one insertion to the next over all places and code points. -/
def readPoints (out : List Char) (n i bias : Nat) (first : Bool) (cs : List Char) :
    Option (List Char) :=
  match cs with
  | [] => some out
  | c :: tail =>
    match h : readDelta bias 36 1 i (c :: tail) with
    | none => none
    | some (j, rest) =>
      have : rest.length < (c :: tail).length := length_of_readDelta h
      let count := out.length + 1
      let point := n + j / count
      let place := j % count
      if point.isValidChar then
        readPoints (out.take place ++ Char.ofNat point :: out.drop place) point (place + 1)
          (adapt (j - i) count first) false rest
      else none
  termination_by cs.length
  decreasing_by
    simp only [List.length_cons] at *
    omega

/-- The ASCII characters at the front of a form, and its distances. A hyphen at the very front sets
nothing apart. -/
def splitForm (form : List Char) : List Char × List Char :=
  match Text.cutAtLast? '-' form with
  | some (c :: basic, distances) => (c :: basic, distances)
  | _ => ([], form)

/-- The part that an ASCII form stands for. -/
def decode? (form : List Char) : Option (List Char) :=
  let (basic, distances) := splitForm form
  if basic.all (fun c => c.toNat < 0x80) then readPoints basic 0x80 0 72 true distances else none

end Quadlink.Url.Punycode
