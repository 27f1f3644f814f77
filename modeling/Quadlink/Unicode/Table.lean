import Quadlink.Codec.Percent
import Quadlink.Text.Pieces

/-!
# Tables of character properties

A property of characters is written as a text of items, one for each run of code points, in
ascending order: `41-5a` is a run, `41-5a=3` a run with a value, `100-12e/2=101` a run of every
second code point, and `df=73+73` a code point with two values. All numbers are hexadecimal.
-/

namespace Quadlink.Unicode

/-- A run of code points, `stride` apart, with the values written for it. Alternating upper and
lower case letters make runs with a stride of two. -/
structure Span where
  first : Nat
  last : Nat
  stride : Nat
  values : List Nat
  deriving Repr, DecidableEq, Inhabited

abbrev Table := Array Span

def readHex (cs : List Char) : Nat :=
  cs.foldl (fun acc c => acc * 16 + (Codec.Percent.hexValue? c).getD 0) 0

def Span.read (item : List Char) : Span :=
  let (run, values) :=
    match Text.cutAt? '=' item with
    | some (run, values) => (run, (Text.pieces (· == '+') values).map readHex)
    | none => (item, [])
  let (bounds, stride) :=
    match Text.cutAt? '/' run with
    | some (bounds, stride) => (bounds, readHex stride)
    | none => (run, 1)
  match Text.cutAt? '-' bounds with
  | some (first, last) => ⟨readHex first, readHex last, stride, values⟩
  | none => ⟨readHex bounds, readHex bounds, stride, values⟩

/-- Read a written table. It is written as text because that is how it stays readable and short. -/
def Table.read (text : String) : Table :=
  (((Text.pieces (fun c => c == ' ' || c == '\n') text.toList).filter (fun item => !item.isEmpty)).map Span.read).toArray

/-- Halve the range `lo ≤ i < hi` until the last run that starts at or before `n` is found. -/
def Table.search (table : Table) (n lo hi : Nat) : Option Span :=
  if _h : hi ≤ lo + 1 then table[lo]?
  else
    let mid := (lo + hi) / 2
    match table[mid]? with
    | none => none
    | some span =>
      if n < span.first then Table.search table n lo mid else Table.search table n mid hi
  termination_by hi - lo

/-- The run that holds a code point. -/
def Table.find? (table : Table) (n : Nat) : Option Span :=
  match table.search n 0 table.size with
  | none => none
  | some span =>
    if span.first ≤ n && n ≤ span.last && (n - span.first) % span.stride == 0 then some span
    else none

def Table.contains (table : Table) (n : Nat) : Bool :=
  (table.find? n).isSome

/-- The first value of the run of a code point. -/
def Table.value? (table : Table) (n : Nat) : Option Nat :=
  (table.find? n).bind fun span => span.values.head?

end Quadlink.Unicode
