import Quadlink.Unicode.Decomposition

/-!
# Canonical composition

`compose` brings a text into the form in which every letter is written with as few characters as
possible: it takes all characters apart, puts the marks after each letter into the order of
their combining classes, and then joins what can be joined.
-/

namespace Quadlink.Unicode

/-- Put a mark in front of an ordered text, behind the marks of smaller class. -/
def insertMark (c : Char) : List Char → List Char
  | [] => [c]
  | d :: rest =>
    if combiningClass d ≠ 0 ∧ combiningClass d < combiningClass c then d :: insertMark c rest
    else c :: d :: rest

/-- Order the marks between any two letters by their classes, keeping the order of equals. -/
def orderMarks : List Char → List Char
  | [] => []
  | c :: rest => if combiningClass c = 0 then c :: orderMarks rest else insertMark c (orderMarks rest)

/-- Join a letter with what follows. `kept` are the marks met since the letter that did not join,
latest first, and `reach` is the class of the latest; a mark of that class or a smaller one is
kept from the letter by it. -/
def joinFrom (letter : Char) (kept : List Char) (reach : Nat) : List Char → List Char
  | [] => letter :: kept.reverse
  | c :: rest =>
    let k := combiningClass c
    let joined := if !kept.isEmpty && k ≤ reach then none else pair? letter c
    match joined with
    | some whole => joinFrom whole kept reach rest
    | none =>
      if k = 0 then letter :: (kept.reverse ++ joinFrom c [] 0 rest)
      else joinFrom letter (c :: kept) k rest

def joinAll : List Char → List Char
  | [] => []
  | c :: rest => if combiningClass c = 0 then joinFrom c [] 0 rest else c :: joinAll rest

/-- The composed form of a text: taken apart, put in order and joined again. Two texts that mean the
same characters have one composed form. -/
def compose (cs : List Char) : List Char :=
  joinAll (orderMarks (cs.flatMap decompose))

end Quadlink.Unicode
