import Quadlink.Toml.Scalar

/-!
# Dates and times of TOML

A moment is a date, a time of day, or both with at most one offset from universal time. It is
written in one of several forms, and `Moment.text` gives the same moment in one form only: a `T`
between date and time, no more than nine digits of a second and no zeros at their end, and a `Z`
or a signed offset.
-/

namespace Quadlink.Toml

structure Date where
  year : Nat
  month : Nat
  day : Nat
  deriving Repr, DecidableEq

structure Clock where
  hour : Nat
  minute : Nat
  second : Nat
  fraction : List Char
  deriving Repr, DecidableEq

/-- How far a clock is ahead of universal time. A clock of that time itself is written by a letter.
-/
inductive Offset
  | universal
  | shifted (behind : Bool) (hours minutes : Nat)
  deriving Repr, DecidableEq

inductive Moment
  | day (date : Date)
  | time (clock : Clock)
  | both (date : Date) (clock : Clock) (offset : Option Offset)
  deriving Repr, DecidableEq

/-! ## Reading -/

def fixed? (count : Nat) (cs : List Char) : Option (Nat × List Char) :=
  match digits? 10 (cs.take count) with
  | some digits => if digits.length = count then some (ofDigits 10 digits, cs.drop count) else none
  | none => none

def pair? (limit : Nat) (cs : List Char) : Option (Nat × List Char) :=
  (fixed? 2 cs).filter fun parts => parts.1 ≤ limit

def after? (c : Char) (cs : List Char) : Option (List Char) := Text.dropPrefix? [c] cs

def isLeapYear (year : Nat) : Bool :=
  year % 4 == 0 && (year % 100 != 0 || year % 400 == 0)

def daysIn (year month : Nat) : Nat :=
  match month with
  | 2 => if isLeapYear year then 29 else 28
  | 4 | 6 | 9 | 11 => 30
  | _ => 31

/-- Read a date that the calendar has. -/
def readDate? (cs : List Char) : Option (Date × List Char) := do
  let (year, cs) ← fixed? 4 cs
  let (month, cs) ← pair? 12 (← after? '-' cs)
  let (day, cs) ← pair? (daysIn year month) (← after? '-' cs)
  if month = 0 ∨ day = 0 then none else return (⟨year, month, day⟩, cs)

def readFraction? (cs : List Char) : Option (List Char × List Char) :=
  match cs with
  | '.' :: rest =>
    let digits := rest.takeWhile Char.isDigit
    if digits.isEmpty then none else some (digits, rest.dropWhile Char.isDigit)
  | _ => some ([], cs)

/-- Read a time of day; a minute may have a leap second. -/
def readClock? (cs : List Char) : Option (Clock × List Char) := do
  let (hour, cs) ← pair? 23 cs
  let (minute, cs) ← pair? 59 (← after? ':' cs)
  let (second, cs) ← pair? 60 (← after? ':' cs)
  let (fraction, cs) ← readFraction? cs
  return (⟨hour, minute, second, fraction⟩, cs)

/-- Read an offset up to the end. -/
def readOffset? (cs : List Char) : Option (Option Offset) :=
  match cs with
  | [] => some none
  | ['Z'] | ['z'] => some (some .universal)
  | sign :: rest => do
    if sign != '+' && sign != '-' then none
    else
      let (hours, rest) ← pair? 23 rest
      let (minutes, rest) ← pair? 59 (← after? ':' rest)
      if rest.isEmpty then return some (.shifted (sign == '-') hours minutes) else none

/-- Read a moment up to the end: a date, a time of day, or both. -/
def Moment.read? (cs : List Char) : Option Moment :=
  match readDate? cs with
  | some (date, []) => some (.day date)
  | some (date, separator :: rest) =>
    if ['T', 't', ' '].contains separator then do
      let (clock, rest) ← readClock? rest
      return .both date clock (← readOffset? rest)
    else none
  | none =>
    match readClock? cs with
    | some (clock, []) => some (.time clock)
    | _ => none

/-! ## Writing -/

def padded (count n : Nat) : String :=
  let digits := toString n
  String.ofList (List.replicate (count - digits.length) '0') ++ digits

def Date.text (date : Date) : String :=
  padded 4 date.year ++ "-" ++ padded 2 date.month ++ "-" ++ padded 2 date.day

def Clock.text (clock : Clock) : String :=
  let fraction := Text.dropTrailing (· == '0') (clock.fraction.take 9)
  padded 2 clock.hour ++ ":" ++ padded 2 clock.minute ++ ":" ++ padded 2 clock.second ++
    (if fraction.isEmpty then "" else "." ++ String.ofList fraction)

/-- An offset of nothing counts as one ahead. -/
def Offset.text : Offset → String
  | .universal => "Z"
  | .shifted behind hours minutes =>
    let sign := if behind && (hours != 0 || minutes != 0) then "-" else "+"
    sign ++ padded 2 hours ++ ":" ++ padded 2 minutes

def Moment.text : Moment → String
  | .day date => date.text
  | .time clock => clock.text
  | .both date clock offset =>
    date.text ++ "T" ++ clock.text ++ ((offset.map Offset.text).getD "")

/-- Read a moment at the front of a text. A blank may stand between date and time. -/
def readMoment? (cs : List Char) : Option (Moment × List Char) :=
  let token := cs.takeWhile isNumberPart
  let rest := cs.dropWhile isNumberPart
  match Moment.read? token, rest with
  | some (.day date), ' ' :: c :: tail =>
    if c.isDigit then
      let clock := (c :: tail).takeWhile isNumberPart
      (Moment.read? (token ++ ' ' :: clock)).map fun moment =>
        (moment, (c :: tail).dropWhile isNumberPart)
    else some (.day date, rest)
  | some moment, _ => some (moment, rest)
  | none, _ => none

end Quadlink.Toml
