import Quadlink.Codec.Percent
import Quadlink.Text.Blank
import Quadlink.Text.Pieces

/-!
# Scalars of TOML

Strings and integers as a TOML document writes them. A string stands between single or double
quotes, or between three of them, where it may hold line ends. Escapes count between double quotes
only. Integers are decimal with a sign, or hexadecimal, octal or binary without one; single
underscores may stand between digits.

Every reader gets the characters behind what has been recognized and returns what it read with the
rest. Line ends are single line feeds.
-/

namespace Quadlink.Toml

/-- Characters that may stand in strings and comments: all but the controls other than the tab. -/
def isPlain (c : Char) : Bool :=
  c == '\t' || (0x20 ≤ c.toNat && c.toNat != 0x7F)

def isGap (c : Char) : Bool := c == ' ' || c == '\t'

/-! ## Strings -/

/-- The character of a code point in hexadecimal. Surrogates are no characters. -/
def codePoint? (digits : List Char) : Option Char :=
  match digits.mapM Codec.Percent.hexValue? with
  | none => none
  | some values =>
    let n := values.foldl (fun acc v => acc * 16 + v) 0
    if h : n.isValidChar then some (Char.ofNatAux n h) else none

def escaped? (c : Char) : Option Char :=
  match c with
  | 'b' => some (Char.ofNat 0x08)
  | 't' => some '\t'
  | 'n' => some '\n'
  | 'f' => some (Char.ofNat 0x0C)
  | 'r' => some '\r'
  | '"' => some '"'
  | '\\' => some '\\'
  | _ => none

def readEscape? : List Char → Option (Char × List Char)
  | 'u' :: a :: b :: c :: d :: rest => (codePoint? [a, b, c, d]).map fun ch => (ch, rest)
  | 'U' :: a :: b :: c :: d :: e :: f :: g :: h :: rest =>
    (codePoint? [a, b, c, d, e, f, g, h]).map fun ch => (ch, rest)
  | c :: rest => (escaped? c).map fun ch => (ch, rest)
  | [] => none

theorem length_of_readEscape? {cs rest : List Char} {c : Char}
    (h : readEscape? cs = some (c, rest)) : rest.length < cs.length := by
  unfold readEscape? at h
  split at h <;> simp only [Option.map_eq_some_iff, Prod.mk.injEq, reduceCtorEq] at h
  all_goals
    obtain ⟨_, _, _, rfl⟩ := h
    simp only [List.length_cons]
    omega

/-- Read a string on one line up to its closing double quote, with its escapes resolved. -/
def readBasic? (cs : List Char) : Option (List Char × List Char) :=
  match cs with
  | [] => none
  | c :: rest =>
    if c == '"' then some ([], rest)
    else if c == '\\' then
      match h : readEscape? rest with
      | none => none
      | some (ch, after) =>
        have : after.length < rest.length := length_of_readEscape? h
        (readBasic? after).map fun parts => (ch :: parts.1, parts.2)
    else if isPlain c then (readBasic? rest).map fun parts => (c :: parts.1, parts.2)
    else none
  termination_by cs.length

/-- Read a string on one line up to its closing single quote. Nothing in it is escaped. -/
def readLiteral? : List Char → Option (List Char × List Char)
  | [] => none
  | c :: rest =>
    if c == '\'' then some ([], rest)
    else if isPlain c then (readLiteral? rest).map fun parts => (c :: parts.1, parts.2)
    else none

/-- The end of a string between three quotes, if it is here: up to two more quotes belong to the
string. -/
def closing? (quote : Char) (cs : List Char) : Option (List Char × List Char) :=
  let run := cs.takeWhile (· == quote)
  if 3 ≤ run.length then
    let inside := min (run.length - 3) 2
    some (List.replicate inside quote, cs.drop (inside + 3))
  else none

/-- What follows a backslash at the end of a line: the line end and all blanks up to the next
visible character. -/
def lineJoin? (cs : List Char) : Option (List Char) :=
  match cs.dropWhile isGap with
  | '\n' :: rest => some (rest.dropWhile (fun c => isGap c || c == '\n'))
  | _ => none

theorem length_of_lineJoin? {cs rest : List Char} (h : lineJoin? cs = some rest) :
    rest.length ≤ cs.length := by
  unfold lineJoin? at h
  split at h
  · next tail heq =>
    simp only [Option.some.injEq] at h
    subst h
    have h1 := (List.dropWhile_sublist (l := tail) (fun c => isGap c || c == '\n')).length_le
    have h2 := (List.dropWhile_sublist (l := cs) isGap).length_le
    rw [heq, List.length_cons] at h2
    omega
  · simp at h

def readBasicLines? (cs : List Char) : Option (List Char × List Char) :=
  match closing? '"' cs with
  | some parts => some parts
  | none =>
    match cs with
    | [] => none
    | c :: rest =>
      if c == '\\' then
        match hj : lineJoin? rest with
        | some after =>
          have : after.length ≤ rest.length := length_of_lineJoin? hj
          readBasicLines? after
        | none =>
          match he : readEscape? rest with
          | none => none
          | some (ch, after) =>
            have : after.length < rest.length := length_of_readEscape? he
            (readBasicLines? after).map fun parts => (ch :: parts.1, parts.2)
      else if isPlain c || c == '\n' then
        (readBasicLines? rest).map fun parts => (c :: parts.1, parts.2)
      else none
  termination_by cs.length

def readLiteralLines? (cs : List Char) : Option (List Char × List Char) :=
  match closing? '\'' cs with
  | some parts => some parts
  | none =>
    match cs with
    | [] => none
    | c :: rest =>
      if isPlain c || c == '\n' then
        (readLiteralLines? rest).map fun parts => (c :: parts.1, parts.2)
      else none

/-- A line end right behind three opening quotes does not count. -/
def dropFirstLineEnd : List Char → List Char
  | '\n' :: rest => rest
  | cs => cs

/-- Read a string of any kind from its opening quotes on. Three quotes are tried first, because two
would be the empty string. -/
def readString? (cs : List Char) : Option (String × List Char) :=
  let parts :=
    match cs with
    | '"' :: '"' :: '"' :: rest => readBasicLines? (dropFirstLineEnd rest)
    | '\'' :: '\'' :: '\'' :: rest => readLiteralLines? (dropFirstLineEnd rest)
    | '"' :: rest => readBasic? rest
    | '\'' :: rest => readLiteral? rest
    | _ => none
  parts.map fun parts => (String.ofList parts.1, parts.2)

/-! ## Integers -/

/-- The digits of a number in some base, without the underscores between them. -/
def digits? (base : Nat) (cs : List Char) : Option (List Nat) :=
  let groups := Text.pieces (· == '_') cs
  if groups.any List.isEmpty then none
  else groups.flatten.mapM fun c => (Codec.Percent.hexValue? c).filter (· < base)

def ofDigits (base : Nat) (digits : List Nat) : Nat :=
  digits.foldl (fun acc d => acc * base + d) 0

/-- The value of a decimal number; it has no needless zeros in front. -/
def decimal? (cs : List Char) : Option Nat :=
  match digits? 10 cs with
  | none => none
  | some (0 :: _ :: _) => none
  | some digits => some (ofDigits 10 digits)

/-- The value of an integer. A sign goes with decimal numbers only. -/
def integer? : List Char → Option Int
  | '0' :: 'x' :: rest => (digits? 16 rest).map fun ds => (ofDigits 16 ds : Int)
  | '0' :: 'o' :: rest => (digits? 8 rest).map fun ds => (ofDigits 8 ds : Int)
  | '0' :: 'b' :: rest => (digits? 2 rest).map fun ds => (ofDigits 2 ds : Int)
  | '+' :: rest => (decimal? rest).map fun n => (n : Int)
  | '-' :: rest => (decimal? rest).map fun n => -(n : Int)
  | cs => (decimal? cs).map fun n => (n : Int)

/-- Characters of a number, whether or not it is well formed. -/
def isNumberPart (c : Char) : Bool :=
  c.isAlphanum || c == '_' || c == '+' || c == '-' || c == '.' || c == ':'

/-! ## Scalars -/

inductive Scalar
  | text (value : String)
  | integer (value : Int)
  deriving Repr, DecidableEq

def readScalar? (cs : List Char) : Option (Scalar × List Char) :=
  match cs with
  | '"' :: _ | '\'' :: _ => (readString? cs).map fun parts => (.text parts.1, parts.2)
  | _ =>
    (integer? (cs.takeWhile isNumberPart)).map fun n => (.integer n, cs.dropWhile isNumberPart)

end Quadlink.Toml
