/-!
# UTF-8

Response bodies are bytes and most of their readers want text. `decode` accepts exactly the
encodings of character sequences and otherwise says where the first fault lies and how long it
is; `decodeLossy` never fails and puts a replacement character for each such fault.

A fault is as long as the longest prefix of an encoding that stands there, and at least one
byte. It is *incomplete* when the bytes end inside an encoding.
-/

namespace Quadlink

abbrev Bytes := List UInt8

namespace Text

def encodeChars (cs : List Char) : Bytes :=
  cs.flatMap String.utf8EncodeChar

def encode (s : String) : Bytes :=
  encodeChars s.toList

/-- The first fault of bytes that encode no text, with its position. Bytes that break off in the
middle of a character are incomplete rather than invalid: more of them might have made a text. -/
inductive Utf8Fault
  | invalid (length index : Nat)
  | incomplete (index : Nat)
  deriving Repr, DecidableEq

def Utf8Fault.message : Utf8Fault → String
  | .invalid length index =>
    "invalid utf-8 sequence of " ++ toString length ++ " bytes from index " ++ toString index
  | .incomplete index => "incomplete utf-8 byte sequence from index " ++ toString index

def isContinuation (b : UInt8) : Bool :=
  0x80 ≤ b && b ≤ 0xBF

/-- How many bytes an encoding with this first byte has, 0 for a byte that starts none. -/
def sequenceLength (b : UInt8) : Nat :=
  if b < 0x80 then 1
  else if 0xC2 ≤ b && b ≤ 0xDF then 2
  else if 0xE0 ≤ b && b ≤ 0xEF then 3
  else if 0xF0 ≤ b && b ≤ 0xF4 then 4
  else 0

/-- Which second bytes may follow a first byte: overlong forms, surrogates and values past the
last code point are shut out here. -/
def isSecondByte (first second : UInt8) : Bool :=
  if first == 0xE0 then 0xA0 ≤ second && second ≤ 0xBF
  else if first == 0xED then 0x80 ≤ second && second ≤ 0x9F
  else if first == 0xF0 then 0x90 ≤ second && second ≤ 0xBF
  else if first == 0xF4 then 0x80 ≤ second && second ≤ 0x8F
  else isContinuation second

/-- What stands at the front of some bytes: a character, a fault of some length, or the beginning of
a character whose rest is missing. -/
inductive Utf8Step
  | char (c : Char) (rest : Bytes)
  | fault (length : Nat) (rest : Bytes)
  | cutOff
  deriving Repr, DecidableEq

/-- The low six bits, which a continuation byte contributes. -/
def payload (b : UInt8) : Nat :=
  b.toNat % 64

/-- Read one encoding or one fault from `first :: rest`. -/
def Utf8Step.next (first : UInt8) (rest : Bytes) : Utf8Step :=
  match sequenceLength first with
  | 1 => .char (Char.ofNat first.toNat) rest
  | 2 =>
    match rest with
    | [] => .cutOff
    | b :: rest' =>
      if isSecondByte first b then
        .char (Char.ofNat (first.toNat % 32 * 64 + payload b)) rest'
      else .fault 1 rest
  | 3 =>
    match rest with
    | [] => .cutOff
    | b :: rest' =>
      if isSecondByte first b then
        match rest' with
        | [] => .cutOff
        | c :: rest'' =>
          if isContinuation c then
            .char (Char.ofNat ((first.toNat % 16 * 64 + payload b) * 64 + payload c)) rest''
          else .fault 2 rest'
      else .fault 1 rest
  | 4 =>
    match rest with
    | [] => .cutOff
    | b :: rest' =>
      if isSecondByte first b then
        match rest' with
        | [] => .cutOff
        | c :: rest'' =>
          if isContinuation c then
            match rest'' with
            | [] => .cutOff
            | d :: rest''' =>
              if isContinuation d then
                .char (Char.ofNat
                  (((first.toNat % 8 * 64 + payload b) * 64 + payload c) * 64 + payload d)) rest'''
              else .fault 3 rest''
          else .fault 2 rest'
      else .fault 1 rest
  | _ => .fault 1 rest

theorem Utf8Step.next_char_length {first : UInt8} {rest : Bytes} {c : Char} {rest' : Bytes}
    (h : Utf8Step.next first rest = .char c rest') : rest'.length ≤ rest.length := by
  unfold Utf8Step.next at h
  repeat' split at h
  all_goals simp_all
  all_goals obtain ⟨_, rfl⟩ := h
  all_goals omega

theorem Utf8Step.next_fault_length {first : UInt8} {rest : Bytes} {n : Nat} {rest' : Bytes}
    (h : Utf8Step.next first rest = .fault n rest') : rest'.length ≤ rest.length := by
  unfold Utf8Step.next at h
  repeat' split at h
  all_goals simp_all
  all_goals obtain ⟨_, rfl⟩ := h
  all_goals simp

/-- Decode bytes that start at position `index` of a longer text. -/
def decodeFrom (index : Nat) : Bytes → Except Utf8Fault (List Char)
  | [] => .ok []
  | first :: rest =>
    match h : Utf8Step.next first rest with
    | .char c rest' =>
      have : rest'.length ≤ rest.length := Utf8Step.next_char_length h
      (decodeFrom (index + c.utf8Size) rest').map (c :: ·)
    | .fault length _ => .error (.invalid length index)
    | .cutOff => .error (.incomplete index)
  termination_by bytes => bytes.length

def decodeChars (bytes : Bytes) : Except Utf8Fault (List Char) :=
  decodeFrom 0 bytes

def decode (bytes : Bytes) : Except Utf8Fault String :=
  (decodeChars bytes).map String.ofList

/-- Decode with `U+FFFD` in place of every fault. -/
def decodeLossyChars : Bytes → List Char
  | [] => []
  | first :: rest =>
    match h : Utf8Step.next first rest with
    | .char c rest' =>
      have : rest'.length ≤ rest.length := Utf8Step.next_char_length h
      c :: decodeLossyChars rest'
    | .fault _ rest' =>
      have : rest'.length ≤ rest.length := Utf8Step.next_fault_length h
      '\uFFFD' :: decodeLossyChars rest'
    | .cutOff => ['\uFFFD']
  termination_by bytes => bytes.length

def decodeLossy (bytes : Bytes) : String :=
  String.ofList (decodeLossyChars bytes)

end Text

end Quadlink
