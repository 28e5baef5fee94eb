import Kitchen.Number.Power
import Kitchen.Text.CodeRange

/-!
# UTF-8

Texts as bytes and back. Decoding stops at the first byte sequence that encodes no character and
says where it stands and how many of its bytes are wrong, or that the bytes end inside a character.
-/

namespace Kitchen.Text

def utf8Encode (s : String) : List UInt8 := s.toList.flatMap String.utf8EncodeChar

/-- Where decoding stopped: the number of good bytes before, and the number of bytes that cannot be
part of a character, or none when the bytes end inside one. -/
structure Utf8Fault where
  validUpTo : Nat
  wrongBytes : Option Nat
  deriving DecidableEq, Repr

def Utf8Fault.message (fault : Utf8Fault) : String :=
  match fault.wrongBytes with
  | some n => s!"invalid utf-8 sequence of {n} bytes from index {fault.validUpTo}"
  | none => s!"incomplete utf-8 byte sequence from index {fault.validUpTo}"

/-- How many continuation bytes a lead byte asks for; none for a byte that leads nothing. -/
def continuationCount (lead : UInt8) : Option Nat :=
  if lead < 0x80 then some 0
  else if lead < 0xC2 then none
  else if lead < 0xE0 then some 1
  else if lead < 0xF0 then some 2
  else if lead < 0xF5 then some 3
  else none

/-- A byte that continues a character. -/
def isContinuation (b : UInt8) : Bool := decide (0x80 ≤ b) && decide (b < 0xC0)

/-- The bytes that may come second: the lead bytes E0, ED, F0 and F4 narrow the choice, so that no
character has two encodings and no surrogate or code point past the last has one. -/
def isSecond (lead b : UInt8) : Bool :=
  isContinuation b &&
    (if lead == 0xE0 then decide (0xA0 ≤ b)
     else if lead == 0xED then decide (b < 0xA0)
     else if lead == 0xF0 then decide (0x90 ≤ b)
     else if lead == 0xF4 then decide (b < 0x90)
     else true)

/-- The character of a lead byte with the given number of low bits and its continuation bytes. -/
def joinBytes (leadBits : Nat) (lead : UInt8) (rest : List UInt8) : Char :=
  Char.ofNat (rest.foldl (fun n b => n * 64 + b.toNat % 64) (lead.toNat % twoTo leadBits))

/-- Decodes bytes that start `i` bytes into the text. -/
def utf8DecodeFrom (i : Nat) : List UInt8 → Except Utf8Fault (List Char)
  | [] => .ok []
  | a :: s =>
    match continuationCount a, s with
    | none, _ => .error ⟨i, some 1⟩
    | some 0, s => (utf8DecodeFrom (i + 1) s).map (joinBytes 7 a [] :: ·)
    | some _, [] => .error ⟨i, none⟩
    | some 1, b :: s =>
      if isSecond a b then (utf8DecodeFrom (i + 2) s).map (joinBytes 5 a [b] :: ·)
      else .error ⟨i, some 1⟩
    | some 2, b :: s =>
      if isSecond a b then
        match s with
        | [] => .error ⟨i, none⟩
        | c :: s =>
          if isContinuation c then (utf8DecodeFrom (i + 3) s).map (joinBytes 4 a [b, c] :: ·)
          else .error ⟨i, some 2⟩
      else .error ⟨i, some 1⟩
    | some _, b :: s =>
      if isSecond a b then
        match s with
        | [] => .error ⟨i, none⟩
        | c :: s =>
          if isContinuation c then
            match s with
            | [] => .error ⟨i, none⟩
            | d :: s =>
              if isContinuation d then
                (utf8DecodeFrom (i + 4) s).map (joinBytes 3 a [b, c, d] :: ·)
              else .error ⟨i, some 3⟩
          else .error ⟨i, some 2⟩
      else .error ⟨i, some 1⟩

def utf8Decode (bytes : List UInt8) : Except Utf8Fault String :=
  (utf8DecodeFrom 0 bytes).map String.ofList

end Kitchen.Text
