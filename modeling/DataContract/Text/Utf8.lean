/-
Bytes as text in UTF-8.

`Utf8.decode` reads the shortest forms of all code points but surrogates. At the first byte where
that fails it stops with a `Utf8Fault`: the byte, its place and what is wrong there.
-/
import DataContract.Text.Quoted

namespace DataContract

/-- What is wrong with bytes at a place. -/
inductive Utf8Problem where
  | invalidStart
  | invalidContinuation
  | unexpectedEnd
  deriving DecidableEq, Inhabited

/-- Bytes that are no text: the first and the last place of the sequence at fault, and its first
byte. -/
structure Utf8Fault where
  first : Nat
  last : Nat
  byte : UInt8
  problem : Utf8Problem
  deriving DecidableEq, Inhabited

namespace Utf8Fault

/-- What the refusal of bytes reads. -/
def message (f : Utf8Fault) : String :=
  let reason := match f.problem with
    | .invalidStart => "invalid start byte"
    | .invalidContinuation => "invalid continuation byte"
    | .unexpectedEnd => "unexpected end of data"
  if f.first = f.last then
    "'utf-8' codec can't decode byte 0x" ++ String.ofList (Text.hexDigits 2 f.byte.toNat) ++
      " in position " ++ toString f.first ++ ": " ++ reason
  else
    "'utf-8' codec can't decode bytes in position " ++ toString f.first ++ "-" ++
      toString f.last ++ ": " ++ reason

end Utf8Fault

namespace Utf8

/-- The six low bits of a continuation byte. -/
def lowBits (b : UInt8) : Nat := b.toNat % 64

/-- Whether a byte continues a sequence. -/
def isContinuation (b : UInt8) : Bool := 0x80 ≤ b.toNat && b.toNat < 0xc0

/-- The range that the second byte of a sequence lies in, after its first. -/
def secondRange (first : Nat) : Nat × Nat :=
  if first = 0xe0 then (0xa0, 0xbf)
  else if first = 0xed then (0x80, 0x9f)
  else if first = 0xf0 then (0x90, 0xbf)
  else if first = 0xf4 then (0x80, 0x8f)
  else (0x80, 0xbf)

/-- How many bytes follow the first of a sequence; none if none can be first. -/
def following (first : Nat) : Option Nat :=
  if first < 0x80 then some 0
  else if 0xc2 ≤ first ∧ first ≤ 0xdf then some 1
  else if 0xe0 ≤ first ∧ first ≤ 0xef then some 2
  else if 0xf0 ≤ first ∧ first ≤ 0xf4 then some 3
  else none

/-- How many of the bytes that should follow the first do so rightly. -/
def goodBytes (first : Nat) (count : Nat) (rest : List UInt8) : Nat :=
  let (low, high) := secondRange first
  match rest.take count with
  | [] => 0
  | b :: more =>
    if low ≤ b.toNat ∧ b.toNat ≤ high then 1 + (more.takeWhile isContinuation).length else 0

/-- The code point of a first byte and those that follow it. -/
def codePoint (first : Nat) (more : List UInt8) : Nat :=
  let high :=
    match more.length with
    | 0 => first
    | 1 => first % 32
    | 2 => first % 16
    | _ => first % 8
  more.foldl (fun n b => n * 64 + lowBits b) high

/-- Reads the bytes from a place on, at most `fuel` sequences of them. -/
def decodeFrom : Nat → Nat → List UInt8 → Except Utf8Fault (List Char)
  | _, _, [] => .ok []
  | 0, _, _ => .ok []
  | fuel + 1, place, b :: rest =>
    match following b.toNat with
    | none => .error ⟨place, place, b, .invalidStart⟩
    | some count =>
      let good := goodBytes b.toNat count rest
      if good = count then
        (decodeFrom fuel (place + count + 1) (rest.drop count)).map
          (Char.ofNat (codePoint b.toNat (rest.take count)) :: ·)
      else if rest.length = good then .error ⟨place, place + good, b, .unexpectedEnd⟩
      else .error ⟨place, place + good, b, .invalidContinuation⟩

/-- Reads bytes as text. -/
def decode (bytes : List UInt8) : Except Utf8Fault String :=
  (decodeFrom bytes.length 0 bytes).map String.ofList

/-- Writes text as bytes. -/
def encode (s : String) : List UInt8 :=
  s.toUTF8.toList

end Utf8

end DataContract
