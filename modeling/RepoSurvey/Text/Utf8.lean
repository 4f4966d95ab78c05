import RepoSurvey.Number.Decimal
import RepoSurvey.Text.Quoted

/-!
# Decoding UTF-8

Bytes are decoded from left to right. A faulty sequence ends where it stops being the beginning of a
character; it is reported with its place and the bytes it covers, or something else stands for it.
-/

namespace RepoSurvey.Text.Utf8

/-- What is wrong with a sequence of bytes. -/
inductive Flaw where
  | invalidStart
  | invalidContinuation
  | unexpectedEnd
  deriving DecidableEq, Repr

/-- The wording of a flaw. -/
def Flaw.message : Flaw -> String
  | .invalidStart => "invalid start byte"
  | .invalidContinuation => "invalid continuation byte"
  | .unexpectedEnd => "unexpected end of data"

/-- What stands at the head of some bytes: a character or a faulty sequence, and its length. -/
inductive Head where
  | scalar (c : Char) (length : Nat)
  | faulty (flaw : Flaw) (length : Nat)
  deriving DecidableEq, Repr

/-- Whether a byte continues a sequence. -/
def continues (byte : Nat) : Bool := 0x80 ≤ byte && byte < 0xC0

/-- Whether a second byte is possible after a first one; some first bytes allow a part of the
continuation bytes only, so that no character has two forms, none is a surrogate and none is beyond
the last one. -/
def mayFollow (first second : Nat) : Bool :=
  continues second &&
    (if first = 0xE0 then decide (0xA0 ≤ second)
    else if first = 0xED then decide (second < 0xA0)
    else if first = 0xF0 then decide (0x90 ≤ second)
    else if first = 0xF4 then decide (second < 0x90)
    else true)

/-- The length of the sequence a first byte announces. -/
def announcedLength? (first : Nat) : Option Nat :=
  if first < 0x80 then some 1
  else if first < 0xC2 then none
  else if first < 0xE0 then some 2
  else if first < 0xF0 then some 3
  else if first < 0xF5 then some 4
  else none

/-- The number of bytes, after the first, that are possible continuations of it. -/
def possibleBytes (first : Nat) (wanted : Nat) (rest : List UInt8) : Nat :=
  match wanted, rest with
  | 0, _ | _, [] => 0
  | wanted + 1, second :: rest =>
    if mayFollow first second.toNat then
      1 + ((rest.take wanted).takeWhile fun byte => continues byte.toNat).length
    else 0

/-- What stands at the head of a first byte and the bytes after it. -/
def head (first : Nat) (rest : List UInt8) : Head :=
  match announcedLength? first with
  | none => .faulty .invalidStart 1
  | some 1 => .scalar (Char.ofNat first) 1
  | some length =>
    let found := possibleBytes first (length - 1) rest
    if found = length - 1 then
      let lead := if length = 2 then first % 32 else if length = 3 then first % 16 else first % 8
      let code := (rest.take found).foldl (fun code byte => code * 64 + byte.toNat % 64) lead
      .scalar (Char.ofNat code) length
    else if (rest.drop found).isEmpty then .faulty .unexpectedEnd (found + 1)
    else .faulty .invalidContinuation (found + 1)

/-- A faulty sequence in its place. -/
structure Fault where
  flaw : Flaw
  position : Nat
  length : Nat
  first : Nat
  deriving DecidableEq, Repr

/-- The report of a faulty sequence. -/
def Fault.message (fault : Fault) : String :=
  let place :=
    if fault.length = 1 then
      "byte 0x" ++ String.ofList (hexDigits 2 fault.first) ++ " in position " ++
        Number.natText fault.position
    else
      "bytes in position " ++ Number.natText fault.position ++ "-" ++
        Number.natText (fault.position + fault.length - 1)
  "'utf-8' codec can't decode " ++ place ++ ": " ++ fault.flaw.message

/-- Decode bytes. When nothing stands for faulty sequences, the first one is reported. Every step takes
at least one byte, so fuel of their number is enough. -/
def decodeFrom (substitute : Option (List Char)) :
    (fuel : Nat) -> (position : Nat) -> (result : List Char) -> List UInt8 ->
      Except Fault (List Char)
  | 0, _, result, _ => .ok result.reverse
  | _, _, result, [] => .ok result.reverse
  | fuel + 1, position, result, first :: rest =>
    match head first.toNat rest with
    | .scalar c length =>
      decodeFrom substitute fuel (position + length) (c :: result) (rest.drop (length - 1))
    | .faulty flaw length =>
      match substitute with
      | some chars =>
        decodeFrom substitute fuel (position + length) (chars.reverse ++ result)
          (rest.drop (length - 1))
      | none => .error ⟨flaw, position, length, first.toNat⟩

/-- Decode bytes or report the first faulty sequence. -/
def decode (bytes : List UInt8) : Except Fault (List Char) :=
  decodeFrom none bytes.length 0 [] bytes

/-- Decode bytes with the same characters in place of every faulty sequence. -/
def decodeWith (substitute : List Char) (bytes : List UInt8) : List Char :=
  match decodeFrom (some substitute) bytes.length 0 [] bytes with
  | .ok chars => chars
  | .error _ => []

/-- Decode bytes, leaving out faulty sequences. -/
def decodeLenient (bytes : List UInt8) : List Char := decodeWith [] bytes

/-- The character that stands for what cannot be decoded. -/
def replacement : Char := '\ufffd'

example : (decode [0xE2, 0x82, 0xAC]).toOption = some ['€'] := by decide
example : decodeLenient [0x61, 0xE2, 0x82, 0x62] = ['a', 'b'] := by decide

end RepoSurvey.Text.Utf8
