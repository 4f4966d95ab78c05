/-!
# Encodings of JSON

A text can be written in units of two bytes or of four, the most significant byte first or last. In
units of two bytes a character beyond the first 65536 is written as a pair of surrogates, and a
surrogate on its own is no character.

JSON begins with two characters that every encoding writes without a zero character, so the zero bytes
among the first bytes tell the encoding. A mark in front of text in single bytes is dropped.
-/

namespace RepoSurvey.Text.Wide

/-- Which byte of a unit comes first. -/
inductive Endian where
  | big
  | little
  deriving DecidableEq, Repr

/-- The number written by some bytes. -/
def number (endian : Endian) (bytes : List UInt8) : Nat :=
  match endian with
  | .big => bytes.foldl (fun value byte => value * 256 + byte.toNat) 0
  | .little => bytes.foldr (fun byte value => value * 256 + byte.toNat) 0

/-- The units of two bytes; nothing when a byte is left over. -/
def pairs? (endian : Endian) : List UInt8 -> Option (List Nat)
  | [] => some []
  | first :: second :: rest => (pairs? endian rest).map (number endian [first, second] :: ·)
  | [_] => none

/-- The units of four bytes; nothing when bytes are left over. -/
def quadruples? (endian : Endian) : List UInt8 -> Option (List Nat)
  | [] => some []
  | first :: second :: third :: fourth :: rest =>
    (quadruples? endian rest).map (number endian [first, second, third, fourth] :: ·)
  | _ => none

/-- The character of a number, if there is one. -/
def scalar? (value : Nat) : Option Char := if value.isValidChar then some (Char.ofNat value) else none

/-- The characters of units of four bytes. -/
def ofQuadruples? (units : List Nat) : Option (List Char) := units.mapM scalar?

/-- Whether a unit is the first one of a pair of surrogates. -/
def isHigh (unit : Nat) : Bool := 0xD800 ≤ unit && unit < 0xDC00

/-- Whether a unit is the second one of a pair of surrogates. -/
def isLow (unit : Nat) : Bool := 0xDC00 ≤ unit && unit < 0xE000

/-- The characters of units of two bytes. -/
def ofPairs? : List Nat -> Option (List Char)
  | [] => some []
  | high :: low :: rest =>
    if isHigh high && isLow low then do
      let c <- scalar? (0x10000 + (high - 0xD800) * 0x400 + (low - 0xDC00))
      (ofPairs? rest).map (c :: ·)
    else do
      let c <- scalar? high
      (ofPairs? (low :: rest)).map (c :: ·)
  | [unit] => (scalar? unit).map ([·])

/-- The text of bytes in units of two. -/
def decodePairs? (endian : Endian) (bytes : List UInt8) : Option (List Char) :=
  (pairs? endian bytes).bind ofPairs?

/-- The text of bytes in units of four. -/
def decodeQuadruples? (endian : Endian) (bytes : List UInt8) : Option (List Char) :=
  (quadruples? endian bytes).bind ofQuadruples?

example : decodePairs? .little [0x31, 0, 0x3D, 0xD8, 0, 0xDE] = some ['1', '😀'] := by decide
example : decodePairs? .big [0, 0x31, 0] = none := by decide
example : decodeQuadruples? .big [0, 0, 0, 0x31] = some ['1'] := by decide

end RepoSurvey.Text.Wide

namespace RepoSurvey.Json

open Text (Wide.Endian)

/-- How JSON is written in bytes. -/
inductive Encoding where
  | bytes
  | pairs (endian : Wide.Endian)
  | quadruples (endian : Wide.Endian)
  deriving DecidableEq, Repr

namespace Encoding

/-- The encoding that the first bytes tell. -/
def ofBytes : List UInt8 -> Encoding
  | [0, _] => .pairs .big
  | [_, 0] => .pairs .little
  | 0 :: second :: _ :: _ :: _ => if second = 0 then .quadruples .big else .pairs .big
  | _ :: 0 :: third :: fourth :: _ =>
    if third = 0 && fourth = 0 then .quadruples .little else .pairs .little
  | _ => .bytes

/-- The characters of a text that came as bytes; nothing when its bytes are no text in the encoding
they tell. -/
def reread? (text : String) : Option (List Char) :=
  let bytes := text.toUTF8.toList
  match ofBytes bytes with
  | .bytes =>
    match text.toList with
    | '\ufeff' :: chars => some chars
    | chars => some chars
  | .pairs endian => Text.Wide.decodePairs? endian bytes
  | .quadruples endian => Text.Wide.decodeQuadruples? endian bytes

example : reread? "1\x00" = some ['1'] := by decide +kernel
example : reread? "\ufeff[]" = some ['[', ']'] := by decide +kernel

end Encoding

end RepoSurvey.Json
