import RepoSurvey.Text.Utf8

/-!
# Texts of plain characters

In Base64 each group of three bytes is written as four digits of six bits. A group that is cut short is
written with as many digits as its bytes need and filled up with equals signs.

In an address a byte that has no place there is written as a percent sign and two hexadecimal digits.
What only looks like such an escape stands for itself when it is decoded.
-/

/-! ## Base64 -/

namespace RepoSurvey.Text.Base64

/-- The digit for six bits. -/
def digit (bits : Nat) : Char :=
  if bits < 26 then Char.ofNat (bits + 65)
  else if bits < 52 then Char.ofNat (bits + 71)
  else if bits < 62 then Char.ofNat (bits - 4)
  else if bits = 62 then '+'
  else '/'

/-- The digits of bytes. -/
def encode : List UInt8 -> List Char
  | [] => []
  | [a] => [digit (a.toNat / 4), digit (a.toNat % 4 * 16), '=', '=']
  | [a, b] =>
    [ digit (a.toNat / 4), digit (a.toNat % 4 * 16 + b.toNat / 16), digit (b.toNat % 16 * 4), '=' ]
  | a :: b :: c :: rest =>
    digit (a.toNat / 4) :: digit (a.toNat % 4 * 16 + b.toNat / 16) ::
      digit (b.toNat % 16 * 4 + c.toNat / 64) :: digit (c.toNat % 64) :: encode rest

/-- The digits of a text. -/
def ofText (text : String) : String := String.ofList (encode text.toUTF8.toList)

example : encode [104, 116, 116, 112] = "aHR0cA==".toList := by decide

end RepoSurvey.Text.Base64

/-! ## Percent escapes -/

namespace RepoSurvey.Text.Percent

/-- The value of a hexadecimal digit. -/
def digitValue? (c : Char) : Option Nat :=
  if c.isDigit then some (c.toNat - '0'.toNat)
  else if 'a' ≤ c && c ≤ 'f' then some (c.toNat - 'a'.toNat + 10)
  else if 'A' ≤ c && c ≤ 'F' then some (c.toNat - 'A'.toNat + 10)
  else none

/-- The byte of an escape at the head of a text. -/
def escaped? : List Char -> Option UInt8
  | '%' :: high :: low :: _ => do
    let high ← digitValue? high
    let low ← digitValue? low
    pure (high * 16 + low).toUInt8
  | _ => none

/-- The bytes of a character. -/
def bytesOf (c : Char) : List UInt8 := (String.singleton c).toUTF8.toList

/-- The bytes a text stands for, after a number of characters that were read already. -/
def bytesFrom : (read : Nat) -> List Char -> List UInt8
  | _, [] => []
  | read + 1, _ :: rest => bytesFrom read rest
  | 0, c :: rest =>
    match escaped? (c :: rest) with
    | some byte => byte :: bytesFrom 2 rest
    | none => bytesOf c ++ bytesFrom 0 rest

/-- The text that a text with escapes stands for. -/
def decode (text : List Char) : List Char :=
  Utf8.decodeWith [Utf8.replacement] (bytesFrom 0 text)

/-- Whether a character stands for itself in an address. -/
def isPlain (c : Char) : Bool :=
  c.isAlphanum || c == '_' || c == '.' || c == '-' || c == '~' || c == '/'

/-- A byte as an escape. -/
def escape (byte : UInt8) : List Char := '%' :: (hexDigits 2 byte.toNat).map Char.toUpper

/-- A text in an address. -/
def encode (text : List Char) : List Char :=
  text.flatMap fun c => if isPlain c then [c] else (bytesOf c).flatMap escape

example : decode "a%2Fb%zz".toList = "a/b%zz".toList := by cbv
example : encode "a b/%".toList = "a%20b/%25".toList := by cbv

end RepoSurvey.Text.Percent
