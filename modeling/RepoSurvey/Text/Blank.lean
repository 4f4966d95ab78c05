/-!
# Blank characters and lines

Blank characters are those that separate words in any script, together with the control characters
that separate lines, files, groups, records and units.

A text is divided into lines at line feeds, carriage returns (a pair of both counts once), vertical
tabs, form feeds, the file, group and record separators, the next-line control and the line and
paragraph separators. A break at the very end opens no further line.
-/

namespace RepoSurvey.Text

/-! ## Blank characters -/

/-- Whether a character counts as white space. -/
def isBlank (c : Char) : Bool :=
  let code := c.toNat
  if code < 128 then (9 ≤ code && code ≤ 13) || (28 ≤ code && code ≤ 32)
  else code == 0x85 || code == 0xA0 || code == 0x1680 || (0x2000 ≤ code && code ≤ 0x200A) ||
    code == 0x2028 || code == 0x2029 || code == 0x202F || code == 0x205F || code == 0x3000

/-- Every seven-bit white space character is blank. -/
theorem isBlank_of_isWhitespace (c : Char) (white : c.isWhitespace = true) : isBlank c = true := by
  simp only [Char.isWhitespace, Bool.or_eq_true, decide_eq_true_eq] at white
  rcases white with ((rfl | rfl) | rfl) | rfl <;> decide

/-- Remove leading characters that satisfy a test. -/
def dropStart (test : Char -> Bool) (chars : List Char) : List Char := chars.dropWhile test

/-- Remove trailing characters that satisfy a test. -/
def dropEnd (test : Char -> Bool) (chars : List Char) : List Char :=
  (chars.reverse.dropWhile test).reverse

/-- Remove characters that satisfy a test from both ends. -/
def trimBy (test : Char -> Bool) (chars : List Char) : List Char := dropEnd test (dropStart test chars)

/-- Remove blank characters from both ends. -/
def trim (chars : List Char) : List Char := trimBy isBlank chars

/-- A text without the blank characters at its ends. -/
def strip (text : String) : String := String.ofList (trim text.toList)

/-- What trimming leaves is a contiguous part of the text. -/
theorem trimBy_infix (test : Char -> Bool) (chars : List Char) :
    trimBy test chars <:+: chars := by
  have ending : dropEnd test (dropStart test chars) <+: dropStart test chars := by
    unfold dropEnd
    have suffix := List.dropWhile_suffix (l := (dropStart test chars).reverse) test
    have := List.reverse_prefix.mpr suffix
    simpa using this
  exact ending.isInfix.trans (List.dropWhile_suffix test).isInfix

/-! ## Lines -/

/-- Whether a character ends a line. -/
def isLineBreak (c : Char) : Bool :=
  let code := c.toNat
  (10 ≤ code && code ≤ 13) || (28 ≤ code && code ≤ 30) || code == 0x85 || code == 0x2028 ||
    code == 0x2029

/-- Divide the remaining characters, given the current line and the finished lines in reverse
order. -/
def linesFrom (line : List Char) (finished : List (List Char)) : List Char -> List (List Char)
  | [] => (if line.isEmpty then finished else line.reverse :: finished).reverse
  | '\r' :: '\n' :: rest => linesFrom [] (line.reverse :: finished) rest
  | c :: rest =>
    if isLineBreak c then linesFrom [] (line.reverse :: finished) rest
    else linesFrom (c :: line) finished rest

/-- The lines of a text, without their ends. -/
def lines (text : List Char) : List (List Char) := linesFrom [] [] text

/-- Replace carriage returns, alone or before a line feed, by line feeds. -/
def unixEndingsFrom (result : List Char) : List Char -> List Char
  | [] => result.reverse
  | '\r' :: '\n' :: rest => unixEndingsFrom ('\n' :: result) rest
  | '\r' :: rest => unixEndingsFrom ('\n' :: result) rest
  | c :: rest => unixEndingsFrom (c :: result) rest

/-- A text whose lines all end in line feeds. -/
def unixEndings (text : List Char) : List Char := unixEndingsFrom [] text

end RepoSurvey.Text
