import RepoSurvey.Text.Blank
import RepoSurvey.Text.Lower
import RepoSurvey.Text.Word

/-!
# Words in any letter case

Small letters are looked for in any of their forms. Beside the capital, the letter i also has a dotted
capital and a dotless small form, the letter s a long form, and the letter k the sign of a unit.
-/

namespace RepoSurvey.Text

/-- Whether a character is a form of a small letter. -/
def isFormOf (letter c : Char) : Bool :=
  lowerChar c == letter || (letter == 'i' && c.toNat == 0x131) || (letter == 's' && c.toNat == 0x17F)

/-- What follows a phrase at the head of a text, in any letter case. -/
def afterPhrase? : (phrase text : List Char) -> Option (List Char)
  | [], rest => some rest
  | letter :: phrase, c :: rest => if isFormOf letter c then afterPhrase? phrase rest else none
  | _ :: _, [] => none

/-- What follows an exact text at the head of another. -/
def afterExact? : (expected text : List Char) -> Option (List Char)
  | [], rest => some rest
  | wanted :: expected, c :: rest => if wanted == c then afterExact? expected rest else none
  | _ :: _, [] => none

/-- Whether a test holds somewhere in a text. The test sees the character before a place and the text
from there on. -/
def holdsSomewhere (test : Option Char -> List Char -> Bool) (before : Option Char) :
    List Char -> Bool
  | [] => test before []
  | c :: rest => test before (c :: rest) || holdsSomewhere test (some c) rest

/-- Whether a text stands somewhere inside another. -/
def holdsWithin (part : List Char) : List Char -> Bool
  | [] => part.isEmpty
  | c :: rest => part.isPrefixOf (c :: rest) || holdsWithin part rest

/-- Whether a text goes on with a character, blanks before it allowed. -/
def goesOnWith (c : Char) (text : List Char) : Bool := (text.dropWhile isBlank).head? == some c

/-- Whether a text does not go on with a word character. -/
def endsWord (text : List Char) : Bool := !text.head?.any isWord

/-- Whether a place is not preceded by a word character. -/
def startsWord (before : Option Char) : Bool := !before.any isWord

end RepoSurvey.Text
