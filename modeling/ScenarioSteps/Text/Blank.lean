import ScenarioSteps.Text.CodePoints

/-!
# `ScenarioSteps.Text.Blank`: blank characters, trimming and splitting

A blank is a character with Unicode's property `White_Space`: the ASCII
controls from tab to carriage return, the space, and eighteen more. Text is
trimmed and split into words at these.

The functions work on lists of characters, which is how the whole library
reads text. `trimmed` is the one form on strings.
-/

set_option autoImplicit false

namespace ScenarioSteps.Text

/-- The code points with Unicode's property `White_Space`. -/
def blankRanges : List (Nat × Nat) :=
  [(9, 13), (32, 32), (133, 133), (160, 160), (5760, 5760), (8192, 8202), (8232, 8233),
   (8239, 8239), (8287, 8287), (12288, 12288)]

/-- A character with Unicode's property `White_Space`. -/
def isBlank (c : Char) : Bool :=
  within blankRanges c.toNat

/-- Drops the blanks at the start. -/
def trimStart (cs : List Char) : List Char :=
  cs.dropWhile isBlank

/-- Drops the blanks at the end. -/
def trimEnd (cs : List Char) : List Char :=
  (cs.reverse.dropWhile isBlank).reverse

/-- Drops the blanks at both ends. -/
def trim (cs : List Char) : List Char :=
  trimEnd (trimStart cs)

/-- A string without the blanks at its ends. -/
def trimmed (s : String) : String :=
  String.ofList (trim s.toList)

/-- The parts of a text between the characters that `p` accepts. There is one
more part than there are such characters, and parts can be empty. -/
def splitBy (p : Char → Bool) : List Char → List (List Char)
  | [] => [[]]
  | c :: cs =>
    if p c then [] :: splitBy p cs
    else
      match splitBy p cs with
      | [] => [[c]]
      | part :: parts => (c :: part) :: parts

/-- The words of a text: its longest parts without blanks. -/
def words (cs : List Char) : List (List Char) :=
  (splitBy isBlank cs).filter (!·.isEmpty)

/-- Whether `part` occurs in a text as one contiguous piece. -/
def contains (part : List Char) : List Char → Bool
  | [] => part.isEmpty
  | c :: cs => part.isPrefixOf (c :: cs) || contains part cs

/-- Equality of strings up to the case of ASCII letters. -/
def sameAscii (a b : String) : Bool :=
  a.toList.map Char.toLower == b.toList.map Char.toLower

end ScenarioSteps.Text
