import ScenarioSteps.Regex.Defect
import ScenarioSteps.Regex.Syntax
import ScenarioSteps.Text.Hexadecimal

/-!
# `ScenarioSteps.Regex.Escape`: what a backslash means in a pattern

Behind a backslash, punctuation stands for itself, a few letters name
controls, classes and anchors, and `x`, `u` and `U` are followed by the
hexadecimal code of a character. All other letters and all digits are
defects. So are `p` and `P`: classes by a property of Unicode are not read.
-/

set_option autoImplicit false

namespace ScenarioSteps.Regex

/-- The meanings of an escape. -/
inductive Escape where
  | char (c : Char)
  | set (chars : CharSet)
  | anchor (anchor : Anchor)
deriving Repr, DecidableEq

/-- ASCII punctuation, blanks and controls, which a backslash makes literal.
The two angle brackets are not among them. -/
def isEscapable (c : Char) : Bool :=
  c.toNat < 128 && !c.isAlphanum && c != '<' && c != '>'

/-- The letters that name something behind a backslash. -/
def namedEscapes : List (Char × Escape) :=
  [('a', .char '\x07'), ('f', .char '\x0c'), ('t', .char '\t'), ('n', .char '\n'),
   ('r', .char '\r'), ('v', .char '\x0b'),
   ('d', .set .digit), ('D', .set CharSet.digit.compl), ('s', .set .blank),
   ('S', .set CharSet.blank.compl), ('w', .set .word), ('W', .set CharSet.word.compl),
   ('A', .anchor .textStart), ('z', .anchor .textEnd), ('b', .anchor .wordEdge),
   ('B', .anchor .noWordEdge), ('<', .anchor .wordStart), ('>', .anchor .wordEnd)]

/-- The anchors that are written `\b` with a name in braces. -/
def namedWordAnchors : List (String × Anchor) :=
  [("start", .wordStart), ("end", .wordEnd), ("start-half", .wordStartHalf),
   ("end-half", .wordEndHalf)]

/-- The character with a code in hexadecimal. -/
def charOfHex (digits : List Char) : Except Defect Char :=
  match (if digits.isEmpty then none else Text.hexNumber? digits).bind Text.charOfCode? with
  | some c => .ok c
  | none => .error .badEscape

/-- Reads the code behind `x`, `u` or `U`: any number of digits in braces, or
exactly `width` digits. -/
def hexEscape (width : Nat) (text : List Char) : Except Defect (Escape × List Char) := do
  match text with
  | '\x7b' :: rest =>
    let digits := rest.takeWhile (· != '\x7d')
    match rest.dropWhile (· != '\x7d') with
    | [] => .error .badEscape
    | _ :: rest => pure (.char (← charOfHex digits), rest)
  | _ =>
    let digits := text.take width
    if digits.length < width then .error .badEscape
    else pure (.char (← charOfHex digits), text.drop width)

/-- Reads the rest of an anchor behind `\b`. Braces that do not begin with a
letter or a hyphen belong to a repetition count. -/
def wordAnchor (text : List Char) : Except Defect (Escape × List Char) :=
  match text with
  | '\x7b' :: inner =>
    let isNameChar := fun (c : Char) => c.isAlpha || c == '-'
    let name := inner.takeWhile isNameChar
    if name.isEmpty then .ok (.anchor .wordEdge, text)
    else
      match namedWordAnchors.lookup (String.ofList name), inner.dropWhile isNameChar with
      | some named, '\x7d' :: rest => .ok (.anchor named, rest)
      | _, _ => .error .badEscape
  | _ => .ok (.anchor .wordEdge, text)

/-- Reads what follows a backslash. -/
def readEscape (text : List Char) : Except Defect (Escape × List Char) :=
  match text with
  | [] => .error .badEscape
  | 'x' :: rest => hexEscape 2 rest
  | 'u' :: rest => hexEscape 4 rest
  | 'U' :: rest => hexEscape 8 rest
  | 'b' :: rest => wordAnchor rest
  | c :: rest =>
    match namedEscapes.lookup c with
    | some meaning => .ok (meaning, rest)
    | none => if isEscapable c then .ok (.char c, rest) else .error .badEscape

end ScenarioSteps.Regex
