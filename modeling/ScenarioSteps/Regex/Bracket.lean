import ScenarioSteps.Regex.Escape
import ScenarioSteps.Regex.Nesting

/-!
# `ScenarioSteps.Regex.Bracket`: character classes in brackets

A class lists characters, intervals, escapes, named ASCII classes and nested
classes, and it can combine such lists by the operators `&&`, `--` and `~~`.
All operators bind equally and to the left.

When a pattern ignores case, each class is closed under case first and then
complemented if it begins with a caret. This goes for the named classes as well.
Both sides of an operator are closed under case before it applies.
-/

set_option autoImplicit false

namespace ScenarioSteps.Regex

/-- An operator between two lists of a class. -/
inductive ClassOp where
  | inter
  | diff
  | symmDiff
deriving Repr, DecidableEq

/-- The set that an operator makes of two. -/
def ClassOp.apply : ClassOp → CharSet → CharSet → CharSet
  | .inter => CharSet.inter
  | .diff => CharSet.diff
  | .symmDiff => CharSet.symmDiff

/-- A set as it is written, and how deep it is nested. -/
structure Operand where
  chars : CharSet
  depth : Nat

/-- A class that is being read. -/
structure OpenClass where
  negated : Bool
  /-- What stands before the current list, and the operator behind it. -/
  left? : Option (Operand × ClassOp)
  /-- The items of the current list, the latest first. -/
  items : List CharSet
  nesting : Nesting

/-- Closes a set under case if a pattern ignores case. -/
def closeCase (caseless : Bool) (chars : CharSet) : CharSet :=
  if caseless then chars.anyCase else chars

namespace OpenClass

/-- Adds an item to the current list. -/
def add (c : OpenClass) (item : CharSet) : OpenClass :=
  { c with items := item :: c.items, nesting := c.nesting.add 0 }

/-- Adds a nested class to the current list. -/
def addClass (c : OpenClass) (inner : Operand) : OpenClass :=
  { c with items := inner.chars :: c.items, nesting := c.nesting.add inner.depth }

/-- All that was read so far. -/
def value (caseless : Bool) (c : OpenClass) : Operand :=
  let current := CharSet.ofList c.items.reverse
  match c.left? with
  | none => ⟨current, c.nesting.depth⟩
  -- Both operands are closed under case first. Otherwise a letter that is taken out in one case
  -- would come back with the other.
  | some (left, op) =>
    ⟨op.apply (closeCase caseless left.chars) (closeCase caseless current),
      max left.depth c.nesting.depth + 1⟩

/-- Ends the current list with an operator. -/
def operate (caseless : Bool) (op : ClassOp) (c : OpenClass) : OpenClass :=
  { c with left? := some (c.value caseless, op), items := [], nesting := {} }

/-- A finished class. -/
def finish (caseless : Bool) (c : OpenClass) : Operand :=
  let value := c.value caseless
  let chars := closeCase caseless value.chars
  ⟨if c.negated then chars.compl else chars, value.depth + 1⟩

end OpenClass

/-- The named ASCII classes. -/
def asciiClasses : List (String × CharSet) :=
  let lower := CharSet.interval 'a' 'z'
  let upper := CharSet.interval 'A' 'Z'
  let digits := CharSet.interval '0' '9'
  let alpha := CharSet.union upper lower
  let alnum := CharSet.union digits alpha
  [("alnum", alnum), ("alpha", alpha), ("ascii", .interval '\x00' '\x7f'),
   ("blank", .union (.single '\t') (.single ' ')),
   ("cntrl", .union (.interval '\x00' '\x1f') (.single '\x7f')), ("digit", digits),
   ("graph", .interval '!' '~'), ("lower", lower), ("print", .interval ' ' '~'),
   ("punct", .diff (.interval '!' '~') alnum),
   ("space", .union (.interval '\t' '\r') (.single ' ')), ("upper", upper),
   ("word", .union alnum (.single '_')),
   ("xdigit", .union digits (.union (.interval 'A' 'F') (.interval 'a' 'f')))]

/-- Reads a named ASCII class, of which the opening bracket is already read. A caret
complements what the class is when it is closed under case. -/
def asciiClass? (caseless : Bool) (text : List Char) : Option (CharSet × List Char) :=
  match text with
  | ':' :: rest =>
    let negated := rest.head? == some '^'
    let rest := if negated then rest.tail else rest
    let name := rest.takeWhile (· != ':')
    match asciiClasses.lookup (String.ofList name), rest.dropWhile (· != ':') with
    | some chars, ':' :: ']' :: rest =>
      let chars := closeCase caseless chars
      some (if negated then chars.compl else chars, rest)
    | _, _ => none
  | _ => none

/-- Reads one character or escape of a class. -/
def readClassItem (text : List Char) : Except Defect (Escape × List Char) :=
  match text with
  | [] => .error .unclosedClass
  | '\\' :: rest => readEscape rest
  | c :: rest => .ok (.char c, rest)

/-- The set of an escape in a class. Anchors have no place there. -/
def classItemSet : Escape → Except Defect CharSet
  | .char c => .ok (.single c)
  | .set chars => .ok chars
  | .anchor _ => .error .badEscape

/-- Reads an item of a class, or an interval between two. A hyphen before a
closing bracket or another hyphen does not make an interval. -/
def readClassInterval (text : List Char) : Except Defect (CharSet × List Char) := do
  let (first, rest) ← readClassItem text
  match rest with
  | [] => .error .unclosedClass
  | '-' :: ']' :: _ | '-' :: '-' :: _ => pure (← classItemSet first, rest)
  | '-' :: rest =>
    let (last, rest) ← readClassItem rest
    match first, last with
    | .char lo, .char hi =>
      if lo ≤ hi then pure (.interval lo hi, rest) else .error .badInterval
    | _, _ => .error .badInterval
  | _ => pure (← classItemSet first, rest)

/-- Reads the start of a class behind its bracket: a caret, and then hyphens
and a closing bracket that stand for themselves. -/
def openClass (text : List Char) : OpenClass × List Char :=
  let negated := text.head? == some '^'
  let text := if negated then text.tail else text
  let hyphens := text.takeWhile (· == '-')
  let rest := text.dropWhile (· == '-')
  let opened := hyphens.foldl (fun c hyphen => c.add (.single hyphen)) ⟨negated, none, [], {}⟩
  match hyphens, rest with
  | [], ']' :: rest => (opened.add (.single ']'), rest)
  | _, _ => (opened, rest)

/-- Reads a class up to its closing bracket. `outer` holds the classes that it
is nested in, the innermost first. Each step but the last reads a character or
more, so one more than the length of the text is fuel enough. -/
def readClass (caseless : Bool) :
    Nat → List OpenClass → OpenClass → List Char → Except Defect (Operand × List Char)
  | 0, _, _, _ => .error .unclosedClass
  | fuel + 1, outer, current, text =>
    match text with
    | [] => .error .unclosedClass
    | '[' :: rest =>
      match asciiClass? caseless rest with
      | some (chars, rest) => readClass caseless fuel outer (current.add chars) rest
      | none =>
        let (inner, rest) := openClass rest
        readClass caseless fuel (current :: outer) inner rest
    | ']' :: rest =>
      let finished := current.finish caseless
      match outer with
      | [] => .ok (finished, rest)
      | parent :: outer => readClass caseless fuel outer (parent.addClass finished) rest
    | '&' :: '&' :: rest => readClass caseless fuel outer (current.operate caseless .inter) rest
    | '-' :: '-' :: rest => readClass caseless fuel outer (current.operate caseless .diff) rest
    | '~' :: '~' :: rest =>
      readClass caseless fuel outer (current.operate caseless .symmDiff) rest
    | _ =>
      match readClassInterval text with
      | .error defect => .error defect
      | .ok (chars, rest) => readClass caseless fuel outer (current.add chars) rest

/-- Reads a class, of which the opening bracket is already read. The text must
not be longer than `fuel`. -/
def readBracket (caseless : Bool) (fuel : Nat) (text : List Char) :
    Except Defect (Operand × List Char) :=
  let (current, rest) := openClass text
  readClass caseless (fuel + 1) [] current rest

end ScenarioSteps.Regex
