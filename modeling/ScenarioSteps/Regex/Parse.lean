import ScenarioSteps.Regex.Bracket
import ScenarioSteps.Regex.Storage.Limit
import ScenarioSteps.Text.Alphanumeric

/-!
# `ScenarioSteps.Regex.Parse`: reading a pattern

A pattern is read from left to right. What has been read is kept as a stack of
open groups (`Frame`), each with its finished branches and the parts of its
current branch. A part that ends the pattern's current branch is what a
repetition operator behind it applies to; behind an opening bracket, a bar or
a change of flags there is nothing to repeat.

Flags hold from where they are set to the end of the group they are set in.
The flags are `i` (ignore case), `m` (anchors look at lines), `s` (the dot
matches a line feed), `U` (swap greedy and lazy) and `u` (classes go beyond
ASCII, which cannot be turned off). Two more flags are not read: `x`, which lays
a pattern out over lines, and `R`, which ends lines at carriage returns.
-/

set_option autoImplicit false

namespace ScenarioSteps.Regex

/-- The flags of a pattern. -/
structure Flags where
  caseless : Bool
  lines : Bool
  dotAll : Bool
  swapGreed : Bool
deriving Repr, DecidableEq

/-- Sets one flag by its letter. -/
def Flags.set? (flags : Flags) (letter : Char) (value : Bool) : Option Flags :=
  match letter with
  | 'i' => some { flags with caseless := value }
  | 'm' => some { flags with lines := value }
  | 's' => some { flags with dotAll := value }
  | 'U' => some { flags with swapGreed := value }
  | 'u' => if value then some flags else none
  | _ => none

/-- An open group, or the whole pattern. -/
structure Frame where
  /-- The number of a capturing group. -/
  index? : Option Nat
  /-- The flags that hold again behind the group. -/
  outerFlags : Flags
  /-- The finished branches, the latest first. -/
  branches : List Regex := []
  branchNesting : Nesting := {}
  /-- The parts of the current branch, the latest first. -/
  parts : List Regex := []
  /-- How deep the parts are nested. A change of flags counts among them. -/
  nesting : Nesting := {}
  /-- The depth of the latest part, if it can be repeated. -/
  repeatable? : Option Nat := none
deriving Repr, DecidableEq

namespace Frame

/-- Adds a part to the current branch. -/
def add (f : Frame) (part : Regex) (depth : Nat) : Frame :=
  { f with parts := part :: f.parts, nesting := f.nesting.add depth, repeatable? := some depth }

/-- Notes a change of flags in the current branch. -/
def noteFlags (f : Frame) : Frame :=
  { f with nesting := f.nesting.add 0, repeatable? := none }

/-- Puts a repetition in the place of the latest part. -/
def repeatLatest? (f : Frame) (count : Count) : Option Frame :=
  match f.parts, f.repeatable? with
  | part :: parts, some depth =>
    -- The latest part need not be the deepest of its branch.
    let nesting := { f.nesting with deepest := max f.nesting.deepest (depth + 1) }
    some { f with parts := times count part :: parts, nesting, repeatable? := some (depth + 1) }
  | _, _ => none

/-- Ends the current branch. -/
def bar (f : Frame) : Frame :=
  { f with
    branches := join f.parts.reverse :: f.branches
    branchNesting := f.branchNesting.add f.nesting.depth
    parts := []
    nesting := {}
    repeatable? := none }

/-- All branches, as the content of the group. -/
def content (f : Frame) : Regex :=
  let body := oneOf f.bar.branches.reverse
  match f.index? with
  | some index => .group index body
  | none => body

/-- How deep the content is nested. -/
def depth (f : Frame) : Nat :=
  f.bar.branchNesting.depth

end Frame

/-- What has been read of a pattern. -/
structure Reader where
  flags : Flags
  /-- The number of capturing groups so far. -/
  groups : Nat
  names : List (List Char)
  current : Frame
  /-- The groups around the current one, the innermost first. -/
  outer : List Frame
deriving Repr, DecidableEq

namespace Reader

/-- A reader before the first character. -/
def start (flags : Flags) : Reader :=
  ⟨flags, 0, [], { index? := none, outerFlags := flags }, []⟩

/-- Adds a part to the innermost group. -/
def add (r : Reader) (part : Regex) (depth : Nat := 0) : Reader :=
  { r with current := r.current.add part depth }

/-- Opens a group. -/
def enter (r : Reader) (index? : Option Nat) (flags : Flags) : Reader :=
  { r with
    flags
    current := { index?, outerFlags := r.flags }
    outer := r.current :: r.outer }

/-- Opens a capturing group with the next number. -/
def openNumbered (r : Reader) : Reader :=
  { r.enter (some (r.groups + 1)) r.flags with groups := r.groups + 1 }

/-- Closes the innermost group. -/
def close (r : Reader) : Except Defect Reader :=
  match r.outer with
  | [] => .error .unopenedGroup
  | parent :: outer =>
    .ok { r with
      flags := r.current.outerFlags
      current := parent.add r.current.content (r.current.depth + 1)
      outer }

/-- Repeats the latest part. -/
def repeatLatest (r : Reader) (least : Nat) (most? : Option Nat) (lazy : Bool) :
    Except Defect Reader :=
  -- With greed swapped, it is the question mark that makes a repetition greedy.
  match r.current.repeatLatest? ⟨least, most?, lazy == r.flags.swapGreed⟩ with
  | some current => .ok { r with current }
  | none => .error .nothingToRepeat

/-- The whole pattern, once all groups are closed. -/
def finish (r : Reader) : Except Defect Regex :=
  match r.outer with
  | [] => if nestingLimit < r.current.depth then .error .tooDeep else .ok r.current.content
  | _ :: _ => .error .unclosedGroup

end Reader

/-- A literal character. -/
def ofChar (flags : Flags) (c : Char) : Regex :=
  if flags.caseless then ofSet (CharSet.single c).anyCase else .literal [c]

/-- What an escape stands for outside a class. -/
def ofEscape (flags : Flags) : Escape → Regex
  | .char c => ofChar flags c
  | .set chars => ofSet chars
  | .anchor condition => .anchor condition

/-- Takes a question mark off the front, which makes a repetition lazy. -/
def takeLazy : List Char → Bool × List Char
  | '?' :: rest => (true, rest)
  | rest => (false, rest)

/-- Counts end at the largest number of 32 bits. -/
def countLimit : Nat :=
  Nat.pow 2 32

/-- Reads a decimal number with blanks around it. -/
def readNumber (text : List Char) : Except Defect (Nat × List Char) :=
  let text := Text.trimStart text
  let digits := text.takeWhile Char.isDigit
  let n := digits.foldl (fun n d => 10 * n + (d.toNat - '0'.toNat)) 0
  if digits.isEmpty || countLimit ≤ n then .error .badCount
  else .ok (n, Text.trimStart (text.dropWhile Char.isDigit))

/-- Reads the ends of a count up to its closing brace. -/
def readCount (text : List Char) : Except Defect ((Nat × Option Nat) × List Char) := do
  let (least, rest) ← readNumber text
  match rest with
  | '\x7d' :: rest => pure ((least, some least), rest)
  | ',' :: '\x7d' :: rest => pure ((least, none), rest)
  | ',' :: rest =>
    let (most, rest) ← readNumber rest
    match rest with
    | '\x7d' :: rest =>
      if least ≤ most then pure ((least, some most), rest) else .error .badCount
    | _ => .error .badCount
  | _ => .error .badCount

/-- Whether a character can stand in the name of a group. -/
def isNameChar (first : Bool) (c : Char) : Bool :=
  c == '_' || Text.isAlphabetic c
    || (!first && (c == '.' || c == '[' || c == ']' || Text.isNumeric c))

/-- Reads the name of a group up to its closing angle bracket. -/
def readGroupName (text : List Char) : Except Defect (List Char × List Char) :=
  let name := text.takeWhile (· != '>')
  match name, text.dropWhile (· != '>') with
  | first :: others, _ :: rest =>
    if isNameChar true first && others.all (isNameChar false) then .ok (name, rest)
    else .error .badGroupName
  | _, _ => .error .badGroupName

/-- Opens a named group, whose name is next. -/
def readNamedGroup (r : Reader) (text : List Char) : Except Defect (Reader × List Char) := do
  let (name, rest) ← readGroupName text
  if r.names.contains name then .error .repeatedGroupName
  else pure ({ r.openNumbered with names := name :: r.names }, rest)

/-- Reads flags. `seen` holds the letters before, and `value` is false behind a
minus. Answers the flags, the character that ends them, and the rest. -/
def readFlags (flags : Flags) (value : Bool) (seen : List Char) :
    List Char → Except Defect (Flags × Char × List Char)
  | [] => .error .badFlag
  | c :: rest =>
    if c == ')' || c == ':' then
      if seen.head? == some '-' then .error .badFlag else .ok (flags, c, rest)
    else if seen.contains c then .error .badFlag
    else if c == '-' then readFlags flags false (c :: seen) rest
    else
      match flags.set? c value with
      | some flags => readFlags flags value (c :: seen) rest
      | none => .error .badFlag

/-- Reads the start of a group behind its bracket. -/
def readGroup (r : Reader) (text : List Char) : Except Defect (Reader × List Char) := do
  match text with
  | '?' :: '=' :: _ | '?' :: '!' :: _ | '?' :: '<' :: '=' :: _ | '?' :: '<' :: '!' :: _ =>
    .error .lookAround
  | '?' :: 'P' :: '<' :: rest | '?' :: '<' :: rest => readNamedGroup r rest
  | '?' :: rest =>
    let (flags, ending, after) ← readFlags r.flags true [] rest
    if ending == ':' then pure (r.enter none flags, after)
    -- Without a flag, the question mark is one that repeats nothing.
    else if rest.head? == some ')' then .error .nothingToRepeat
    else pure ({ r with flags, current := r.current.noteFlags }, after)
  | _ => pure (r.openNumbered, text)

/-- Reads the next part of a pattern. What follows the character `c` must not
be longer than `fuel`. -/
def readPart (fuel : Nat) (r : Reader) (c : Char) (rest : List Char) :
    Except Defect (Reader × List Char) :=
  let quantify := fun (least : Nat) (most? : Option Nat) (rest : List Char) => do
    let (lazy, rest) := takeLazy rest
    pure (← r.repeatLatest least most? lazy, rest)
  match c with
  | '(' => readGroup r rest
  | ')' => do pure (← r.close, rest)
  | '|' => pure ({ r with current := r.current.bar }, rest)
  | '[' => do
    let (operand, rest) ← readBracket r.flags.caseless fuel rest
    pure (r.add (ofSet operand.chars) operand.depth, rest)
  | '?' => quantify 0 (some 1) rest
  | '*' => quantify 0 none rest
  | '+' => quantify 1 none rest
  | '\x7b' => do
    -- That there is nothing to repeat is reported before any defect of the count.
    if r.current.repeatable?.isNone then .error .nothingToRepeat
    let ((least, most?), rest) ← readCount rest
    quantify least most? rest
  | '\\' => do
    let (meaning, rest) ← readEscape rest
    pure (r.add (ofEscape r.flags meaning), rest)
  | '.' =>
    let chars := if r.flags.dotAll then CharSet.all else (CharSet.single '\n').compl
    pure (r.add (.set chars), rest)
  | '^' => pure (r.add (.anchor (if r.flags.lines then .lineStart else .textStart)), rest)
  | '$' => pure (r.add (.anchor (if r.flags.lines then .lineEnd else .textEnd)), rest)
  | _ => pure (r.add (ofChar r.flags c), rest)

/-- Reads all parts of a pattern. Each step reads a character or more, so the
length of the text is fuel enough. -/
def readParts : Nat → Reader → List Char → Except Defect Reader
  | _, r, [] => .ok r
  | 0, _, _ :: _ => .error .tooLarge
  | fuel + 1, r, c :: rest => do
    let (r, rest) ← readPart fuel r c rest
    if nestingLimit < r.current.nesting.deepest then .error .tooDeep
    readParts fuel r rest

/-- Reads a pattern that ignores case unless it says otherwise. -/
def parse (text : String) : Except Defect Regex := do
  let chars := text.toList
  let flags : Flags := ⟨true, false, false, false⟩
  let regex ← (← readParts chars.length (.start flags) chars).finish
  if regex.fitsStorage then pure regex else .error .tooLarge

end ScenarioSteps.Regex
