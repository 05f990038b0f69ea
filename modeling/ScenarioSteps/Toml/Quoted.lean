import ScenarioSteps.Text.Hexadecimal
import ScenarioSteps.Toml.Cursor

/-!
# `ScenarioSteps.Toml.Quoted`: quoted text in a document

There are four ways to quote. Between single quotes every character stands for
itself; between double quotes a backslash begins an escape. Three quotes
instead of one let the text span lines. A line end right behind three opening
quotes is no part of the text, every other line end counts as one line feed,
and up to two more quotes before three closing ones belong to the text.
Between three double quotes, a backslash at the end of a line leaves out all
blanks up to the next character that is not one.
-/

set_option autoImplicit false

namespace ScenarioSteps.Toml

/-- The escapes of one letter. -/
def letterEscapes : List (Char × Char) :=
  [('b', '\x08'), ('t', '\t'), ('n', '\n'), ('f', '\x0c'), ('r', '\r'), ('"', '"'),
   ('\\', '\\')]

namespace Scan

/-- Takes `n` hexadecimal digits, which must name a character. -/
def codePoint (n : Nat) : Scan Char := do
  let digits := (← rest).take n
  match (Text.hexNumber? digits).bind Text.charOfCode? with
  | some c =>
    if digits.length == n then
      skip n
      return c
    else fail
  | none => fail

/-- Takes an escape whose backslash has been taken. The character behind the
backslash is taken in any case. -/
def escape : Scan Char := do
  match (← rest).head? with
  | some 'u' => skip 1; codePoint 4
  | some 'U' => skip 1; codePoint 8
  | some '\n' => skipLine 1; fail
  | some c =>
    skip 1
    match letterEscapes.lookup c with
    | some value => return value
    | none => fail
  | none => fail

/-- Takes the text up to a closing quote in the same line. -/
def oneLine (quote : Char) : Nat → Scan (List Char)
  | 0 => fail
  | fuel + 1 => do
    match (← rest).head? with
    | none => fail
    | some c =>
      if c == quote then
        skip 1
        return []
      else if c == '\\' && quote == '"' then
        skip 1
        let c ← escape
        return c :: (← oneLine quote fuel)
      else if isPlain c then
        skip 1
        return c :: (← oneLine quote fuel)
      else fail

/-- Whether a backslash stands at the end of a line, up to blanks. -/
def isContinuation (afterBackslash : List Char) : Bool :=
  match afterBackslash.dropWhile isGap with
  | '\n' :: _ | '\r' :: '\n' :: _ => true
  | _ => false

/-- Takes the text up to three closing quotes. -/
def manyLines (quote : Char) : Nat → Scan (List Char)
  | 0 => fail
  | fuel + 1 => do
    let left ← rest
    let quotes := left.takeWhile (· == quote)
    if 3 ≤ quotes.length then
      let extra := min 2 (quotes.length - 3)
      skip (3 + extra)
      return List.replicate extra quote
    else if !quotes.isEmpty then
      skip quotes.length
      return quotes ++ (← manyLines quote fuel)
    else if ← newline then
      return '\n' :: (← manyLines quote fuel)
    else
      match left with
      | [] => fail
      | c :: after =>
        if c == '\\' && quote == '"' then
          skip 1
          if isContinuation after then
            blankLines after.length
            manyLines quote fuel
          else
            let c ← escape
            return c :: (← manyLines quote fuel)
        else if isPlain c then
          skip 1
          return c :: (← manyLines quote fuel)
        else fail

/-- Takes text in one line, whose opening quote comes next. -/
def quotedLine (quote : Char) : Scan String := do
  skip 1
  return String.ofList (← oneLine quote ((← rest).length + 1))

/-- Takes quoted text, whose opening quote comes next. -/
def quotedText (quote : Char) : Scan String := do
  if [quote, quote, quote].isPrefixOf (← rest) then
    skip 3
    let _ ← newline
    return String.ofList (← manyLines quote ((← rest).length + 1))
  else quotedLine quote

end Scan

end ScenarioSteps.Toml
