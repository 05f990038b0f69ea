import ScenarioSteps.Text.Hexadecimal

/-!
# `ScenarioSteps.Literal.Escape`: text inside JavaScript source

Text of a script reaches generated source in three places: between the quotes
of a string literal, between the slashes of a regular expression, and behind
the slashes of a line comment. Each place has its own escape, and all three
share these rules.

- A backslash is always doubled, so an escape never swallows what follows it.
- The four characters that end a line of JavaScript, which are the line feed,
  the carriage return, U+2028 and U+2029, are always escaped.

Each escape works character by character. `unescape` reads all three back.
-/

set_option autoImplicit false

namespace ScenarioSteps.Literal

/-- One character of a string literal between two `quote`s. -/
def stringChar (quote c : Char) : List Char :=
  match c with
  | '\\' => ['\\', '\\']
  | '\n' => ['\\', 'n']
  | '\r' => ['\\', 'r']
  | '\t' => ['\\', 't']
  | '\u2028' => ['\\', 'u', '2', '0', '2', '8']
  | '\u2029' => ['\\', 'u', '2', '0', '2', '9']
  | _ => if c == quote then ['\\', c] else [c]

/-- The characters with a meaning of their own in a regular expression, and
the slash that ends its literal. -/
def regexMeta : List Char :=
  ['\\', '^', '$', '.', '|', '?', '*', '+', '(', ')', '[', ']', '\x7b', '\x7d', '/']

/-- One character of a regular expression literal. -/
def regexChar (c : Char) : List Char :=
  match c with
  | '\n' => ['\\', 'n']
  | '\r' => ['\\', 'r']
  | '\t' => ['\\', 't']
  | '\u2028' => ['\\', 'u', '2', '0', '2', '8']
  | '\u2029' => ['\\', 'u', '2', '0', '2', '9']
  | _ => if regexMeta.contains c then ['\\', c] else [c]

/-- One character of a line comment. -/
def commentChar (c : Char) : List Char :=
  match c with
  | '\\' => ['\\', '\\']
  | '\n' => ['\\', 'n']
  | '\r' => ['\\', 'r']
  | '\u2028' => ['\\', 'u', '2', '0', '2', '8']
  | '\u2029' => ['\\', 'u', '2', '0', '2', '9']
  | _ => [c]

/-- Applies an escape to each character of a text. -/
def escapeWith (escape : Char → List Char) (text : String) : String :=
  String.ofList (text.toList.flatMap escape)

/-- The inside of a string literal between two `quote`s. -/
def escapeString (quote : Char) (text : String) : String :=
  escapeWith (stringChar quote) text

/-- The inside of a regular expression that matches the text and nothing else. -/
def escapeRegex (text : String) : String :=
  escapeWith regexChar text

/-- The text as part of a line comment. -/
def escapeComment (text : String) : String :=
  escapeWith commentChar text

/-- The character that four hexadecimal digits name. -/
def hexChar? (a b c d : Char) : Option Char := do
  let a ← Text.hexDigit? a
  let b ← Text.hexDigit? b
  let c ← Text.hexDigit? c
  let d ← Text.hexDigit? d
  Text.charOfCode? (((16 * a + b) * 16 + c) * 16 + d)

/-- Reads escaped text back. A backslash before `n`, `r` or `t` is that
control; one before `u` and four hexadecimal digits is the character they
name; one before anything else stands for what follows it. A backslash at the
end stands for itself. -/
def unescapeChars : List Char → List Char
  | [] => []
  | ['\\'] => ['\\']
  | '\\' :: 'n' :: rest => '\n' :: unescapeChars rest
  | '\\' :: 'r' :: rest => '\r' :: unescapeChars rest
  | '\\' :: 't' :: rest => '\t' :: unescapeChars rest
  | '\\' :: 'u' :: a :: b :: c :: d :: rest =>
    match hexChar? a b c d with
    | some named => named :: unescapeChars rest
    | none => 'u' :: unescapeChars (a :: b :: c :: d :: rest)
  | '\\' :: other :: rest => other :: unescapeChars rest
  | c :: rest => c :: unescapeChars rest

/-- Reads escaped text back. -/
def unescape (text : String) : String :=
  String.ofList (unescapeChars text.toList)

/-- A string literal in single quotes. -/
def quoted (text : String) : String :=
  "'" ++ escapeString '\'' text ++ "'"

end ScenarioSteps.Literal
