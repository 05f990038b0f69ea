import ScenarioSteps.Toml.Number

/-!
# `ScenarioSteps.Toml.Read`: reading a document

A document is a sequence of statements, each of which ends its line: a header
`[a.b]` or `[[a.b]]`, or an assignment `a.b = value` below the latest header.
Blank lines and comments may stand anywhere between statements.

Values in brackets may nest up to `nestingLimit`, and a key has fewer parts
than `keyLimit`. All loops are bounded by the length of what is left, because
each round takes at least one character.
-/

set_option autoImplicit false

namespace ScenarioSteps.Toml

/-- How deep brackets and braces may nest. -/
def nestingLimit : Nat := 79

/-- The number of parts that a dotted key may not reach. -/
def keyLimit : Nat := 80

/-- The characters of a key without quotes. -/
def isKeyChar (c : Char) : Bool :=
  c.isAlphanum || c == '_' || c == '-'

/-- Whether a key comes next, up to blanks. -/
def keyAhead (cs : List Char) : Bool :=
  (cs.dropWhile isGap).head?.any fun c => isKeyChar c || c == '"' || c == '\''

namespace Scan

/-- Takes one part of a key, and the blanks around it. -/
def keyPart : Scan Key := do
  gap
  let line ← line
  let name ←
    match (← rest).head? with
    | some '"' => quotedLine '"'
    | some '\'' => quotedLine '\''
    | _ => do
      let name ← takeWhile isKeyChar
      if name.isEmpty then fail
      pure (String.ofList name)
  gap
  return ⟨name, line⟩

/-- Takes a dotted key: the path to its last part, and that part. -/
def key : Nat → Scan (List Key × Key)
  | 0 => fail
  | room + 1 => do
    let part ← keyPart
    if ← accept '.' then
      let (path, last) ← key room
      return (part :: path, last)
    else return ([], part)

/-- Takes the items of an array up to its closing bracket. An item belongs
together with the lines behind it: if one of these is broken, the array goes
wrong where the item starts. -/
def items (item : Scan Node) : Nat → Scan (List Node)
  | 0 => fail
  | fuel + 1 => do
    unless ← spread fuel do fail
    if ← accept ']' then return []
    let line ← line
    let first ← item
    -- Broken lines behind an item are blamed on the line where it starts.
    unless ← spread fuel do throw ⟨.unexpected, line⟩
    if ← accept ',' then return first :: (← items item fuel)
    expect ']'
    return [first]

/-- Takes the assignments of a table between braces, up to its closing brace. -/
def pairs (item : Scan Node) : Nat → Scan (List (List Key × Key × Node))
  | 0 => return []
  | fuel + 1 => do
    let (path, last) ← key (keyLimit - 1)
    expect '='
    gap
    let value ← item
    gap
    match ← rest with
    | ',' :: after =>
      -- A comma with no key behind it is not one between assignments.
      if keyAhead after then
        skip 1
        return (path, last, value) :: (← pairs item fuel)
      else return [(path, last, value)]
    | _ => return [(path, last, value)]

/-- The entries that assignments between braces make. -/
def entriesOf? (assignments : List (List Key × Key × Node)) : Option Entries :=
  assignments.foldlM
    (fun entries (path, last, value) => Entries.assign path last value .inline entries) []

/-- Takes a table between braces, of which the first has been taken. -/
def inlineTable (item : Scan Node) : Scan Node := do
  let line ← line
  let assignments ← if keyAhead (← rest) then pairs item (← rest).length else pure []
  match entriesOf? assignments with
  | none => throw ⟨.redefined, line⟩
  | some entries =>
    gap
    expect '}'
    return .table .inline entries

/-- Takes a value without parts. -/
def scalar : Scan Scalar := do
  match (← rest).head? with
  | some '"' => return .string (← quotedText '"')
  | some '\'' => return .string (← quotedText '\'')
  | some 't' => expectText "true".toList; return .boolean true
  | some 'f' => expectText "false".toList; return .boolean false
  | _ => number

/-- Takes a value, in which brackets and braces nest `room` deep. -/
def value : Nat → Scan Node
  | 0 => return .scalar (← scalar)
  | room + 1 => do
    if ← accept '[' then return .array (← items (value room) ((← rest).length + 2))
    else if ← accept '{' then inlineTable (value room)
    else return .scalar (← scalar)

/-- What a statement makes of a draft, or the failure of a statement that
contradicts those before it. -/
def revise (line : Nat) (draft? : Option Draft) : Scan Draft :=
  match draft? with
  | some draft => return draft
  | none => throw ⟨.redefined, line⟩

/-- Takes a header. -/
def header (draft : Draft) : Scan Draft := do
  let line ← line
  expect '['
  if ← accept '[' then
    let (path, last) ← key (keyLimit - 1)
    expectText [']', ']']
    statementEnd
    revise line (draft.openElement path last)
  else
    let (path, last) ← key (keyLimit - 1)
    expect ']'
    statementEnd
    revise line (draft.openTable path last)

/-- Takes an assignment. -/
def assignment (draft : Draft) : Scan Draft := do
  let line ← line
  let (path, last) ← key (keyLimit - 1)
  expect '='
  gap
  let value ← value nestingLimit
  statementEnd
  revise line (draft.assign path last value)

/-- Takes all statements. -/
def statements : Nat → Draft → Scan Draft
  | 0, _ => fail
  | fuel + 1, draft => do
    gap
    match (← rest).head? with
    | none => return draft
    | some '[' => statements fuel (← header draft)
    | some c =>
      if c == '#' || c == '\n' || c == '\r' then
        statementEnd
        statements fuel draft
      else statements fuel (← assignment draft)

end Scan

/-- Reads a document, which may begin with a byte order mark. -/
def read (text : String) : Except Malformed Entries :=
  let cs :=
    match text.toList with
    | '\uFEFF' :: rest => rest
    | cs => cs
  ((Scan.statements (cs.length + 1) {}).run ⟨cs, 1⟩).map (·.1.root)

end ScenarioSteps.Toml
