import ScenarioSteps.Pattern.Search

/-!
# `ScenarioSteps.Command.Listing`: patterns and search results as output

Patterns are listed in two forms: as lines with columns of fixed width, and as
a JSON array of records that is indented by two spaces per level. A search
result has the same two forms, with its score.
-/

set_option autoImplicit false

namespace ScenarioSteps.Listing

/-! ### Columns -/

/-- A text with spaces behind it, at least `width` characters long. -/
def padRight (width : Nat) (text : String) : String :=
  text ++ String.ofList (List.replicate (width - text.length) ' ')

/-- A text with spaces in front of it, at least `width` characters long. -/
def padLeft (width : Nat) (text : String) : String :=
  String.ofList (List.replicate (width - text.length) ' ') ++ text

/-- The width of the column of keys. -/
def keyWidth : Nat := 34

/-- The width of the column of roles. -/
def kindWidth : Nat := 9

/-- The width of the column of scores. -/
def scoreWidth : Nat := 3

/-- The line of a pattern. -/
def entryLine (entry : Entry) : String :=
  padRight keyWidth entry.key ++ " " ++ padRight kindWidth entry.pattern.kind.name ++ " "
    ++ entry.pattern.description ++ "\n"

/-- The line of a search result. -/
def hitLine (hit : Hit) : String :=
  padLeft scoreWidth (toString hit.score) ++ "  " ++ padRight keyWidth hit.entry.key ++ " "
    ++ hit.entry.pattern.description ++ "\n"

/-! ### JSON -/

/-- One character of a JSON string. -/
def jsonChar (c : Char) : List Char :=
  match c with
  | '"' => ['\\', '"']
  | '\\' => ['\\', '\\']
  | '\x08' => ['\\', 'b']
  | '\x0c' => ['\\', 'f']
  | '\n' => ['\\', 'n']
  | '\r' => ['\\', 'r']
  | '\t' => ['\\', 't']
  | _ =>
    if c.toNat < 0x20 then
      ['\\', 'u', '0', '0', Nat.digitChar (c.toNat / 16), Nat.digitChar (c.toNat % 16)]
    else [c]

/-- A JSON string. -/
def jsonString (text : String) : String :=
  String.ofList ('"' :: text.toList.flatMap jsonChar ++ ['"'])

/-- The indentation of a level. -/
def indentation (level : Nat) : String :=
  String.ofList (List.replicate (2 * level) ' ')

/-- Items between brackets, each on lines of its own. An item is a function of
its level. Brackets without items stay together. -/
def jsonBlock (opening closing : String) (items : List (Nat → String)) (level : Nat) : String :=
  if items.isEmpty then opening ++ closing
  else
    let line := fun (item : Nat → String) => indentation (level + 1) ++ item (level + 1)
    opening ++ "\n" ++ ",\n".intercalate (items.map line) ++ "\n" ++ indentation level ++ closing

/-- A JSON array. -/
def jsonArray (items : List (Nat → String)) : Nat → String :=
  jsonBlock "[" "]" items

/-- A JSON record, whose fields keep their order. -/
def jsonRecord (fields : List (String × (Nat → String))) : Nat → String :=
  jsonBlock "\x7b" "\x7d" (fields.map fun (name, value) level =>
    jsonString name ++ ": " ++ value level)

/-- A string as an item. -/
def jsonText (text : String) : Nat → String :=
  fun _ => jsonString text

/-- The fields of a pattern. A pattern without a sample has no field for it. -/
def entryFields (entry : Entry) : List (String × (Nat → String)) :=
  let p := entry.pattern
  [("key", jsonText entry.key), ("pattern", jsonText p.source), ("kind", jsonText p.kind.name),
   ("tags", jsonArray (p.tags.map jsonText)), ("description", jsonText p.description)]
    ++ (p.sample?.map fun sample => ("example", jsonText sample)).toList

/-- The fields of a search result. -/
def hitFields (hit : Hit) : List (String × (Nat → String)) :=
  entryFields hit.entry ++ [("score", fun _ => toString hit.score)]

/-! ### Whole listings -/

/-- A listing of patterns. -/
def ofEntries (json : Bool) (entries : List Entry) : String :=
  if json then jsonArray (entries.map fun entry => jsonRecord (entryFields entry)) 0 ++ "\n"
  else String.join (entries.map entryLine)

/-- A listing of search results. -/
def ofHits (json : Bool) (hits : List Hit) : String :=
  if json then jsonArray (hits.map fun hit => jsonRecord (hitFields hit)) 0 ++ "\n"
  else String.join (hits.map hitLine)

end ScenarioSteps.Listing
