import ScenarioSteps.Text.Binary64

/-!
# `ScenarioSteps.Toml.Document`: the tables of a settings document

A document is a tree of tables. A table keeps its entries in the order in
which their keys first appeared, and remembers how it came to be (`Form`),
because that decides what may still be added to it:

* a table under a header of its own is complete; no other header and no dotted
  key may name it again,
* a table that only lies on the way of a longer header may still get a header
  of its own,
* a table on the way of a dotted key may be extended by more dotted keys,
* a table between braces may not be extended at all.

Three operations build a document: `assign`, `openTable` and `openElement`.
Each fails if the document already says otherwise. All of them are an `edit`
of one table, found along a path of keys. A path leads through an array of
tables by its latest element.

Every value stands on the line of its key, so only keys carry a line.
-/

set_option autoImplicit false

namespace ScenarioSteps.Toml

/-- A key, and the line that it stands on. -/
structure Key where
  name : String
  line : Nat
deriving Repr, DecidableEq

/-- A number with a point or an exponent, or one of the two special names. -/
inductive Real where
  | numeral (n : Text.Numeral)
  | infinity (negative : Bool)
  | notANumber
deriving Repr, DecidableEq

/-- A real number as messages show it: as the nearest binary number. -/
def Real.shown : Real → String
  | .numeral n => n.shown
  | .infinity negative => if negative then "-inf" else "inf"
  | .notANumber => "NaN"

/-- The values without parts. -/
inductive Scalar where
  | string (text : String)
  | integer (n : Int)
  | real (x : Real)
  | boolean (b : Bool)
  /-- A date, a time or both. -/
  | moment
deriving Repr, DecidableEq

/-- How a table came to be. -/
inductive Form where
  /-- By a header of its own. -/
  | header
  /-- On the way of a longer header. -/
  | implied
  /-- On the way of a dotted key. -/
  | dotted
  /-- Between braces. -/
  | inline
deriving Repr, DecidableEq

/-- What stands under a key. -/
inductive Node where
  | scalar (value : Scalar)
  | array (items : List Node)
  | table (form : Form) (entries : List (Key × Node))
  /-- The tables that headers in double brackets opened, in order. -/
  | tables (elements : List (List (Key × Node)))
deriving Repr

/-- The entries of a table, in the order of their keys' first appearance. -/
abbrev Entries := List (Key × Node)

namespace Entries

/-- What stands under a name. -/
def get? (entries : Entries) (name : String) : Option Node :=
  (List.find? (·.1.name == name) entries).map (·.2)

/-- Removes what stands under a name. -/
def remove (entries : Entries) (name : String) : Entries :=
  List.filter (·.1.name != name) entries

/-- Replaces what stands under a key. A new key comes last; a key that is
there keeps its place and its line. -/
def alter (key : Key) (f : Option Node → Option Node) : Entries → Option Entries
  | [] => (f none).map fun node => [(key, node)]
  | (other, node) :: rest =>
    if other.name == key.name then (f (some node)).map fun node => (other, node) :: rest
    else (alter key f rest).map ((other, node) :: ·)

/-- Edits the table at the end of a path, which starts at a table of the given
form. Tables that are missing on the way are made: by a dotted key if `dotted`,
else by a header. A dotted key may not pass a table that has a header. -/
def edit (dotted : Bool) (change : Form → Entries → Option Entries) :
    List Key → Form → Entries → Option Entries
  | [], form, entries => change form entries
  | key :: path, _, entries =>
    entries.alter key fun
      | none =>
        let form := if dotted then .dotted else .implied
        (edit dotted change path form []).map (.table form)
      | some (.table form inner) =>
        if form == .inline || (dotted && form == .header) then none
        else (edit dotted change path form inner).map (.table form)
      | some (.tables elements) =>
        match elements.getLast? with
        | some latest =>
          (edit dotted change path .header latest).map fun latest =>
            .tables (elements.dropLast ++ [latest])
        | none => none
      | some _ => none

/-- Puts a new key into a table of a form. A table of a dotted key takes only
what dotted keys assign, and only such a table takes it. -/
def put (dotted : Bool) (key : Key) (node : Node) (form : Form) (entries : Entries) :
    Option Entries :=
  if (form == .dotted) != dotted || (entries.get? key.name).isSome then none
  else some (entries ++ [(key, node)])

/-- Assigns to the key at the end of a dotted path. -/
def assign (path : List Key) (key : Key) (node : Node) (form : Form) (entries : Entries) :
    Option Entries :=
  edit true (put (!path.isEmpty) key node) path form entries

/-- Opens the table under a key by a header. A table that was only implied
moves to the end and keeps its entries. -/
def openHere (key : Key) (entries : Entries) : Option Entries :=
  match entries.get? key.name with
  | none => some (entries ++ [(key, .table .header [])])
  | some (.table .implied inner) =>
    some (entries.remove key.name ++ [(key, .table .header inner)])
  | some _ => none

/-- Opens one more table in the array of tables under a key. -/
def openNext (key : Key) (entries : Entries) : Option Entries :=
  entries.alter key fun
    | none => some (.tables [[]])
    | some (.tables elements) => some (.tables (elements ++ [[]]))
    | some _ => none

end Entries

/-- A document while it is read: all entries, and the path of the header that
was opened last. -/
structure Draft where
  root : Entries := []
  current : List Key := []
deriving Repr

namespace Draft

/-- Assigns to a dotted key below the latest header. -/
def assign (d : Draft) (path : List Key) (key : Key) (node : Node) : Option Draft :=
  (Entries.edit false (Entries.assign path key node) d.current .header d.root).map fun root =>
    { d with root }

/-- Opens a table by its header. -/
def openTable (d : Draft) (path : List Key) (key : Key) : Option Draft :=
  (Entries.edit false (fun _ => Entries.openHere key) path .header d.root).map fun root =>
    ⟨root, path ++ [key]⟩

/-- Opens an element of an array of tables by its header. -/
def openElement (d : Draft) (path : List Key) (key : Key) : Option Draft :=
  (Entries.edit false (fun _ => Entries.openNext key) path .header d.root).map fun root =>
    ⟨root, path ++ [key]⟩

end Draft

end ScenarioSteps.Toml
