import ScenarioSteps.Literal.Escape

/-!
# `ScenarioSteps.Code.Fragment`: pieces of generated code

A fragment of code is a list of pieces. A `fixed` piece is code that a
generator writes itself. A `quoted` piece is a text from a script, which
stands in the code as a string literal in single quotes. Fragments keep the
two apart until they are rendered, so text of a script can reach the code
outside of literals only where a generator says so.

A string on its own is a fixed piece, and fragments are put together by `++`.
-/

set_option autoImplicit false

namespace ScenarioSteps

/-- A piece of generated code. -/
inductive CodePiece where
  /-- Code as it stands. -/
  | fixed (code : String)
  /-- A string literal that holds a text. -/
  | quoted (text : String)
deriving Repr, DecidableEq

/-- A piece as source. -/
def CodePiece.render : CodePiece → String
  | fixed code => code
  | quoted text => Literal.quoted text

/-- A fragment of generated code. -/
structure Code where
  pieces : List CodePiece
deriving Repr, DecidableEq

namespace Code

/-- A fragment of fixed code. -/
def fixed (code : String) : Code :=
  ⟨[.fixed code]⟩

/-- A string literal that holds a text. -/
def quoted (text : String) : Code :=
  ⟨[.quoted text]⟩

/-- One fragment behind another. -/
def append (a b : Code) : Code :=
  ⟨a.pieces ++ b.pieces⟩

instance : Append Code := ⟨append⟩

instance : Coe String Code := ⟨fixed⟩

/-- Fragments with a separator between any two. -/
def join (separator : String) : List Code → Code
  | [] => ⟨[]⟩
  | [last] => last
  | first :: rest => first ++ separator ++ join separator rest

/-- An object literal with the given properties. -/
def object (properties : List (String × Code)) : Code :=
  "\x7b " ++ join ", " (properties.map fun (name, value) => name ++ ": " ++ value) ++ " \x7d"

/-- A fragment as source. -/
def render (code : Code) : String :=
  String.join (code.pieces.map CodePiece.render)

end Code

end ScenarioSteps
