import ScenarioSteps.Code.Fragment
import ScenarioSteps.Proofs.Source.Lexer

/-!
# `ScenarioSteps.Proofs.Source.Fragment`: how a fragment of code is read

A fragment is fixed code with literals in between, and a literal is a term
whatever its text. So the reader need not look into the literals: `Code.Passes`
reads the pieces of a fragment one by one and passes over each literal, and
`leads_of_passes` says that the rendered fragment is read the same.

The relation is built by its constructors alone, in as many steps as there are
pieces. Each step takes fixed code as a list of characters, so nothing is decoded
on the way, and the text of a literal can be a variable.
-/

set_option autoImplicit false

namespace ScenarioSteps

open Lexer (State IsTerm Steady run)

namespace Code

/-- Fragments are put together piece by piece. -/
@[simp]
theorem pieces_append (a b : Code) : (a ++ b).pieces = a.pieces ++ b.pieces :=
  rfl

/-- Fixed code is one piece. -/
@[simp]
theorem pieces_fixed (code : String) : (fixed code).pieces = [.fixed code] :=
  rfl

/-- So is a quoted text. -/
@[simp]
theorem pieces_quoted (text : String) : (quoted text).pieces = [.quoted text] :=
  rfl

/-- It does not matter how fragments are bracketed. -/
theorem append_assoc (a b c : Code) : a ++ b ++ c = a ++ (b ++ c) :=
  congrArg Code.mk (List.append_assoc a.pieces b.pieces c.pieces)

/-- The source of a fragment is that of its pieces. -/
theorem toList_render (code : Code) :
    code.render.toList = code.pieces.flatMap fun piece => piece.render.toList := by
  rw [render, String.toList_join, List.flatMap_map]

/-- Fragments are rendered one behind another. -/
theorem render_append (a b : Code) :
    (a ++ b).render.toList = a.render.toList ++ b.render.toList := by
  simp only [toList_render]
  exact List.flatMap_append

/-- Fixed code is rendered as it is. -/
theorem render_fixed (code : String) : (fixed code).render.toList = code.toList := by
  rw [toList_render]
  exact List.append_nil _

/-- A fragment leads a reader from one state to another. -/
def Leads (s : State) (code : Code) (s' : State) : Prop :=
  run s code.render.toList = some s'

/-- A fragment that hangs together by itself. -/
def IsSteady (code : Code) : Prop :=
  Steady .code code.render.toList

/-- The second of two fragments is read where the first one leads. -/
theorem Leads.append {s s' s'' : State} {a b : Code} (ha : a.Leads s s') (hb : b.Leads s' s'') :
    (a ++ b).Leads s s'' := by
  rw [Leads, render_append, Lexer.run_append_of ha]
  exact hb

/-- Two steady fragments are steady together. -/
theorem IsSteady.append {a b : Code} (ha : a.IsSteady) (hb : b.IsSteady) : (a ++ b).IsSteady := by
  rw [IsSteady, render_append]
  exact Steady.append ha hb

/-- A term between two fragments, of which the second closes what the first opens. -/
theorem isSteady_around_term {s : State} {before term behind : Code}
    (hbefore : before.Leads .start s) (hmode : s.mode ∈ [.code, .opened])
    (hterm : IsTerm term.render.toList) (hbehind : behind.Leads ⟨.code, s.closers⟩ .start) :
    (before ++ term ++ behind).IsSteady := by
  refine Lexer.steady_of_run ?_
  have hterm := hterm s.mode hmode s.closers
  rw [render_append, render_append, List.append_assoc]
  show run .start _ = some .start
  rw [Lexer.run_append_of hbefore, Lexer.run_append_of hterm]
  exact hbehind

/-! ### Passing over literals -/

/-- The pieces of a fragment lead a reader from one state to another. Fixed code is given
by its characters. A literal can have any text, and stands where code can stand. -/
inductive Passes : State → List CodePiece → State → Prop
  | nil {s : State} : Passes s [] s
  | fixed {s next s' : State} {text : List Char} {pieces : List CodePiece}
      (htext : run s text = some next) (hrest : Passes next pieces s') :
      Passes s (.fixed (String.ofList text) :: pieces) s'
  | quoted {s s' : State} {text : String} {pieces : List CodePiece}
      (hmode : s.mode ∈ [.code, .opened]) (hrest : Passes ⟨.code, s.closers⟩ pieces s') :
      Passes s (.quoted text :: pieces) s'

/-- What passes piece by piece is read the same from the rendered source. -/
theorem Passes.run_eq {s s' : State} {pieces : List CodePiece} (h : Passes s pieces s') :
    run s (pieces.flatMap fun piece => piece.render.toList) = some s' := by
  induction h with
  | nil => rfl
  | @fixed s next _ text pieces htext _ ih =>
      have hpiece : run s (CodePiece.fixed (String.ofList text)).render.toList = some next := by
        rw [CodePiece.render, String.toList_ofList, htext]
      rw [List.flatMap_cons, Lexer.run_append_of hpiece, ih]
  | @quoted s _ text pieces hmode _ ih =>
      have hpiece := Lexer.isTerm_quoted text s.mode hmode s.closers
      rw [List.flatMap_cons]
      show run ⟨s.mode, s.closers⟩ ((Literal.quoted text).toList ++ _) = _
      rw [Lexer.run_append_of hpiece, ih]

/-- A fragment whose pieces pass leads the reader where they do. -/
theorem leads_of_passes {s s' : State} {code : Code} (h : Passes s code.pieces s') :
    code.Leads s s' := by
  rw [Leads, toList_render]
  exact h.run_eq

/-- A fragment that opens nothing, or closes again what it opens, is steady. -/
theorem isSteady_of_passes {code : Code} (h : Passes .start code.pieces .start) : code.IsSteady :=
  Lexer.steady_of_run (leads_of_passes h)

end Code

end ScenarioSteps
