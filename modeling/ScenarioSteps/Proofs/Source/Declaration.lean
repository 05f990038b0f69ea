import ScenarioSteps.Proofs.Declaration.Placeholder
import ScenarioSteps.Proofs.Pattern.Dispatch
import ScenarioSteps.Proofs.Source.Generators
import ScenarioSteps.Proofs.Source.Indent

/-!
# `ScenarioSteps.Proofs.Source.Declaration`: a declaration hangs together

A body is the code of a generator or a placeholder. If all patterns of a registry
write steady code, then all its bodies are steady (`Registry.steady_body`), since a
placeholder puts sentences and reasons into a comment and a literal.

The first line of a declaration opens brackets and the last line closes them
(`Declaration.leads_opening`), and what stands between is read in code. So the
declaration of a step is steady if its context is, and the context is if no media
type gets out of its comment (`Registry.steady_declareStep`).
-/

set_option autoImplicit false

namespace ScenarioSteps

open Lexer (State Steady run)
open Literal (lineEnds)

/-! ### Bodies -/

namespace Body

/-- A line that throws is steady, whatever its message is. -/
theorem steady_throwLine (message : String) :
    Steady .code (throwLine (Literal.escapeString '\'' message).toList) := by
  have hbefore : run .start "throw new Error('".toList = some ⟨.literal '\'', [')']⟩ := by decide
  have hbehind : run ⟨.literal '\'', [')']⟩ "');".toList = some .start := by decide
  exact .enclosed hbefore (Lexer.steady_escapeString (by decide) message) hbehind

/-- A placeholder whose comment stays on its line. -/
theorem steady_placeholder {comment : String} (hcomment : ∀ c ∈ comment.toList, c ∉ lineEnds)
    (message : String) : Steady .code (placeholder comment message).toList := by
  have hslashes : ∀ c ∈ "// ".toList, c ∉ lineEnds := List.all_iff_forall_prop.mp (by decide)
  have hnote : Steady .code (("// " ++ comment).toList ++ ['\n']) := by
    rw [String.toList_append]
    exact Lexer.steady_commentLine ⟨' ' :: comment.toList, rfl⟩
      (List.forall_mem_append.mpr ⟨hslashes, hcomment⟩)
  have htext : (placeholder comment message).toList
      = (("// " ++ comment).toList ++ ['\n'])
        ++ throwLine (Literal.escapeString '\'' message).toList := by
    rw [toList_placeholder, List.append_assoc, List.singleton_append]
  rw [htext]
  exact hnote.append (steady_throwLine message)

/-- The placeholder of an unmatched sentence is steady. -/
theorem steady_unmatched (sentence : String) : Steady .code (unmatched sentence).toList := by
  refine steady_placeholder ?_ _
  rw [String.toList_append, List.forall_mem_append]
  exact ⟨List.all_iff_forall_prop.mp (by decide), Literal.escapeComment_not_lineEnd sentence⟩

/-- So is the placeholder of a failed generator, if its key has no line end. -/
theorem steady_failed {key : String} (hkey : ∀ c ∈ key.toList, c ∉ lineEnds)
    (sentence reason : String) : Steady .code (failed key sentence reason).toList :=
  steady_placeholder (failure_not_lineEnd hkey reason) _

/-- The body that a run leaves is steady if the code that it wrote is. -/
theorem steady_ofOutcome {key : String} (hkey : ∀ c ∈ key.toList, c ∉ lineEnds) (sentence : String)
    {outcome : Outcome} (h : ∀ text, outcome = .body text → Steady .code text.toList) :
    Steady .code (ofOutcome key sentence outcome).toList := by
  cases outcome with
  | broken reason? => exact steady_failed hkey sentence _
  | body text =>
      rw [ofOutcome]
      split
      · exact steady_failed hkey sentence _
      · exact h text rfl

end Body

/-- An entry that writes steady code, and whose key can stand in a comment. -/
structure Entry.IsSteady (entry : Entry) : Prop where
  key : ∀ c ∈ entry.key.toList, c ∉ lineEnds
  pattern : entry.pattern.IsSteady

namespace Registry

/-- A registry whose patterns write steady code. -/
def IsSteady (r : Registry) : Prop :=
  ∀ entry ∈ r.entries, entry.IsSteady

variable {r : Registry}

/-- The body for any sentence is steady. -/
theorem steady_body (h : r.IsSteady) (options : Options) (sentence : String) :
    Steady .code (r.body options sentence).text.toList := by
  rw [body]
  cases hresolve : r.resolve? sentence with
  | none => exact Body.steady_unmatched sentence
  | some found =>
      -- The generator runs on what its own pattern has captured.
      obtain ⟨entry, hmem, hfound⟩ := List.exists_of_findSome?_eq_some hresolve
      obtain ⟨rfl, hcaptures⟩ := Entry.recognise?_eq_some_iff.mp hfound
      have hentry := h found.entry hmem
      obtain ⟨generate, hgenerator, hsteady⟩ :=
        hentry.pattern found.entry.regex _ found.captures found.entry.reads hcaptures
      refine Body.steady_ofOutcome hentry.key sentence fun text htext => ?_
      rw [Match.generate, hgenerator, CodeGenerator.run_toGenerator, Outcome.body.injEq] at htext
      rw [← htext]
      exact (hsteady options.execution { values := found.captures } rfl).1

end Registry

/-! ### The syntax of declarations -/

namespace Declaration

/-- The first line of a declaration opens what the last line closes. The body between
them is read in code, with no literal open. -/
theorem leads_opening (target : OutputTarget) (kind : StepKind) (sentence : String) :
    ∃ closers, run .start (opening target kind sentence).toList = some ⟨.code, closers⟩
      ∧ run ⟨.code, closers⟩ (closing target).toList = some .start := by
  cases target with
  | cucumber =>
      -- The sentence is escaped in an expression.
      have hbefore : run .start (kind.word.toList ++ "(/^".toList)
          = some ⟨.literal '/', [')']⟩ := by cases kind <;> decide
      have hbehind : run ⟨.literal '/', [')']⟩ "$/, async function () \x7b\n".toList
          = some ⟨.code, ['\x7d', ')']⟩ := by decide
      refine ⟨['\x7d', ')'], ?_, by decide⟩
      unfold opening
      simp only [String.toList_append]
      rw [List.append_assoc, Lexer.run_append_of hbefore,
        Lexer.run_append_of (Lexer.steady_escapeRegex sentence _), hbehind]
  | playwrightBdd =>
      -- The sentence is escaped in a title.
      have hbefore : run .start ("await test.step(\"".toList ++ kind.word.toList ++ " ".toList)
          = some ⟨.literal '"', [')']⟩ := by cases kind <;> decide
      have hbehind : run ⟨.literal '"', [')']⟩ "\", async () => \x7b\n".toList
          = some ⟨.code, ['\x7d', ')']⟩ := by decide
      refine ⟨['\x7d', ')'], ?_, by decide⟩
      unfold opening
      simp only [String.toList_append]
      rw [List.append_assoc, Lexer.run_append_of hbefore,
        Lexer.run_append_of (Lexer.steady_escapeString (by decide) sentence _), hbehind]
  | generic =>
      -- The sentence is escaped in a comment, which ends before the bracket opens.
      have hnote : Steady .code ("// ".toList ++ kind.word.toList ++ " ".toList
          ++ (Literal.escapeComment sentence).toList ++ ([] ++ ['\n'])) := by
        refine Lexer.steady_commentLine_around ⟨_, rfl⟩ ?_
          (Literal.escapeComment_not_lineEnd sentence) (List.forall_mem_nil _)
        cases kind <;> exact List.all_iff_forall_prop.mp (by decide)
      have hbracket : run .start "\x7b\n".toList = some ⟨.code, ['\x7d']⟩ := by decide
      have hsplit : "\n\x7b\n".toList = ([] ++ ['\n']) ++ "\x7b\n".toList := by decide
      refine ⟨['\x7d'], ?_, by decide⟩
      unfold opening
      simp only [String.toList_append, hsplit]
      rw [← List.append_assoc]
      show run ⟨.code, []⟩ _ = _
      rw [Lexer.run_append_of (hnote [])]
      exact hbracket

/-- A declaration with a steady body. -/
theorem steady_format (target : OutputTarget) (kind : StepKind) (sentence : String) {body : String}
    (hbody : Steady .code body.toList) :
    Steady .code (format target kind sentence body).toList := by
  obtain ⟨closers, hopening, hclosing⟩ := leads_opening target kind sentence
  rw [format, String.toList_append, String.toList_append]
  exact Steady.enclosed hopening hbody.indent hclosing

end Declaration

/-! ### What is attached to a step -/

namespace ScriptStep

/-- Whether no media type at a step has a character that ends a line of source. -/
def MediaStaysOnLine (step : ScriptStep) : Prop :=
  ∀ doc ∈ step.docString?, ∀ media ∈ doc.mediaType?, ∀ c ∈ media.toList, c ∉ lineEnds

/-- Comments, each on a line of its own. -/
theorem steady_comments {α : Type} (comment : α → List Char)
    (hcomment : ∀ a, ['/', '/'] <+: comment a) (hends : ∀ a, ∀ c ∈ comment a, c ∉ lineEnds)
    (list : List α) : Steady .code (list.flatMap fun a => comment a ++ ['\n']) :=
  Steady.flatMap fun a _ => Lexer.steady_commentLine (hcomment a) (hends a)

/-- The comment for a doc string is steady if no line end stands in its media type. -/
theorem steady_docComment {doc : DocString}
    (hmedia : ∀ media ∈ doc.mediaType?, ∀ c ∈ media.toList, c ∉ lineEnds) :
    Steady .code (docComment doc).toList := by
  have hheading : Steady .code (docOpening doc.mediaType? ++ docHeading doc.mediaType? ++ ['\n']) := by
    refine Lexer.steady_commentLine ?_ ?_
    · unfold docOpening
      split <;> exact ⟨_, rfl⟩
    · rw [List.forall_mem_append]
      unfold docOpening docHeading
      cases hdoc : doc.mediaType? with
      | none => exact ⟨List.all_iff_forall_prop.mp (by decide), List.all_iff_forall_prop.mp (by decide)⟩
      | some media =>
          -- The media type is the one text that is not escaped.
          have hstart : ∀ c ∈ "// Doc string (".toList, c ∉ lineEnds :=
            List.all_iff_forall_prop.mp (by decide)
          have hend : ∀ c ∈ [')', ':'], c ∉ lineEnds := List.all_iff_forall_prop.mp (by decide)
          exact ⟨hstart, List.forall_mem_append.mpr ⟨hmedia media hdoc, hend⟩⟩
  have hlines := steady_comments docLine (fun _ => ⟨_, rfl⟩) docLine_not_lineEnd
    (Text.lines doc.content.toList)
  rw [toList_docComment, ← List.append_assoc, ← List.singleton_append, ← List.append_assoc]
  exact hheading.append hlines

/-- The comment for a table is steady, whatever its cells are. -/
theorem steady_tableComment (table : Table) : Steady .code (tableComment table).toList := by
  have hheading : Steady .code ("// Data table:".toList ++ ['\n']) :=
    Lexer.steady_commentLine (by decide) (List.all_iff_forall_prop.mp (by decide))
  have hrows := steady_comments tableLine (fun _ => ⟨_, rfl⟩) tableLine_not_lineEnd table
  rw [toList_tableComment, ← List.singleton_append, ← List.append_assoc]
  exact hheading.append hrows

/-- The comments in front of a body are steady if the media type stays on its line. -/
theorem steady_context {step : ScriptStep} (hmedia : step.MediaStaysOnLine) :
    Steady .code step.context.toList := by
  rw [context, String.toList_append]
  refine Steady.append ?_ ?_
  · cases hdoc : step.docString? with
    | none => exact Lexer.steady_nil _
    | some doc => exact steady_docComment (hmedia doc hdoc)
  · cases step.table? with
    | none => exact Lexer.steady_nil _
    | some table => exact steady_tableComment table

end ScriptStep

/-- The declaration of a step whose media type stays in its comment. -/
theorem Registry.steady_declareStep {r : Registry} (h : r.IsSteady) (options : Options)
    {step : ScriptStep} (hmedia : step.MediaStaysOnLine) :
    Steady .code (r.declareStep options step).toList := by
  rw [declareStep]
  refine Declaration.steady_format _ _ _ ?_
  rw [String.toList_append]
  exact (ScriptStep.steady_context hmedia).append (steady_body h options step.text)

end ScenarioSteps
