import ScenarioSteps.Proofs.Declaration.Buckets
import ScenarioSteps.Proofs.Script.Conjunction
import ScenarioSteps.Proofs.Script.Steps

/-!
# `ScenarioSteps.Proofs.Declaration.StepLine`: a step and its line on its own

The line of a step can also be declared as a text that stands alone. It is then read once
more, without the script around it. `declareText_written` says what comes of it: keyword
and sentence are those of the step, for every line that a scan takes for a step
(`Script.stepLine?_written_of_mem`), and the kind is what they give without the steps before
(`Registry.kindAlone`).

So for a step with nothing attached, the kind alone decides whether both declarations are the
same (`declareStep_eq_declareText_iff`). It always is if the keyword names a kind
(`declareStep_eq_declareText`).
-/

set_option autoImplicit false

namespace ScenarioSteps.Registry

variable (r : Registry) (options : Options)

/-- The kind of a sentence behind a keyword, without the steps before: the kind that the
keyword names, or that of the pattern for the sentence, or else a `Given`. -/
def kindAlone (keyword : Keyword) (sentence : String) : StepKind :=
  (keyword.kind? <|>
    (Body.entry? (r.body options sentence)).map (·.pattern.kind.stepKind)).getD .given

/-- A text that reads as a step is declared as its sentence. -/
theorem declareText_of_stepLine? {text : String} {keyword : Keyword} {sentence : List Char}
    (h : stepLine? text.toList = some (keyword, sentence)) :
    r.declareText options text
      = Declaration.format options.output (r.kindAlone options keyword (String.ofList sentence))
          (String.ofList sentence) (r.body options (String.ofList sentence)).text := by
  rw [declareText, splitSentence, h]
  rfl

section

variable {policy : ConjunctionPolicy} {text : String} {step : ScriptStep}

/-- The line of a step, on its own, is declared with the sentence and the body of the step. -/
theorem declareText_written (hstep : step ∈ (Script.extract policy text).steps) :
    r.declareText options step.written
      = Declaration.format options.output (r.kindAlone options step.keyword step.text) step.text
          (r.body options step.text).text := by
  rw [r.declareText_of_stepLine? options (Script.stepLine?_written_of_mem policy text hstep),
    String.ofList_toList]

/-- Without attachments, a declaration has the body alone between its lines. -/
theorem declareStep_of_bare (hdoc : step.docString? = none) (htable : step.table? = none) :
    r.declareStep options step
      = Declaration.format options.output step.kind step.text
          (r.body options step.text).text := by
  rw [declareStep, ScriptStep.context, hdoc, htable]
  rfl

/-- A step with nothing attached is declared as its line on its own if and only if it has
the kind that its line has on its own. -/
theorem declareStep_eq_declareText_iff (hstep : step ∈ (Script.extract policy text).steps)
    (hdoc : step.docString? = none) (htable : step.table? = none) :
    r.declareStep options step = r.declareText options step.written
      ↔ step.kind = r.kindAlone options step.keyword step.text := by
  rw [r.declareStep_of_bare options hdoc htable, r.declareText_written options hstep]
  constructor
  · intro h
    -- Declarations that are the same name the same kind.
    have hread := congrArg (Declaration.read options.output) h
    rw [Declaration.read_eq_some, Declaration.read_eq_some] at hread
    exact congrArg Prod.fst (Option.some.inj hread)
  · intro h
    rw [← h]

/-- A step of a script whose keyword names a kind, with nothing attached, is declared as
its line on its own. -/
theorem declareStep_eq_declareText (hstep : step ∈ (Script.extract policy text).steps)
    (hkeyword : step.keyword ∈ [Keyword.given, .when, .then]) (hdoc : step.docString? = none)
    (htable : step.table? = none) :
    r.declareStep options step = r.declareText options step.written := by
  have hnamed : ∃ kind, step.keyword.kind? = some kind := by
    revert hkeyword
    cases step.keyword <;> simp [Keyword.kind?]
  obtain ⟨kind, hkind⟩ := hnamed
  have hown : step.kind = kind := (Script.follows_of_mem_extract hstep).1 kind hkind
  rw [r.declareStep_eq_declareText_iff options hstep hdoc htable, kindAlone, hkind, hown]
  rfl

end

/-- The sentence of a step may begin with a keyword, and blanks may stand around both. -/
theorem declareStep_eq_declareText_of_keywords :
    ∃ step ∈ (Script.extract .inherit "Scenario: s\n\t Given   When * x \r\n").steps,
      step.text = "When * x" ∧ step.written = "Given   When * x" ∧ step.kind = .given
        ∧ ∀ (r : Registry) (options : Options),
          r.declareStep options step = r.declareText options "Given   When * x" := by
  have hsteps : (Script.extract .inherit "Scenario: s\n\t Given   When * x \r\n").steps
      = [{ kind := .given, keyword := .given, text := "When * x", written := "Given   When * x",
           line := 2, scenario? := some "s" }] := by
    rw [Script.extract_eq_onePass]
    decide
  refine ⟨_, hsteps ▸ List.mem_singleton_self _, rfl, rfl, rfl, fun r options => ?_⟩
  exact r.declareStep_eq_declareText options (hsteps ▸ List.mem_singleton_self _)
    List.mem_cons_self rfl rfl

end ScenarioSteps.Registry
