import ScenarioSteps.Proofs.Catalog.Suited
import ScenarioSteps.Proofs.Declaration.Buckets

/-!
# `ScenarioSteps.Proofs.Declaration.Targets`: the two targets are independent

The execution target is for bodies, the output target for what is put around them.
Nothing in the types says so: a generator is handed both. A generator that does not look
at the output target `IgnoresOutput`, and every generator of the catalog does
(`ignoresOutput_standard`).

The other direction needs no condition on generators. Which pattern a sentence goes to,
and so its kind, is settled before any generator is run (`entry?_body`).

`targets_independent` puts both together for the standard registry.
-/

set_option autoImplicit false

namespace ScenarioSteps

/-- A generator that answers the same for all output targets. -/
def Generator.IgnoresOutput (generator : Generator) : Prop :=
  ∀ (output output' : OutputTarget) (execution : ExecutionTarget),
    generator ⟨output, execution⟩ = generator ⟨output', execution⟩

/-- The generator of a fragment is handed the execution target only. -/
theorem CodeGenerator.ignoresOutput (generate : CodeGenerator) :
    generate.toGenerator.IgnoresOutput :=
  fun _ _ _ => rfl

namespace Registry

variable (r : Registry)

/-- The entry of a body is that of the match, whatever its generator does. -/
theorem entry?_body (options : Options) (sentence : String) :
    Body.entry? (r.body options sentence) = (r.resolve? sentence).map Match.entry := by
  rw [body]
  cases r.resolve? sentence <;> rfl

/-- The kind of a text that stands alone: that of its keyword, or else that of the pattern
for its sentence, or a `Given`. -/
def kindOfText (text : String) : StepKind :=
  (((splitSentence text).1.bind Keyword.kind?)
    <|> (r.resolve? (splitSentence text).2).map (·.entry.pattern.kind.stepKind)).getD .given

/-- A declaration of a text that stands alone reads as its kind and its sentence. -/
theorem read_declareText (options : Options) (text : String) :
    Declaration.read options.output (r.declareText options text)
      = some (r.kindOfText text, (splitSentence text).2) := by
  have hkind : (r.resolve? (splitSentence text).2).map (·.entry.pattern.kind.stepKind)
      = (Body.entry? (r.body options (splitSentence text).2)).map (·.pattern.kind.stepKind) := by
    rw [entry?_body, Option.map_map]
    rfl
  rw [kindOfText, hkind]
  exact Declaration.read_eq_some options.output _ _ _

/-- The names of declarations in a bucket: kind and sentence of the steps of its kind. -/
theorem map_read_declareScript (policy : ConjunctionPolicy) (options : Options) (script : String)
    (kind : StepKind) :
    ((r.declareScript policy options script).get kind).map (Declaration.read options.output)
      = (((Script.extract policy script).steps.filter (·.kind == kind)).map
          fun step => (step.kind, step.text)).map some := by
  rw [get_declareScript, List.map_map, List.map_map]
  exact List.map_congr_left fun step _ => r.read_declareStep options step

variable {r}

/-- If generators ignore the output target, so do bodies. -/
theorem body_eq_of_ignoresOutput
    (h : ∀ entry ∈ r.entries, entry.pattern.generator.IgnoresOutput)
    (output output' : OutputTarget) (execution : ExecutionTarget) (sentence : String) :
    r.body ⟨output, execution⟩ sentence = r.body ⟨output', execution⟩ sentence := by
  rw [body, body]
  cases hresolve : r.resolve? sentence with
  | none => rfl
  | some found =>
      have hsame := h found.entry (recognise?_of_resolve? hresolve).1 output output' execution
      simp only [Match.generate, Generator.run, hsame]

/-- No generator of the standard registry looks at the output target. -/
theorem ignoresOutput_standard (hr : standard = .ok r) :
    ∀ entry ∈ r.entries, entry.pattern.generator.IgnoresOutput := by
  intro entry hmem
  obtain ⟨generate, hgenerator, -⟩ := suited_catalog _ (mem_catalog_of_mem_standard hr hmem)
  rw [show entry.pattern.generator = generate.toGenerator from hgenerator]
  exact generate.ignoresOutput

/-- Over the standard registry, the body for a sentence depends on the execution target
only, and with it the entry, which gives key and kind. Kind and sentence that are read off
the declaration of a text are the same for all targets, and so are those of the
declarations of a script, bucket by bucket and in their order. -/
theorem targets_independent :
    ∃ r : Registry, standard = .ok r
      ∧ (∀ (output output' : OutputTarget) (execution : ExecutionTarget) (sentence : String),
          r.body ⟨output, execution⟩ sentence = r.body ⟨output', execution⟩ sentence)
      ∧ (∀ text, ∃ kind sentence, ∀ options : Options,
          Declaration.read options.output (r.declareText options text) = some (kind, sentence))
      ∧ ∀ policy script, ∃ named : StepKind → List (StepKind × String),
          ∀ (options : Options) (kind : StepKind),
            ((r.declareScript policy options script).get kind).map
                (Declaration.read options.output)
              = (named kind).map some := by
  obtain ⟨r, hr, -⟩ := standard_entries
  refine ⟨r, hr, body_eq_of_ignoresOutput (ignoresOutput_standard hr), fun text => ?_,
    fun policy script => ?_⟩
  · exact ⟨_, _, fun options => r.read_declareText options text⟩
  · exact ⟨_, fun options kind => r.map_read_declareScript policy options script kind⟩

end Registry

end ScenarioSteps
