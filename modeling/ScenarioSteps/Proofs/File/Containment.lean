import ScenarioSteps.File.Assemble
import ScenarioSteps.Proofs.Catalog.Standard
import ScenarioSteps.Proofs.Declaration.Buckets
import ScenarioSteps.Proofs.Declaration.Total
import ScenarioSteps.Proofs.Pattern.Differing
import ScenarioSteps.Proofs.Script.OnePass

/-!
# `ScenarioSteps.Proofs.File.Containment`: a generator acts on its own steps only

A generator may write any text, write nothing but blanks, or break down for any reason.
Two registries that differ in one generator are compared on a whole script:

* `Registry.declares_declareStep`: each step gets a declaration that names it, with a body
  that is the code of the generator or throws.
* `Registry.declareStep_eq_of_ne`: a step that goes to another key has the same declaration
  in both.
* `Registry.assemble_eq_fileOfBlocks`: of a registry, a file takes the declarations and
  nothing else. Which steps are declared, in which block and in which order, is settled by
  the script (`Layout.blocks`).

`Registry.generator_contained` puts this together. So no outcome of a generator can keep
any declaration out of a file, move it, or change it if it is of another step.
-/

set_option autoImplicit false

namespace ScenarioSteps

/-! ### The places of declarations -/

/-- The steps that a file declares, block by block. Without blocks, it is all one block. -/
def Layout.blocks (layout : Layout) (target : OutputTarget) (steps : List ScriptStep) :
    List (List ScriptStep) :=
  match target with
  | .playwrightBdd => (Block.ofSteps steps).map fun b => layout.arrange b.steps
  | .cucumber | .generic => [layout.arrange steps]

/-- The file for a script, from the declarations of each of its blocks. -/
def fileOfBlocks (options : Options) (filename : String) (script : Script)
    (blocks : List (List String)) : String :=
  fileHeader filename script.feature? options ++
    match options.output with
    | .playwrightBdd =>
      let openings := (Block.ofSteps script.steps).map
        (Block.opening (script.feature?.getD filename))
      "\n".intercalate ((openings.zip blocks).map fun (opening, declarations) =>
        opening ++ "\n" ++ "\n".intercalate (declarations.map (indent bodyIndent)) ++ "\x7d);\n")
    | .cucumber | .generic =>
      String.join (blocks.flatten.map fun declaration => "\n" ++ declaration ++ "\n")

namespace Registry

/-- Of a registry, a file takes the declarations of the steps in its blocks. -/
theorem assemble_eq_fileOfBlocks (r : Registry) (layout : Layout) (options : Options)
    (filename text : String) :
    let script := Script.extract layout.conjunctions text
    r.assemble layout options filename text
      = fileOfBlocks options filename script
          ((layout.blocks options.output script.steps).map (·.map (r.declareStep options))) := by
  intro script
  unfold assemble fileOfBlocks Layout.blocks
  cases options.output with
  | playwrightBdd =>
      simp only [List.map_map, List.zip_map', Function.comp_def]
      rfl
  | cucumber | generic =>
      simp only [List.map_singleton, List.flatten_singleton, List.map_map, Function.comp_def]
      rfl

/-! ### What a step is declared as -/

/-- What a body holds for a sentence: the code of the generator that the sentence goes to,
or a statement that throws if it goes nowhere or the generator leaves no code. -/
def Implements (r : Registry) (options : Options) (sentence body : String) : Prop :=
  match r.resolve? sentence with
  | none => Body.Throws body ("Step not implemented: " ++ sentence)
  | some found =>
    match (found.generate options).1.code? with
    | some code => body = code
    | none => Body.Throws body ("Step generation failed: " ++ sentence)

/-- A declaration of a step: it names the kind and the sentence, and holds what is attached
to the step and a body for the sentence, which is not blank. -/
structure Declares (r : Registry) (options : Options) (step : ScriptStep)
    (declaration : String) : Prop where
  names : Declaration.read options.output declaration = some (step.kind, step.text)
  holds : ∃ body, declaration
      = Declaration.format options.output step.kind step.text (step.context ++ body)
    ∧ Text.trim body.toList ≠ [] ∧ r.Implements options step.text body

/-- The body of a sentence is the code of its generator, or it throws. -/
theorem implements_body (r : Registry) (options : Options) (sentence : String) :
    r.Implements options sentence (r.body options sentence).text := by
  rw [Implements, body]
  cases r.resolve? sentence with
  | none => exact Body.throws_unmatched sentence
  | some found =>
      simp only
      cases hcode : (found.generate options).1.code? with
      | some code => exact (Body.ofOutcome_of_code? _ _ hcode).1
      | none => exact Body.throws_ofOutcome _ _ hcode

/-- Each step gets a declaration, whatever the generators do. -/
theorem declares_declareStep (r : Registry) (options : Options) (step : ScriptStep) :
    r.Declares options step (r.declareStep options step) where
  names := r.read_declareStep options step
  holds := ⟨_, rfl, r.not_blank_body options step.text, r.implements_body options step.text⟩

section

variable {key : String} {r r' : Registry}

/-- A sentence that goes to another key has the same body in both registries. -/
theorem body_eq_of_ne (h : r.SameBut key r') (options : Options) {sentence : String}
    (hne : (r.resolve? sentence).map Match.key ≠ some key) :
    r'.body options sentence = r.body options sentence := by
  rw [body, body, resolve?_eq_of_ne h hne]

/-- A step that goes to another key is declared the same by both registries. -/
theorem declareStep_eq_of_ne (h : r.SameBut key r') (options : Options) {step : ScriptStep}
    (hne : (r.resolve? step.text).map Match.key ≠ some key) :
    r'.declareStep options step = r.declareStep options step := by
  rw [declareStep, declareStep, body_eq_of_ne h options hne]

/-- Two registries that differ in the generator under one key, on one script. Each step is
declared in both, whatever the generators do, and the two declarations are the same unless
the step goes to that key, in one registry as in the other. The buckets hold declarations
of the same steps in the same order, and so do the blocks of the files. The declarations
are all that differs between the two files. -/
theorem generator_contained (h : r.SameBut key r') (layout : Layout) (options : Options)
    (filename text : String) :
    let script := Script.extract layout.conjunctions text
    let blocks := layout.blocks options.output script.steps
    (∀ step ∈ script.steps,
        r.Declares options step (r.declareStep options step)
        ∧ r'.Declares options step (r'.declareStep options step)
        ∧ (r'.resolve? step.text).map Match.key = (r.resolve? step.text).map Match.key
        ∧ ((r.resolve? step.text).map Match.key ≠ some key →
            r'.declareStep options step = r.declareStep options step))
      ∧ (∀ kind,
          (r.declareScript layout.conjunctions options text).get kind
            = (script.steps.filter (·.kind == kind)).map (r.declareStep options)
          ∧ (r'.declareScript layout.conjunctions options text).get kind
            = (script.steps.filter (·.kind == kind)).map (r'.declareStep options))
      ∧ r.assemble layout options filename text
          = fileOfBlocks options filename script (blocks.map (·.map (r.declareStep options)))
      ∧ r'.assemble layout options filename text
          = fileOfBlocks options filename script (blocks.map (·.map (r'.declareStep options))) := by
  intro script blocks
  refine ⟨fun step _ => ⟨r.declares_declareStep options step, r'.declares_declareStep options step,
    map_key_resolve?_of_sameBut h step.text, declareStep_eq_of_ne h options⟩, fun kind => ⟨?_, ?_⟩,
    r.assemble_eq_fileOfBlocks layout options filename text,
    r'.assemble_eq_fileOfBlocks layout options filename text⟩
  · exact r.get_declareScript layout.conjunctions options text kind
  · exact r'.get_declareScript layout.conjunctions options text kind

end

/-- With one pattern, a sentence in which it occurs gets the body of its generator. -/
theorem body_put_empty (entry : Entry) (options : Options) {sentence : String}
    (htrim : Text.trimmed sentence = sentence) (h : entry.regex.occursIn sentence = true) :
    ∃ captures, (empty.put entry).body options sentence
      = ⟨Body.ofOutcome entry.key sentence (entry.pattern.generator.run options captures).1,
          some entry⟩ := by
  have hfound : (empty.put entry).entries.find? (·.regex.occursIn sentence) = some entry := by
    rw [entries_put_empty, List.find?_cons, h]
  obtain ⟨captures, -, hbody⟩ := body_of_find?_eq_some (empty.put entry) options htrim hfound
  exact ⟨captures, hbody⟩

/-- A pattern for a sentence of one word. -/
def explode : StepPattern :=
  { source := "explode", kind := .action, generator := fun _ => pure (.body "boom();") }

/-- If a generator breaks down, its own step throws. The other step of the script has the
declaration that it has otherwise. -/
theorem broken_generator_spares_other_steps :
    let text := "Given explode\nThen stay\n"
    let spoilt := ScriptStep.bare .given .given "explode" 1
    let spared := ScriptStep.bare .then .then "stay" 2
    (Script.extract .inherit text).steps = [spoilt, spared]
      ∧ ∃ r r' : Registry, r.SameBut "explode" r' ∧ ∀ options : Options,
        let format := Declaration.format options.output .given "explode"
        r.declareStep options spoilt = format "boom();"
          ∧ r'.declareStep options spoilt = format (Body.failed "explode" "explode" "panic")
          ∧ r'.declareStep options spared = r.declareStep options spared := by
  intro text spoilt spared
  have hsteps : (Script.extract .inherit text).steps = [spoilt, spared] := by
    rw [Script.extract_eq_onePass]
    decide
  have hfits : explode.Fits (Phrase.words "explode") :=
    StepPattern.fits_of_checkFits (by decide)
  obtain ⟨entry, -, hkey, hpattern, hregex⟩ := hfits.exists_check "explode"
  let broken := entry.withGenerator fun _ => pure (.broken none)
  have hsame : (empty.put entry).SameBut "explode" (empty.put broken) := by
    rw [SameBut, (put_of_not_mem List.not_mem_nil).1, (put_of_not_mem List.not_mem_nil).1, ← hkey]
    exact .cons (entry.sameBut_withGenerator _) .nil
  -- The pattern occurs in the first sentence, and not in the second one.
  have htrim : Text.trimmed "explode" = "explode" := by decide
  have hoccurs : entry.regex.occursIn "explode" = true := by
    rw [hregex]
    decide +kernel
  have hne : ((empty.put entry).resolve? "stay").map Match.key ≠ some "explode" := by
    have hentries : (empty.put entry).entries = [entry] := (put_of_not_mem List.not_mem_nil).1
    rw [map_key_resolve?, hentries, List.map_singleton, hkey, hregex]
    decide +kernel
  refine ⟨hsteps, empty.put entry, empty.put broken, hsame, fun options => ⟨?_, ?_, ?_⟩⟩
  · obtain ⟨captures, hbody⟩ := body_put_empty entry options htrim hoccurs
    have hcode : Body.ofOutcome "explode" "explode" (.body "boom();") = "boom();" := by
      decide
    rw [hkey, hpattern] at hbody
    show Declaration.format _ _ _ (_ ++ ((empty.put entry).body options "explode").text) = _
    rw [hbody]
    exact congrArg (Declaration.format options.output .given "explode") hcode
  · obtain ⟨captures, hbody⟩ := body_put_empty broken options htrim hoccurs
    have hbrokenkey : broken.key = "explode" := hkey
    rw [hbrokenkey] at hbody
    show Declaration.format _ _ _ (_ ++ ((empty.put broken).body options "explode").text) = _
    rw [hbody]
    rfl
  · have hmem : spared ∈ (Script.extract .inherit text).steps := by
      rw [hsteps]
      exact List.mem_cons_of_mem _ List.mem_cons_self
    exact ((generator_contained hsame {} options "a.feature" text).1 spared hmem).2.2.2 hne

end Registry

end ScenarioSteps
