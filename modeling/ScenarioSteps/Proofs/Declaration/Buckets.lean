import ScenarioSteps.Proofs.Declaration.ReadBack
import ScenarioSteps.Declaration.Step

/-!
# `ScenarioSteps.Proofs.Declaration.Buckets`: each step is declared once

The declarations of a script come in three buckets, one for each kind. A bucket holds the
declarations of the steps of its kind, in the order of the script.

* `declareScript_eq_foldl`: the buckets fill up step by step. Each step adds one
  declaration to the bucket of its kind and leaves the others as they are.
* `declareScript_reads_back`: kinds and sentences of the steps can be read off the buckets,
  and there are as many declarations as steps.

No registry is excluded. Whatever a generator writes is in the body of a declaration, and
the reader takes kind and sentence off its first line.
-/

set_option autoImplicit false

namespace ScenarioSteps

namespace Buckets

/-- The declarations of a kind. -/
def get (b : Buckets) : StepKind → List String
  | .given => b.given
  | .when => b.when
  | .then => b.then

/-- Adds a declaration behind those of its kind. -/
def push (b : Buckets) (kind : StepKind) (declaration : String) : Buckets :=
  match kind with
  | .given => { b with given := b.given ++ [declaration] }
  | .when => { b with when := b.when ++ [declaration] }
  | .then => { b with «then» := b.then ++ [declaration] }

/-- No declarations. -/
def empty : Buckets :=
  ⟨[], [], []⟩

/-- Buckets are the same if they hold the same declarations of each kind. -/
theorem ext_get {a b : Buckets} (h : ∀ kind, a.get kind = b.get kind) : a = b := by
  obtain ⟨given, when, «then»⟩ := a
  have hgiven : given = b.given := h .given
  have hwhen : when = b.when := h .when
  have hthen : «then» = b.then := h .then
  rw [hgiven, hwhen, hthen]

/-- A declaration goes to the bucket of its kind and to no other. -/
theorem get_push (b : Buckets) (kind other : StepKind) (declaration : String) :
    (b.push kind declaration).get other
      = b.get other ++ if kind == other then [declaration] else [] := by
  cases kind <;> cases other <;> simp [push, get]

/-- To push a declaration makes the buckets larger by one. -/
theorem size_push (b : Buckets) (kind : StepKind) (declaration : String) :
    (b.push kind declaration).size = b.size + 1 := by
  cases kind <;> simp only [push, size, List.length_append, List.length_singleton] <;> omega

section

variable (declare : ScriptStep → String)

/-- Adds the declaration of a step. -/
def pushStep (b : Buckets) (step : ScriptStep) : Buckets :=
  b.push step.kind (declare step)

/-- Steps add their declarations to the bucket of their kind, in their order. -/
theorem get_foldl_pushStep (kind : StepKind) (steps : List ScriptStep) :
    ∀ b : Buckets, (steps.foldl (pushStep declare) b).get kind
      = b.get kind ++ (steps.filter (·.kind == kind)).map declare := by
  induction steps with
  | nil => intro b; simp
  | cons step rest ih =>
      intro b
      rw [List.foldl_cons, ih, pushStep, get_push, List.append_assoc]
      congr 1
      cases h : step.kind == kind <;> simp [h]

/-- Each step adds one declaration. -/
theorem size_foldl_pushStep (steps : List ScriptStep) :
    ∀ b : Buckets, (steps.foldl (pushStep declare) b).size = b.size + steps.length := by
  induction steps with
  | nil => intro b; rfl
  | cons step rest ih =>
      intro b
      rw [List.foldl_cons, ih, pushStep, size_push, List.length_cons]
      omega

end

end Buckets

namespace Registry

variable (r : Registry) (policy : ConjunctionPolicy) (options : Options) (text : String)

/-- The steps of a script with a kind are declared in the bucket of this kind. -/
theorem get_declareScript (kind : StepKind) :
    (r.declareScript policy options text).get kind
      = ((Script.extract policy text).steps.filter (·.kind == kind)).map
          (r.declareStep options) := by
  cases kind <;> rfl

/-- The buckets fill up step by step. -/
theorem declareScript_eq_foldl :
    r.declareScript policy options text
      = (Script.extract policy text).steps.foldl (Buckets.pushStep (r.declareStep options))
          .empty := by
  refine Buckets.ext_get fun kind => ?_
  rw [get_declareScript, Buckets.get_foldl_pushStep]
  cases kind <;> rfl

/-- A declaration of a step reads as its kind and its sentence. -/
theorem read_declareStep (step : ScriptStep) :
    Declaration.read options.output (r.declareStep options step) = some (step.kind, step.text) :=
  Declaration.read_eq_some options.output step.kind step.text _

/-- The buckets of a script name its steps. Read one after the other, the declarations of
a bucket give kind and sentence of the steps of its kind, in the order of the script. There
is one declaration for each step, pushed to the bucket of its kind. -/
theorem declareScript_reads_back :
    (∀ kind, ((r.declareScript policy options text).get kind).map
          (Declaration.read options.output)
        = ((Script.extract policy text).steps.filter (·.kind == kind)).map
            fun step => some (step.kind, step.text))
      ∧ (r.declareScript policy options text).size = (Script.extract policy text).steps.length
      ∧ r.declareScript policy options text
        = (Script.extract policy text).steps.foldl
            (fun b step => b.push step.kind (r.declareStep options step)) ⟨[], [], []⟩ := by
  have hfold := r.declareScript_eq_foldl policy options text
  refine ⟨fun kind => ?_, ?_, hfold⟩
  · rw [get_declareScript, List.map_map]
    exact List.map_congr_left fun step _ => r.read_declareStep options step
  · rw [hfold, Buckets.size_foldl_pushStep]
    exact Nat.zero_add _

end Registry

end ScenarioSteps
