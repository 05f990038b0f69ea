import ScenarioSteps.File.Assemble
import ScenarioSteps.Proofs.Declaration.Buckets
import ScenarioSteps.Proofs.Script.OnePass

/-!
# `ScenarioSteps.Proofs.File.Grouping`: a file grouped by kind holds the buckets

A script can be declared in two ways. `Registry.declareScript` puts each declaration into
the bucket of its kind, and `Registry.assemble` puts the steps into an order and declares
them one after the other. If it groups by kind, this order is a stable sort of the steps
(`byKind_eq_sortByKind`), and the file holds one bucket behind the other
(`Registry.assemble_groupByKind`).

The sort is reduced to buckets in two steps. Sorting keeps the steps of one kind as they
are (`filter_sortByKind`), and a list that is sorted is made of its steps of each kind
(`byKind_of_sorted`).
-/

set_option autoImplicit false

namespace ScenarioSteps

/-- Whether the kind of a step does not come behind that of another. -/
def ScriptStep.kindLE (s t : ScriptStep) : Bool :=
  decide (s.kind.rank ≤ t.kind.rank)

/-- Sorts steps by their kinds. Steps of one kind stay in their order. -/
def sortByKind (steps : List ScriptStep) : List ScriptStep :=
  steps.mergeSort ScriptStep.kindLE

/-- The order by kind is transitive, as a sort asks of it. -/
theorem ScriptStep.kindLE_trans (s t u : ScriptStep) (hst : s.kindLE t) (htu : t.kindLE u) :
    s.kindLE u := by
  simp only [kindLE, decide_eq_true_eq] at *
  omega

/-- It is total as well, since kinds are compared by their rank. -/
theorem ScriptStep.kindLE_total (s t : ScriptStep) : s.kindLE t || t.kindLE s := by
  simp only [kindLE, Bool.or_eq_true, decide_eq_true_eq]
  omega

/-- Sorting keeps the steps of one kind as they are. -/
theorem filter_sortByKind (kind : StepKind) (steps : List ScriptStep) :
    (sortByKind steps).filter (·.kind == kind) = steps.filter (·.kind == kind) := by
  -- The steps of one kind are sorted, so they come out of a stable sort in their order.
  have hsorted : (steps.filter (·.kind == kind)).Pairwise (ScriptStep.kindLE · ·) := by
    refine List.pairwise_of_forall_mem_list fun s hs t ht => ?_
    have hs := (List.mem_filter.mp hs).2
    have ht := (List.mem_filter.mp ht).2
    rw [beq_iff_eq] at hs ht
    simp [ScriptStep.kindLE, hs, ht]
  have hsub : (steps.filter (·.kind == kind)).Sublist (sortByKind steps) :=
    List.sublist_mergeSort ScriptStep.kindLE_trans ScriptStep.kindLE_total hsorted
      List.filter_sublist
  have hfilter := hsub.filter (·.kind == kind)
  rw [List.filter_filter] at hfilter
  simp only [Bool.and_self] at hfilter
  refine (hfilter.eq_of_length ?_).symm
  exact ((List.mergeSort_perm steps ScriptStep.kindLE).filter _).length_eq.symm

/-- There are no steps of a kind among steps of later kinds. -/
theorem filter_eq_nil_of_rank_lt {kind : StepKind} {steps : List ScriptStep}
    (h : ∀ step ∈ steps, kind.rank < step.kind.rank) : steps.filter (·.kind == kind) = [] := by
  rw [List.filter_eq_nil_iff]
  intro step hstep hkind
  rw [beq_iff_eq] at hkind
  have hlt := h step hstep
  rw [hkind] at hlt
  exact Nat.lt_irrefl _ hlt

/-- Sorted steps are made of their steps of each kind. -/
theorem byKind_of_sorted {steps : List ScriptStep}
    (h : steps.Pairwise (ScriptStep.kindLE · ·)) : byKind steps = steps := by
  have hbyKind (steps : List ScriptStep) : byKind steps
      = steps.filter (·.kind == .given) ++ (steps.filter (·.kind == .when)
        ++ steps.filter (·.kind == .then)) := by
    simp [byKind, StepKind.all]
  induction steps with
  | nil => rfl
  | cons step rest ih =>
      rw [List.pairwise_cons] at h
      obtain ⟨hfirst, hrest⟩ := h
      have ih := ih hrest
      have hbefore (kind : StepKind) (hkind : kind.rank < step.kind.rank) :
          rest.filter (·.kind == kind) = [] := by
        refine filter_eq_nil_of_rank_lt fun later hlater => Nat.lt_of_lt_of_le hkind ?_
        simpa [ScriptStep.kindLE] using hfirst later hlater
      rw [hbyKind] at ih ⊢
      -- Kinds before that of the first step have no steps.
      cases hcase : step.kind with
      | given => simpa [hcase] using ih
      | when =>
          have hgiven := hbefore .given (by rw [hcase]; decide)
          rw [hgiven] at ih
          simpa [hcase, hgiven] using ih
      | «then» =>
          have hgiven := hbefore .given (by rw [hcase]; decide)
          have hwhen := hbefore .when (by rw [hcase]; decide)
          rw [hgiven, hwhen] at ih
          simpa [hcase, hgiven, hwhen] using ih

/-- Grouping by kind is a stable sort by kind. -/
theorem byKind_eq_sortByKind (steps : List ScriptStep) : byKind steps = sortByKind steps := by
  have hsorted : byKind (sortByKind steps) = sortByKind steps :=
    byKind_of_sorted (List.pairwise_mergeSort ScriptStep.kindLE_trans ScriptStep.kindLE_total steps)
  rw [← hsorted, byKind, byKind]
  exact List.flatMap_congr fun kind _ => (filter_sortByKind kind steps).symm

namespace Registry

variable (r : Registry) (policy : ConjunctionPolicy) (options : Options)

/-- The buckets of a script, one behind the other, are the declarations of its steps in the
order of their kinds. -/
theorem declareScript_append (text : String) :
    let buckets := r.declareScript policy options text
    buckets.given ++ buckets.when ++ buckets.then
      = (byKind (Script.extract policy text).steps).map (r.declareStep options) := by
  simp [declareScript, byKind, StepKind.all]

/-- A file that is grouped by kind, for a target without blocks. Behind its header stand
the declarations of all `Given`, then of all `When`, then of all `Then`, as the script has
them in its buckets. This is the order of a stable sort of the steps by kind. -/
theorem assemble_groupByKind (filename text : String) (houtput : options.output ≠ .playwrightBdd) :
    let script := Script.extract policy text
    let buckets := r.declareScript policy options text
    let declarations := buckets.given ++ buckets.when ++ buckets.then
    r.assemble { groupByKind := true, deduplicate := false, conjunctions := policy } options
        filename text
        = fileHeader filename script.feature? options
          ++ String.join (declarations.map fun declaration => "\n" ++ declaration ++ "\n")
      ∧ declarations = (sortByKind script.steps).map (r.declareStep options) := by
  intro script buckets declarations
  have hdeclarations : declarations = (byKind script.steps).map (r.declareStep options) :=
    r.declareScript_append policy options text
  refine ⟨?_, ?_⟩
  · rw [hdeclarations, List.map_map, assemble]
    cases hcase : options.output with
    | playwrightBdd => exact absurd hcase houtput
    | cucumber | generic => rfl
  · rw [hdeclarations, byKind_eq_sortByKind]

/-- A script that begins with a `Then`. Its steps are sorted, and the two `Given` stay in
their order. -/
theorem assemble_groupByKind_of_cucumber :
    let options : Options := ⟨.cucumber, .playwright⟩
    let text := "Feature: f\nThen c\nGiven b\nWhen d\nGiven a\n"
    let script := Script.extract .inherit text
    let buckets := Registry.empty.declareScript .inherit options text
    let declarations := buckets.given ++ buckets.when ++ buckets.then
    options.output ≠ .playwrightBdd
      ∧ (sortByKind script.steps).map (·.line) = [3, 5, 4, 2]
      ∧ declarations = (sortByKind script.steps).map (Registry.empty.declareStep options)
      ∧ Registry.empty.assemble { groupByKind := true } options "f.feature" text
        = fileHeader "f.feature" script.feature? options
          ++ String.join (declarations.map fun declaration => "\n" ++ declaration ++ "\n") := by
  intro options text script buckets declarations
  have houtput : options.output ≠ .playwrightBdd := by decide
  obtain ⟨hfile, hsorted⟩ :=
    assemble_groupByKind .empty .inherit options "f.feature" text houtput
  refine ⟨houtput, ?_, hsorted, hfile⟩
  rw [← byKind_eq_sortByKind]
  simp only [script, Script.extract_eq_onePass]
  decide

end Registry

end ScenarioSteps
