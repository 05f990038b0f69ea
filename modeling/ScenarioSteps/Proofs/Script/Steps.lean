import Mathlib.Data.List.Basic
import ScenarioSteps.Proofs.Script.Outside

/-!
# `ScenarioSteps.Proofs.Script.Steps`: exactly the step lines become steps

`steps_extract` says which steps `Script.extract` finds: one for each line
that stands outside of closed doc strings and reads as a step, in the
order of the script, and none besides. It holds for both policies and for
scripts with unclosed fences, behind which the scan reads lines again.

What identifies a step is its `trace`: the number of its line, its
keyword, its sentence and the line itself. Passing a line adds the trace
of that line if it is a step and keeps the others (`traces_pass`), since
rows only edit what is attached to the latest step. The doc strings do not
matter to traces, so a fold over the lines outside of them is enough.
-/

set_option autoImplicit false

namespace ScenarioSteps

/-- What a step takes from its line alone: number, keyword, sentence, and the
trimmed line. -/
def ScriptStep.trace (step : ScriptStep) : Nat × Keyword × String × String :=
  (step.line, step.keyword, step.text, step.written)

/-- What a step on a line takes from it, if the line is one. -/
def stepTrace? (line : NumberedLine) : Option (Nat × Keyword × String × String) :=
  (stepLine? line.1).map fun (keyword, sentence) =>
    (line.2, keyword, String.ofList sentence, String.ofList (Text.trim line.1))

namespace Scan

/-- The traces of the steps so far, in the order of the script. -/
def traces (s : Scan) : List (Nat × Keyword × String × String) :=
  (s.steps.map ScriptStep.trace).reverse

/-! ### What passing a line does to the traces -/

/-- A row adds no trace. -/
theorem traces_row (s : Scan) (cells : List (List Char)) : (s.row cells).traces = s.traces :=
  congrArg List.reverse (map_steps_row ScriptStep.trace (fun _ _ => rfl) s cells)

/-- Nor does a header. -/
theorem traces_header (s : Scan) (header : Header) (title : List Char) :
    (s.header header title).traces = s.traces := by
  cases header <;> rfl

/-- A line adds its own trace. -/
theorem traces_pass (policy : ConjunctionPolicy) (s : Scan) (line : NumberedLine) :
    (s.pass policy line).traces = s.traces ++ (stepTrace? line).toList := by
  have hnone (hclass : ∀ keyword sentence, ScriptLine.of line.1 ≠ .step keyword sentence) :
      stepTrace? line = none := by
    rw [stepTrace?, Option.map_eq_none_iff]
    exact ScriptLine.stepLine?_eq_none hclass
  cases hline : ScriptLine.of line.1 with
  | silent => simp [pass, Scan.line, hline, hnone]
  | fence f mediaType => simp [pass, Scan.line, hline, hnone]
  | row cells => simp [pass, Scan.line, hline, hnone, traces_row]
  | header word title => simp [pass, Scan.line, hline, hnone, traces_header]
  | prose => simp [pass, Scan.line, hline, hnone, traces]
  | step keyword sentence =>
      -- Steps are kept with the latest first, traces in the order of the script.
      have hread := ScriptLine.of_eq_step_iff.mp hline
      simp [pass, Scan.line, hline, stepTrace?, hread, traces, step, ScriptStep.trace]

/-- Lines add their traces one after the other. -/
theorem traces_foldl_pass (policy : ConjunctionPolicy) (lines : List NumberedLine) :
    ∀ s : Scan, (lines.foldl (pass policy) s).traces
      = s.traces ++ lines.filterMap stepTrace? := by
  induction lines with
  | nil => intro s; simp
  | cons line rest ih =>
      intro s
      rw [List.foldl_cons, ih, traces_pass, List.filterMap_cons]
      cases stepTrace? line <;> simp

end Scan

namespace Script

variable (policy : ConjunctionPolicy) (text : String)

/-- The steps of a script leave the traces of its lines outside of closed doc
strings. -/
theorem map_trace_extract :
    (extract policy text).steps.map ScriptStep.trace
      = (outside text).filterMap stepTrace? :=
  calc (extract policy text).steps.map ScriptStep.trace
      = (extract policy text).withoutDocs.steps.map ScriptStep.trace := by
        simp only [withoutDocs, List.map_map]
        rfl
    _ = ((outside text).foldl (Scan.pass policy) {}).traces := by
        rw [withoutDocs_extract, Scan.script, List.map_reverse]
        rfl
    _ = (outside text).filterMap stepTrace? := Scan.traces_foldl_pass policy _ {}

variable {text} in
/-- A step line outside of closed doc strings leaves a step. -/
theorem exists_step_of_mem_outside {line : NumberedLine} {keyword : Keyword}
    {sentence : List Char} (hline : line ∈ outside text)
    (hstep : stepLine? line.1 = some (keyword, sentence)) :
    ∃ step ∈ (extract policy text).steps, step.line = line.2 ∧ step.keyword = keyword
      ∧ step.text = String.ofList sentence := by
  have htrace : (line.2, keyword, String.ofList sentence, String.ofList (Text.trim line.1))
      ∈ (extract policy text).steps.map ScriptStep.trace := by
    rw [map_trace_extract, List.mem_filterMap]
    exact ⟨line, hline, by rw [stepTrace?, hstep]; rfl⟩
  obtain ⟨step, hmem, heq⟩ := List.mem_map.mp htrace
  simp only [ScriptStep.trace, Prod.mk.injEq] at heq
  exact ⟨step, hmem, heq.1, heq.2.1, heq.2.2.1⟩

/-- A step is written as a line that reads as it. -/
theorem stepLine?_written_of_mem {step : ScriptStep}
    (hstep : step ∈ (extract policy text).steps) :
    stepLine? step.written.toList = some (step.keyword, step.text.toList) := by
  have hmem := List.mem_map_of_mem (f := ScriptStep.trace) hstep
  rw [map_trace_extract, List.mem_filterMap] at hmem
  obtain ⟨line, -, htrace⟩ := hmem
  obtain ⟨read, hread, heq⟩ := Option.map_eq_some_iff.mp htrace
  simp only [ScriptStep.trace, Prod.mk.injEq] at heq
  obtain ⟨-, hkeyword, htext, hwritten⟩ := heq
  rw [← hkeyword, ← htext, ← hwritten, String.toList_ofList, String.toList_ofList, ← hread]
  simp only [stepLine?, Text.trim_trim]

/-- Each step stands on a later line than the one before. -/
theorem pairwise_line_extract : (extract policy text).steps.Pairwise (·.line < ·.line) := by
  -- A trace keeps the number of its line, and these increase.
  have hpairs : ((outside text).filterMap stepTrace?).Pairwise (·.1 < ·.1) := by
    refine (pairwise_outside text).filterMap _ ?_
    intro line later hlt trace htrace trace' htrace'
    obtain ⟨_, -, rfl⟩ := Option.map_eq_some_iff.mp htrace
    obtain ⟨_, -, rfl⟩ := Option.map_eq_some_iff.mp htrace'
    exact hlt
  rw [← map_trace_extract policy, List.pairwise_map] at hpairs
  exact hpairs

/-- The steps of a script are its step lines outside of closed doc strings, in
their order. Each is written as its trimmed line, which reads as the same step,
and no two stand on one line. -/
theorem steps_extract :
    (extract policy text).steps.map ScriptStep.trace = (outside text).filterMap stepTrace?
      ∧ (∀ step ∈ (extract policy text).steps,
          stepLine? step.written.toList = some (step.keyword, step.text.toList))
      ∧ (extract policy text).steps.Pairwise (·.line < ·.line) :=
  ⟨map_trace_extract policy text, fun _ hstep => stepLine?_written_of_mem policy text hstep,
    pairwise_line_extract policy text⟩

end Script

end ScenarioSteps
