import ScenarioSteps.Proofs.Script.OnePass

/-!
# `ScenarioSteps.Proofs.Script.Outside`: a scan passes the lines outside

Doc strings only ever end up as doc strings of steps. All else that a scan
knows comes from the lines outside of closed doc strings, one after the
other. `withoutDocs_extract` says so: up to doc strings, the steps and all
other results are those of a fold of `Scan.pass` over `Script.outside`.

Facts about steps that do not speak of doc strings follow from it by
induction over a list of lines. Fences and going back no longer occur in
them.
-/

set_option autoImplicit false

namespace ScenarioSteps

/-- A step without its doc string. -/
def ScriptStep.withoutDoc (step : ScriptStep) : ScriptStep :=
  { step with docString? := none }

namespace Scan

/-- A scan without the doc strings of its steps. -/
def withoutDocs (s : Scan) : Scan :=
  { s with steps := s.steps.map ScriptStep.withoutDoc }

/-- Passes a line outside of doc strings. -/
def pass (policy : ConjunctionPolicy) (s : Scan) (line : NumberedLine) : Scan :=
  s.line policy line.1 line.2

variable {policy : ConjunctionPolicy}

/-- A doc string leaves no other trace. -/
theorem withoutDocs_docString (s : Scan) (doc : DocString) :
    (s.docString doc).withoutDocs = s.withoutDocs := by
  unfold docString
  split
  · unfold editLatest
    split
    · rfl
    · rename_i latest earlier hsteps
      simp [withoutDocs, hsteps, ScriptStep.withoutDoc]
  · rfl

/-- A row is at most attached to the latest step, as a row of its table. -/
theorem map_steps_row {α : Type} (f : ScriptStep → α)
    (hf : ∀ (step : ScriptStep) (table? : Option Table), f { step with table? } = f step)
    (s : Scan) (cells : List (List Char)) : (s.row cells).steps.map f = s.steps.map f := by
  unfold row
  split
  · rfl
  · split
    · cases hsteps : s.steps <;> simp [editLatest, hsteps, hf]
    · rfl

/-- A row does not look at doc strings. -/
theorem withoutDocs_row (s : Scan) (cells : List (List Char)) :
    (s.row cells).withoutDocs = s.withoutDocs.row cells := by
  unfold row
  show _ = if s.inExamples then _ else if s.attaching then _ else _
  split
  · rfl
  · split
    · cases hsteps : s.steps <;> simp [editLatest, withoutDocs, hsteps, ScriptStep.withoutDoc]
    · rfl

/-- No line looks at doc strings. -/
theorem withoutDocs_pass (s : Scan) (line : NumberedLine) :
    (s.pass policy line).withoutDocs = s.withoutDocs.pass policy line := by
  cases hline : ScriptLine.of line.1 with
  | silent => simp [pass, Scan.line, hline]
  | fence f mediaType => simp [pass, Scan.line, hline]
  | row cells => simp [pass, Scan.line, hline, withoutDocs_row]
  | header word title =>
      simp only [pass, Scan.line, hline]
      cases word <;> rfl
  | step keyword sentence =>
      simp only [pass, Scan.line, hline]
      rfl
  | prose => simp [pass, Scan.line, hline, withoutDocs]

/-- A line that begins with a fence says nothing outside of doc strings. -/
theorem pass_of_fence (s : Scan) (line : NumberedLine) {doc : OpenDoc}
    (h : OpenDoc.of? line.1 = some doc) : s.pass policy line = s := by
  unfold OpenDoc.of? at h
  split at h
  · rename_i hline
    rw [pass, Scan.line, hline]
  · contradiction

/-- Doc strings aside, a scan passes the lines outside of them. -/
theorem withoutDocs_onePass (policy : ConjunctionPolicy) (lines : List (List Char)) :
    ∀ (s : Scan) (doc? : Option OpenDoc) (first : Nat),
      (onePass policy s doc? (lines.zipIdx first)).withoutDocs
        = (Script.outsideFrom (doc?.map OpenDoc.fence) first lines).foldl (pass policy)
            s.withoutDocs := by
  induction lines with
  | nil =>
      intro s doc? first
      rw [Script.outsideFrom_nil, List.zipIdx_nil, onePass, List.foldl_nil]
  | cons line rest ih =>
      intro s doc? first
      rw [List.zipIdx_cons]
      cases doc? with
      | some doc =>
          rw [onePass, Option.map_some, Script.outsideFrom_inside_cons]
          cases doc.fence.closedBy line with
          | true =>
              simpa [withoutDocs_docString] using ih (s.docString doc.close) none (first + 1)
          | false => simpa using ih s (some (doc.add line)) (first + 1)
      | none =>
          rw [onePass, Option.map_none, Script.outsideFrom_none_cons,
            ← OpenDoc.map_fence_of? line]
          cases hdoc : OpenDoc.of? line with
          | none =>
              simp only [Option.map_none, List.foldl_cons, ← withoutDocs_pass]
              exact ih (s.pass policy (line, first)) none (first + 1)
          | some doc =>
              simp only [Option.map_some, Fence.any_closedBy_zipIdx]
              cases rest.any doc.fence.closedBy with
              | true => exact ih s (some doc) (first + 1)
              | false =>
                  -- A stray fence is outside too, and is passed without effect.
                  simp only [Bool.false_eq_true, if_false, List.foldl_cons]
                  rw [pass_of_fence _ (line, first) hdoc]
                  exact ih s none (first + 1)

end Scan

namespace Script

/-- A script without the doc strings of its steps. -/
def withoutDocs (script : Script) : Script :=
  { script with steps := script.steps.map ScriptStep.withoutDoc }

/-- Doc strings can be left out before or behind the end of a scan. -/
theorem withoutDocs_script (s : Scan) : s.script.withoutDocs = s.withoutDocs.script := by
  simp [Scan.script, Scan.withoutDocs, withoutDocs, List.map_reverse]

/-- Doc strings aside, a script is what its lines outside of them say. -/
theorem withoutDocs_extract (policy : ConjunctionPolicy) (text : String) :
    (extract policy text).withoutDocs
      = ((outside text).foldl (Scan.pass policy) {}).script := by
  rw [extract_eq_onePass, withoutDocs_script]
  exact congrArg Scan.script (Scan.withoutDocs_onePass policy _ {} none 1)

end Script

end ScenarioSteps
