import ScenarioSteps.Proofs.Script.Heading
import ScenarioSteps.Proofs.Text.Lines

/-!
# `ScenarioSteps.Proofs.Script.Append`: one script behind another

`Script.extract_append` says what two scripts yield together: the feature of the first, the
steps of both and the example rows of both, in this order, where the steps of the second
stand further down by the lines of the first. The conditions are in `Script.Apart`.

A scan that goes on with the second script is compared with one that begins with it.

* `Scan.header_eq_behind`: the header of a scenario or background leaves nothing of what was
  before but what has been extracted. From there on, the two scans differ by that alone
  (`Scan.behind`).
* `Scan.behind_pass`: a line keeps them so, unless it is the header of a feature. The scan
  that began at the second script must have a step of its own before it attaches anything
  (`Scan.Anchored`), or the other one would attach it to a step of the first.
* `Scan.onePass_behind`: so the whole second script does, unclosed fences included.
* `Scan.onePass_append`: the first script is scanned as on its own, since what stands behind
  it cannot close a doc string that is closed already.
-/

set_option autoImplicit false

namespace ScenarioSteps

namespace Script

/-- Lines of which none is the header of a feature. -/
def Featureless (lines : List NumberedLine) : Prop :=
  ∀ line ∈ lines, (headerLine? line.1).map Prod.fst ≠ some .feature

instance (lines : List NumberedLine) : Decidable (Featureless lines) :=
  inferInstanceAs (Decidable (∀ line ∈ lines, (headerLine? line.1).map Prod.fst ≠ some .feature))

/-- Lines are without a feature header if the first one is and the others are. -/
theorem featureless_cons {line : NumberedLine} {rest : List NumberedLine} :
    Featureless (line :: rest)
      ↔ (headerLine? line.1).map Prod.fst ≠ some .feature ∧ Featureless rest :=
  List.forall_mem_cons

end Script

/-- A step that stands so many lines further down. -/
def ScriptStep.moved (n : Nat) (step : ScriptStep) : ScriptStep :=
  { step with line := step.line + n }

namespace Scan

variable {policy : ConjunctionPolicy}

/-- A scan behind another one that has read `n` lines: what was extracted before comes
first, and all else is as if nothing had been before. -/
def behind (s earlier : Scan) (n : Nat) : Scan :=
  { s with
    feature? := earlier.feature?
    steps := s.steps.map (·.moved n) ++ earlier.steps
    exampleRows := s.exampleRows ++ earlier.exampleRows }

/-- If a scan attaches, it has a step to attach to. -/
def Anchored (s : Scan) : Prop :=
  s.attaching = true → s.steps ≠ []

/-! ### Scans keep to their own steps -/

/-- To edit the latest step leaves a scan a step to attach to. -/
theorem anchored_editLatest {s : Scan} (h : s.Anchored) (edit : ScriptStep → ScriptStep) :
    (s.editLatest edit).Anchored := by
  unfold editLatest
  cases hsteps : s.steps with
  | nil => exact h
  | cons latest earlier => exact fun _ => List.cons_ne_nil _ _

/-- So does a doc string. -/
theorem anchored_docString {s : Scan} (h : s.Anchored) (doc : DocString) :
    (s.docString doc).Anchored := by
  unfold docString
  split
  · exact anchored_editLatest h _
  · exact h

/-- Nothing is attached right below a header. -/
theorem anchored_header (s : Scan) (word : Header) (title : List Char) :
    (s.header word title).Anchored := by
  cases word <;> exact fun hattaching => absurd hattaching Bool.false_ne_true

/-- So does any line that is passed. -/
theorem anchored_pass {s : Scan} (h : s.Anchored) (line : NumberedLine) :
    (s.pass policy line).Anchored := by
  unfold pass Scan.line
  cases ScriptLine.of line.1 with
  | silent | fence _ _ => exact h
  | row cells =>
      show (s.row cells).Anchored
      unfold row
      repeat' split
      · exact h
      · exact anchored_editLatest h _
      · exact h
  | header word title => exact anchored_header s word title
  | step keyword sentence => exact fun _ => List.cons_ne_nil _ _
  | prose => exact fun hattaching => absurd hattaching Bool.false_ne_true

/-! ### What earlier lines do not change -/

section

variable (earlier : Scan) (n : Nat)

/-- What two scans have extracted together. -/
theorem script_behind (s : Scan) :
    (s.behind earlier n).script
      = { feature? := earlier.script.feature?
          steps := earlier.script.steps ++ s.script.steps.map (·.moved n)
          exampleRows := earlier.script.exampleRows ++ s.script.exampleRows } := by
  simp only [script, behind, List.reverse_append, List.map_reverse]

/-- An edit that does not look at line numbers reaches the same step. -/
theorem behind_editLatest {s : Scan} (hsteps : s.steps ≠ []) {edit : ScriptStep → ScriptStep}
    (hedit : ∀ step, (edit step).moved n = edit (step.moved n)) :
    (s.editLatest edit).behind earlier n = (s.behind earlier n).editLatest edit := by
  obtain ⟨latest, before, hs⟩ := List.exists_cons_of_ne_nil hsteps
  simp only [editLatest, behind, hs, List.map_cons, List.cons_append, hedit]

/-- A row does the same behind what was extracted earlier, if the scan has a step of its own.
-/
theorem behind_row {s : Scan} (h : s.Anchored) (cells : List (List Char)) :
    (s.row cells).behind earlier n = (s.behind earlier n).row cells := by
  unfold row
  show _ = if s.inExamples then _ else if s.attaching then _ else _
  by_cases hexamples : s.inExamples = true
  · simp only [if_pos hexamples]
    rfl
  · by_cases hattaching : s.attaching = true
    · -- The latest step is one of the further lines, so earlier steps stay as they are.
      simp only [if_neg hexamples, if_pos hattaching]
      exact behind_editLatest earlier n (h hattaching) fun _ => rfl
    · simp only [if_neg hexamples, if_neg hattaching]

/-- So does a doc string. -/
theorem behind_docString {s : Scan} (h : s.Anchored) (doc : DocString) :
    (s.docString doc).behind earlier n = (s.behind earlier n).docString doc := by
  unfold docString
  show _ = if s.attaching && !s.inExamples then _ else _
  cases hattaching : s.attaching with
  | true =>
      cases s.inExamples with
      | true => rfl
      | false => exact behind_editLatest earlier n (h hattaching) fun _ => rfl
  | false => rfl

/-- A line is passed alike, unless it is the header of a feature. -/
theorem behind_pass {s : Scan} (h : s.Anchored) {line : List Char} {number : Nat}
    (hfeature : (headerLine? line).map Prod.fst ≠ some .feature) :
    (s.pass policy (line, number)).behind earlier n
      = (s.behind earlier n).pass policy (line, number + n) := by
  unfold pass Scan.line
  cases hline : ScriptLine.of line with
  | silent | fence _ _ | prose => rfl
  | row cells => exact behind_row earlier n h cells
  | step keyword sentence => rfl
  | header word title =>
      have hword : word ≠ .feature := by
        rintro rfl
        exact hfeature (congrArg (Option.map Prod.fst) (ScriptLine.of_eq_header_iff.mp hline))
      cases word with
      | feature => contradiction
      | rule | background | scenarioOutline | scenarioTemplate | scenario | examples | single
        | scenarios => rfl

/-- Where a scenario or background begins, what a scan has extracted is all that is left of
the lines before. -/
theorem header_eq_behind {word : Header} (hword : word.opensScenario = true) (title : List Char) :
    earlier.header word title = (({} : Scan).header word title).behind earlier n := by
  cases word with
  | feature | rule | examples | scenarios => cases hword
  | background | scenarioOutline | scenarioTemplate | scenario | single => rfl

/-- Earlier lines do not change what is extracted from further lines, as long as these do not
name a feature. -/
theorem onePass_behind (lines : List (List Char)) :
    ∀ (s : Scan) (doc? : Option OpenDoc) (first : Nat), s.Anchored →
      Script.Featureless (Script.outsideFrom (doc?.map OpenDoc.fence) first lines) →
      (onePass policy s doc? (lines.zipIdx first)).behind earlier n
        = onePass policy (s.behind earlier n) doc? (lines.zipIdx (first + n)) := by
  -- Both scans stand in the same doc string, since they open and close it at the same lines.
  induction lines with
  | nil => exact fun _ _ _ _ _ => rfl
  | cons line rest ih =>
      intro s doc? first hs hfeature
      rw [List.zipIdx_cons, List.zipIdx_cons, Nat.add_right_comm]
      cases doc? with
      | some doc =>
          rw [Option.map_some, Script.outsideFrom_inside_cons] at hfeature
          rw [onePass, onePass]
          cases hclosed : doc.fence.closedBy line with
          | true =>
              rw [hclosed] at hfeature
              rw [if_pos rfl, if_pos rfl, ← behind_docString earlier n hs]
              exact ih _ none (first + 1) (anchored_docString hs doc.close) hfeature
          | false =>
              rw [hclosed] at hfeature
              exact ih s (some (doc.add line)) (first + 1) hs hfeature
      | none =>
          rw [Option.map_none, Script.outsideFrom_none_cons,
            ← OpenDoc.map_fence_of? line] at hfeature
          rw [onePass, onePass]
          cases hdoc : OpenDoc.of? line with
          | none =>
              rw [hdoc, Option.map_none, Script.featureless_cons] at hfeature
              have hpass : (s.pass policy (line, first)).behind earlier n
                  = (s.behind earlier n).pass policy (line, first + n) :=
                behind_pass earlier n hs hfeature.1
              show _ = onePass policy ((s.behind earlier n).pass policy (line, first + n)) none _
              rw [← hpass]
              exact ih _ none (first + 1) (anchored_pass hs (line, first)) hfeature.2
          | some doc =>
              simp only [hdoc, Option.map_some] at hfeature
              simp only [Fence.any_closedBy_zipIdx]
              cases hclosed : rest.any doc.fence.closedBy with
              | true =>
                  rw [hclosed] at hfeature
                  exact ih s (some doc) (first + 1) hs hfeature
              | false =>
                  -- The fence is stray in both scans, as nothing stands behind the further lines.
                  rw [hclosed, if_neg Bool.false_ne_true, Script.featureless_cons] at hfeature
                  exact ih s none (first + 1) hs hfeature.2

end

/-- If no fence among lines is stray, they are scanned in the same way whatever lines stand
behind them. -/
theorem onePass_append (lines : List (List Char)) (rest : List NumberedLine) :
    ∀ (s : Scan) (doc? : Option OpenDoc) (first : Nat),
      (∀ m ∈ Script.marked (doc?.map OpenDoc.fence) lines, m.1 ≠ .stray) →
      (∀ doc ∈ doc?, lines.any doc.fence.closedBy = true) →
      onePass policy s doc? (lines.zipIdx first ++ rest)
        = onePass policy (onePass policy s doc? (lines.zipIdx first)) none rest := by
  -- A doc string around the first line is closed among the lines, so none is open behind them.
  induction lines with
  | nil =>
      intro s doc? first _ hclosed
      cases doc? with
      | none => rfl
      | some doc => exact absurd (hclosed doc rfl) Bool.false_ne_true
  | cons line lines ih =>
      intro s doc? first hstray hclosed
      rw [List.zipIdx_cons, List.cons_append]
      cases doc? with
      | some doc =>
          rw [Option.map_some, Script.marked, List.forall_mem_cons] at hstray
          have hlater := hclosed doc rfl
          rw [List.any_cons] at hlater
          rw [onePass, onePass]
          cases hline : doc.fence.closedBy line with
          | true =>
              rw [hline] at hstray
              exact ih _ none (first + 1) hstray.2 (by simp)
          | false =>
              rw [hline] at hstray
              rw [hline, Bool.false_or] at hlater
              refine ih s (some (doc.add line)) (first + 1) hstray.2 ?_
              rintro _ ⟨⟩
              exact hlater
      | none =>
          rw [Option.map_none, Script.marked, ← OpenDoc.map_fence_of? line] at hstray
          rw [onePass, onePass]
          cases hdoc : OpenDoc.of? line with
          | none =>
              rw [hdoc, Option.map_none, List.forall_mem_cons] at hstray
              exact ih _ none (first + 1) hstray.2 (by simp)
          | some doc =>
              simp only [hdoc, Option.map_some] at hstray
              simp only [List.any_append, Fence.any_closedBy_zipIdx]
              cases hlater : lines.any doc.fence.closedBy with
              | true =>
                  -- A fence that is closed already stays so with more lines behind.
                  rw [hlater, if_pos rfl, List.forall_mem_cons] at hstray
                  refine ih s (some doc) (first + 1) hstray.2 ?_
                  rintro _ ⟨⟩
                  exact hlater
              | false =>
                  rw [hlater, if_neg Bool.false_ne_true, List.forall_mem_cons] at hstray
                  exact absurd rfl hstray.1

end Scan

namespace Script

/-- Two scripts of which the second one can stand behind the first and is read as on its
own. -/
structure Apart (a b : String) : Prop where
  /-- The first one is empty or ends with a line feed. -/
  ends : a = "" ∨ a.toList.getLast? = some '\n'
  /-- No fence of it stays open. -/
  closed : ∀ m ∈ marked none (Text.lines a.toList), m.1 ≠ .stray
  /-- The second one begins with a scenario or a background. -/
  opens : ∃ line word title, (Text.lines b.toList).head? = some line
    ∧ headerLine? line = some (word, title) ∧ word.opensScenario = true
  /-- It names no feature outside of its closed doc strings. -/
  featureless : Featureless (outside b)

/-- What two scripts yield together: all that is extracted from the first, and behind it what
is extracted from the second. -/
theorem extract_append {a b : String} (h : Apart a b) (policy : ConjunctionPolicy) :
    extract policy (a ++ b)
      = { feature? := (extract policy a).feature?
          steps := (extract policy a).steps
            ++ (extract policy b).steps.map (·.moved (Text.lines a.toList).length)
          exampleRows := (extract policy a).exampleRows ++ (extract policy b).exampleRows } := by
  obtain ⟨line, word, title, hhead, hheader, hopens⟩ := h.opens
  obtain ⟨rest, hlines⟩ := List.head?_eq_some_iff.mp hhead
  have hclass : ScriptLine.of line = .header word title := ScriptLine.of_eq_header_iff.mpr hheader
  have hfence : OpenDoc.of? line = none := by
    rw [OpenDoc.of?, hclass]
  have hboth : Text.lines (a ++ b).toList = Text.lines a.toList ++ line :: rest := by
    have hends : a.toList = [] ∨ a.toList.getLast? = some '\n' :=
      h.ends.imp_left fun hempty => String.toList_eq_nil_iff.mpr hempty
    rw [String.toList_append, Text.lines_append _ _ hends, hlines]
  -- A scan passes the first line of the second script as a header, whatever was before.
  have hfirst (s : Scan) (number : Nat) :
      Scan.onePass policy s none ((line, number) :: rest.zipIdx (number + 1))
        = Scan.onePass policy (s.header word title) none (rest.zipIdx (number + 1)) := by
    simp only [Scan.onePass, hfence, Scan.line, hclass]
  have hfeature : Featureless (outsideFrom none 2 rest) := by
    have hall := h.featureless
    rw [outside, hlines, outsideFrom_none_cons, ← OpenDoc.map_fence_of?, hfence, Option.map_none,
      featureless_cons] at hall
    exact hall.2
  rw [extract_eq_onePass, extract_eq_onePass, extract_eq_onePass, hboth, hlines,
    List.zipIdx_append, Scan.onePass_append _ _ _ none 1 h.closed (by simp),
    List.zipIdx_cons, List.zipIdx_cons, hfirst, hfirst, Nat.add_right_comm]
  rw [Scan.header_eq_behind _ (Text.lines a.toList).length hopens,
    ← Scan.onePass_behind _ _ rest _ none 2 (Scan.anchored_header {} word title) hfeature,
    Scan.script_behind]

end Script

end ScenarioSteps
