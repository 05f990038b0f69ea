import ScenarioSteps.Proofs.Script.Parts

/-!
# `ScenarioSteps.Proofs.Script.Attachment`: where rows and doc strings go

The *window* of a step holds the parts behind its line, up to the next line that is a
step, a header or prose. Rows and doc strings in the window of a step are attached to it.
Rows under an examples header are example data, up to the next step or header that is
neither an examples header nor a `Feature`. All others are dropped.

A scan keeps this in two flags, `attaching` and `inExamples`. They are never set both
(`Scan.OneSided`), so a row has one place to go.

* `arguments_extract`: the table and the doc string of each step, the example rows, and
  that nothing else depends on rows and doc strings.
* `Scan.arguments_foldl_passPart`: the run that attaches. A scan in front of a list of parts
  owes its latest step what comes before the first part that ends the window.
-/

set_option autoImplicit false

namespace ScenarioSteps

namespace ScriptLine

/-- Whether a line ends the window of the step before it. -/
def endsWindow : ScriptLine → Bool
  | .header .. | .step .. | .prose => true
  | .silent | .fence .. | .row .. => false

/-- Whether the rows behind a line are example data, if the line has a say in it. -/
def opensExamples? : ScriptLine → Option Bool
  | .header .examples _ | .header .scenarios _ => some true
  | .header .feature _ => none
  | .header .. | .step .. => some false
  | .silent | .fence .. | .row .. | .prose => none

/-- Whether a line is a step or a header. -/
def isFrame : ScriptLine → Bool
  | .header .. | .step .. => true
  | .silent | .fence .. | .row .. | .prose => false

end ScriptLine

namespace Script

/-- The cells of a line that is a row. -/
def cells? (line : NumberedLine) : Option (List String) :=
  (row? (Text.trim line.1)).map fun cells => cells.map String.ofList

/-- A row has cells. -/
theorem cells?_of_row {line : NumberedLine} {cells : List (List Char)}
    (h : ScriptLine.of line.1 = .row cells) : cells? line = some (cells.map String.ofList) := by
  rw [cells?, ScriptLine.of_eq_row_iff.mp h, Option.map_some]

/-- No other line has any. -/
theorem cells?_eq_none {line : NumberedLine} (h : ∀ cells, ScriptLine.of line.1 ≠ .row cells) :
    cells? line = none := by
  rw [cells?, ScriptLine.row?_eq_none h, Option.map_none]

end Script

namespace Part

/-- Whether a part ends the window of the step before it. -/
def endsWindow (part : Part) : Bool :=
  part.line?.any fun line => (ScriptLine.of line.1).endsWindow

/-- The cells of the row that a part is. -/
def cells? (part : Part) : Option (List String) :=
  part.line?.bind Script.cells?

/-- Whether a part is the line with a number. -/
def isLine (number : Nat) (part : Part) : Bool :=
  part.line?.any fun line => line.2 == number

end Part

namespace Script

/-! ### What the script says -/

/-- The parts behind a line, up to the next step, header or prose. -/
def window (text : String) (number : Nat) : List Part :=
  (((parts text).dropWhile fun part => !part.isLine number).tail).takeWhile (!·.endsWindow)

/-- The table that the rows of a window make. -/
def tableOf? (window : List Part) : Option Table :=
  match window.filterMap Part.cells? with
  | [] => none
  | rows => some rows

/-- The last doc string of a window. -/
def docStringOf? (window : List Part) : Option DocString :=
  (window.filterMap Part.docString?).getLast?

/-- Whether rows below lines are example data. -/
def inExamples (above : List NumberedLine) : Bool :=
  (above.filterMap fun line => (ScriptLine.of line.1).opensExamples?).getLast?.getD false

/-- The rows among lines that are example data. -/
def exampleRowsAmong (lines : List NumberedLine) : Table :=
  lines.filterMap fun line =>
    if inExamples (lines.filter (·.2 < line.2)) then cells? line else none

/-- The lines of a script outside of closed doc strings that are steps or headers. -/
def frame (text : String) : List NumberedLine :=
  (outside text).filter fun line => (ScriptLine.of line.1).isFrame

end Script

/-! ### Windows -/

/-- What is attached to a step, with the number of its line. -/
def ScriptStep.arguments (step : ScriptStep) : Nat × Option Table × Option DocString :=
  (step.line, step.table?, step.docString?)

namespace Script

/-- The steps among parts by the numbers of their lines, each with its window. -/
def windows : List Part → List (Nat × List Part)
  | [] => []
  | .docString _ :: rest => windows rest
  | .line line :: rest =>
    match ScriptLine.of line.1 with
    | .step .. => (line.2, rest.takeWhile (!·.endsWindow)) :: windows rest
    | _ => windows rest

/-- What a window attaches to the step on a line. -/
def argumentsOf (window : Nat × List Part) : Nat × Option Table × Option DocString :=
  (window.1, tableOf? window.2, docStringOf? window.2)

/-- A part that ends no window begins none, as it is no step. -/
theorem windows_cons_of_inside {part : Part} {rest : List Part}
    (h : part.endsWindow = false) : windows (part :: rest) = windows rest := by
  cases part with
  | docString doc => rfl
  | line line =>
      rw [windows]
      split
      · rename_i hline
        simp [Part.endsWindow, Part.line?, hline, ScriptLine.endsWindow] at h
      · rfl

/-- A window stands behind the line of its step, up to the first part that ends it. -/
theorem exists_of_mem_windows {parts : List Part} {number : Nat} {window : List Part}
    (h : (number, window) ∈ windows parts) :
    ∃ before line after, parts = before ++ .line line :: after ∧ number = line.2
      ∧ window = after.takeWhile (!·.endsWindow) := by
  induction parts with
  | nil => simp [windows] at h
  | cons part rest ih =>
      -- A window of the rest is a window of the whole, one part further down.
      have hrest (hmem : (number, window) ∈ windows rest) :
          ∃ before line after, part :: rest = before ++ .line line :: after ∧ number = line.2
            ∧ window = after.takeWhile (!·.endsWindow) := by
        obtain ⟨before, line, after, rfl, hnumber, hwindow⟩ := ih hmem
        exact ⟨part :: before, line, after, rfl, hnumber, hwindow⟩
      cases part with
      | docString doc => exact hrest h
      | line line =>
          rw [windows] at h
          split at h
          · rcases List.mem_cons.mp h with heq | hmem
            · obtain ⟨hnumber, hwindow⟩ := Prod.mk.inj heq
              exact ⟨[], line, rest, rfl, hnumber, hwindow⟩
            · exact hrest hmem
          · exact hrest h

/-- A window begins behind the line with its number, since no line before it has the same
one. -/
theorem window_eq {text : String} {before after : List Part} {line : NumberedLine}
    (h : parts text = before ++ .line line :: after) :
    window text line.2 = after.takeWhile (!·.endsWindow) := by
  have hpairs := pairwise_outside text
  rw [← filterMap_line?_parts, h, List.filterMap_append, List.pairwise_append] at hpairs
  have hbefore : ∀ part ∈ before, (!part.isLine line.2) = true := by
    intro part hpart
    cases part with
    | docString doc => rfl
    | line other =>
        have hmem : other ∈ before.filterMap Part.line? :=
          List.mem_filterMap.mpr ⟨.line other, hpart, rfl⟩
        -- Numbers increase, so a part in front has a smaller one.
        have hlt := hpairs.2.2 other hmem line (by simp [Part.line?])
        have hne : other.2 ≠ line.2 := Nat.ne_of_lt hlt
        simpa [Part.isLine, Part.line?] using hne
  have hself : (!(Part.line line).isLine line.2) = false := by simp [Part.isLine, Part.line?]
  rw [window, h, List.dropWhile_append_of_pos hbefore, List.dropWhile_cons_of_neg (by simp [hself]),
    List.tail_cons]

end Script

/-! ### Attaching parts to a step -/

/-- Attaches a part of the window of a step to it. -/
def ScriptStep.attach (step : ScriptStep) (part : Part) : ScriptStep :=
  match part with
  | .docString doc => { step with docString? := some doc }
  | .line line =>
    match Script.cells? line with
    | some cells => { step with table? := some (step.table?.getD [] ++ [cells]) }
    | none => step

namespace ScriptStep

/-- A step keeps its line, whatever is attached to it. -/
theorem line_foldl_attach (window : List Part) :
    ∀ step : ScriptStep, (window.foldl attach step).line = step.line := by
  induction window with
  | nil => exact fun _ => rfl
  | cons part rest ih =>
      intro step
      rw [List.foldl_cons, ih]
      cases part with
      | docString doc => rfl
      | line line =>
          rw [attach]
          split <;> rfl

/-- The rows of a window come behind those that a step has. -/
theorem table?_foldl_attach (window : List Part) :
    ∀ step : ScriptStep, (window.foldl attach step).table?
      = match window.filterMap Part.cells? with
        | [] => step.table?
        | rows => some (step.table?.getD [] ++ rows) := by
  induction window with
  | nil => exact fun _ => rfl
  | cons part rest ih =>
      intro step
      rw [List.foldl_cons, ih]
      cases part with
      | docString doc => rfl
      | line line =>
          have hcells : (Part.line line).cells? = Script.cells? line := rfl
          rw [List.filterMap_cons, hcells, attach]
          cases Script.cells? line with
          | none => rfl
          | some cells => cases rest.filterMap Part.cells? <;> simp

/-- The last doc string of a window takes the place of that of a step. -/
theorem docString?_foldl_attach (window : List Part) :
    ∀ step : ScriptStep, (window.foldl attach step).docString?
      = (Script.docStringOf? window).or step.docString? := by
  induction window with
  | nil => exact fun _ => rfl
  | cons part rest ih =>
      intro step
      rw [List.foldl_cons, ih, Script.docStringOf?, Script.docStringOf?]
      cases part with
      | docString doc =>
          have hdoc : (Part.docString doc).docString? = some doc := rfl
          rw [List.filterMap_cons_some hdoc, List.getLast?_cons]
          cases (rest.filterMap Part.docString?).getLast? <;> rfl
      | line line =>
          rw [List.filterMap_cons_none rfl, attach]
          split <;> rfl

/-- A step without arguments gets those of its window. -/
theorem arguments_foldl_attach {step : ScriptStep} (window : List Part)
    (htable : step.table? = none) (hdoc : step.docString? = none) :
    (window.foldl attach step).arguments = Script.argumentsOf (step.line, window) := by
  rw [arguments, line_foldl_attach, table?_foldl_attach, docString?_foldl_attach, htable, hdoc,
    Option.or_none]
  rfl

end ScriptStep

namespace Scan

variable (policy : ConjunctionPolicy)

/-- A scan does not attach rows while it collects examples. -/
def OneSided (s : Scan) : Prop :=
  s.attaching = true → s.inExamples = false

/-- To edit the latest step is to change the first of the steps so far. -/
@[simp]
theorem steps_editLatest (s : Scan) (edit : ScriptStep → ScriptStep) :
    (s.editLatest edit).steps = s.steps.modifyHead edit := by
  unfold editLatest
  cases hsteps : s.steps <;> simp [hsteps]

/-- To change the latest step changes nothing else. -/
@[simp]
theorem frame_editLatest (s : Scan) (edit : ScriptStep → ScriptStep) :
    (s.editLatest edit).attaching = s.attaching
      ∧ (s.editLatest edit).inExamples = s.inExamples
      ∧ (s.editLatest edit).exampleRows = s.exampleRows := by
  unfold editLatest
  cases s.steps <;> exact ⟨rfl, rfl, rfl⟩

/-- What a part inside a window does to a scan: it goes to the latest step as long as
the scan attaches. -/
structure TakesIn (s : Scan) (part : Part) (s' : Scan) : Prop where
  steps : s'.steps = if s.attaching then s.steps.modifyHead (·.attach part) else s.steps
  attaching : s'.attaching = s.attaching
  inExamples : s'.inExamples = s.inExamples

/-- A scan that attaches edits the latest step. -/
theorem takesIn_editLatest {s : Scan} (h : s.attaching = true) (part : Part) :
    s.TakesIn part (s.editLatest (·.attach part)) :=
  ⟨by simp [h], by simp, by simp⟩

/-- A row is a part of the window it stands in. -/
theorem takesIn_row {s : Scan} (hs : s.OneSided) {line : NumberedLine}
    {cells : List (List Char)} (hrow : ScriptLine.of line.1 = .row cells) :
    s.TakesIn (.line line) (s.row cells) := by
  -- A row goes to the latest step as long as nothing has ended the window of that step.
  cases hattaching : s.attaching with
  | false =>
      unfold row
      cases hexamples : s.inExamples <;> exact ⟨by simp [hattaching], by simp [hattaching],
        by simp [hattaching, hexamples]⟩
  | true =>
      have hattach (step : ScriptStep) : step.attach (.line line)
          = { step with table? := some (step.table?.getD [] ++ [cells.map String.ofList]) } := by
        rw [ScriptStep.attach, Script.cells?_of_row hrow]
      have hedit : s.row cells = s.editLatest (·.attach (.line line)) := by
        simp only [row, hs hattaching, hattaching, hattach]
        rfl
      exact hedit ▸ takesIn_editLatest hattaching _

/-- A scan takes in a doc string as a part of the script. -/
theorem takesIn_docString {s : Scan} (hs : s.OneSided) (doc : DocString) :
    s.TakesIn (.docString doc) (s.docString doc) := by
  cases hattaching : s.attaching with
  | false => exact ⟨by simp [docString, hattaching], by simp [docString, hattaching],
      by simp [docString, hattaching]⟩
  | true =>
      have hedit : s.docString doc = s.editLatest (·.attach (.docString doc)) := by
        rw [docString, hattaching, hs hattaching]
        rfl
      exact hedit ▸ takesIn_editLatest hattaching _

/-- A line that says nothing is attached without effect. -/
theorem takesIn_self (s : Scan) {line : NumberedLine}
    (h : ∀ cells, ScriptLine.of line.1 ≠ .row cells) : s.TakesIn (.line line) s := by
  have hattach : (fun step : ScriptStep => step.attach (.line line)) = id := by
    funext step
    rw [ScriptStep.attach, Script.cells?_eq_none h, id]
  refine ⟨?_, rfl, rfl⟩
  rw [hattach, List.modifyHead_id, id, ite_self]

/-- A part inside a window goes to the latest step as long as the scan attaches. -/
theorem takesIn_passPart {s : Scan} (hs : s.OneSided) {part : Part}
    (hpart : part.endsWindow = false) : s.TakesIn part (s.passPart policy part) := by
  cases part with
  | docString doc => exact takesIn_docString hs doc
  | line line =>
      have hclass : (ScriptLine.of line.1).endsWindow = false := hpart
      show s.TakesIn (.line line) (s.line policy line.1 line.2)
      rw [Scan.line]
      cases hline : ScriptLine.of line.1 with
      | silent | fence _ _ => exact s.takesIn_self (by simp [hline])
      | row cells => exact takesIn_row hs hline
      | header _ _ | step _ _ | prose => simp [hline, ScriptLine.endsWindow] at hclass

/-! ### What ends a window -/

/-- A header or prose ends what is attached to the latest step. -/
theorem pass_ending {s : Scan} {line : NumberedLine}
    (hends : (ScriptLine.of line.1).endsWindow = true)
    (hstep : ∀ keyword sentence, ScriptLine.of line.1 ≠ .step keyword sentence) :
    (s.pass policy line).steps = s.steps ∧ (s.pass policy line).attaching = false := by
  unfold pass Scan.line
  cases hline : ScriptLine.of line.1 with
  | header word title => cases word <;> exact ⟨rfl, rfl⟩
  | prose => exact ⟨rfl, rfl⟩
  | step keyword sentence => exact absurd hline (hstep keyword sentence)
  | silent | fence _ _ | row _ => simp [hline, ScriptLine.endsWindow] at hends

/-- A step comes without arguments, and parts are attached to it from then on. -/
theorem pass_step {s : Scan} {line : NumberedLine} {keyword : Keyword} {sentence : List Char}
    (hline : ScriptLine.of line.1 = .step keyword sentence) :
    ∃ step : ScriptStep, (s.pass policy line).steps = step :: s.steps ∧ step.line = line.2
      ∧ step.table? = none ∧ step.docString? = none ∧ (s.pass policy line).attaching = true
      ∧ (s.pass policy line).inExamples = false := by
  unfold pass Scan.line
  rw [hline]
  exact ⟨_, rfl, rfl, rfl, rfl, rfl, rfl⟩

/-- What a run over parts leaves at the steps. The latest step at its start gets the rest of
its window, and each step of the parts gets its own. -/
theorem arguments_foldl_passPart (parts : List Part) :
    ∀ s : Scan, s.OneSided →
      (parts.foldl (passPart policy) s).steps.map ScriptStep.arguments
        = ((Script.windows parts).map Script.argumentsOf).reverse
          ++ (if s.attaching then
                s.steps.modifyHead fun step =>
                  (parts.takeWhile (!·.endsWindow)).foldl ScriptStep.attach step
              else s.steps).map ScriptStep.arguments := by
  have hid : (fun step : ScriptStep => step) = id := rfl
  -- The scan is any one, since its latest step takes in parts until its window ends.
  induction parts with
  | nil =>
      intro s _
      simp [Script.windows, hid]
  | cons part rest ih =>
      intro s hs
      rw [List.foldl_cons]
      cases hends : part.endsWindow with
      | false =>
          have htakes := takesIn_passPart policy hs hends
          have hs' : (s.passPart policy part).OneSided := by
            rw [OneSided, htakes.attaching, htakes.inExamples]
            exact hs
          rw [ih _ hs', htakes.steps, htakes.attaching, Script.windows_cons_of_inside hends,
            List.takeWhile_cons_of_pos (by simp [hends])]
          cases s.attaching with
          | false => rfl
          | true => simp [List.modifyHead_modifyHead, Function.comp_def]
      | true =>
          rw [List.takeWhile_cons_of_neg (by simp [hends])]
          cases part with
          | docString doc => simp [Part.endsWindow, Part.line?] at hends
          | line line =>
              have hclass : (ScriptLine.of line.1).endsWindow = true := hends
              cases hline : ScriptLine.of line.1 with
              | step keyword sentence =>
                  -- The step before has all it gets, and the new one has nothing yet.
                  obtain ⟨step, hsteps, hnumber, htable, hdoc, hattaching, hexamples⟩ :=
                    pass_step policy (s := s) hline
                  have harguments := ScriptStep.arguments_foldl_attach
                    (rest.takeWhile (!·.endsWindow)) htable hdoc
                  show (rest.foldl (passPart policy) (s.pass policy line)).steps.map _ = _
                  rw [ih _ fun _ => hexamples, hsteps, hattaching, Script.windows, hline]
                  simp [harguments, hnumber, hid]
              | header _ _ | prose =>
                  obtain ⟨hsteps, hattaching⟩ :=
                    pass_ending policy (s := s) hclass (by simp [hline])
                  show (rest.foldl (passPart policy) (s.pass policy line)).steps.map _ = _
                  rw [ih _ (by simp [OneSided, hattaching]), hsteps, hattaching, Script.windows,
                    hline]
                  simp [hid]
              | silent | fence _ _ | row _ => simp [hline, ScriptLine.endsWindow] at hclass

/-! ### Example rows -/

/-- A row leaves it as it was whether rows are example data. -/
theorem inExamples_row (s : Scan) (cells : List (List Char)) :
    (s.row cells).inExamples = s.inExamples := by
  unfold row
  split
  · rfl
  · split <;> simp

/-- A row is collected as long as rows are examples. -/
theorem exampleRows_row (s : Scan) (cells : List (List Char)) :
    (s.row cells).exampleRows
      = (if s.inExamples then [cells.map String.ofList] else []) ++ s.exampleRows := by
  unfold row
  split
  · rfl
  · split <;> simp

/-- Steps and headers say whether the rows behind them are examples. -/
theorem inExamples_pass (s : Scan) (line : NumberedLine) :
    (s.pass policy line).inExamples
      = (ScriptLine.of line.1).opensExamples?.getD s.inExamples := by
  unfold pass Scan.line
  cases hline : ScriptLine.of line.1 with
  | silent | fence _ _ | prose => rfl
  | row cells => exact inExamples_row s cells
  | header word title => cases word <;> rfl
  | step keyword sentence => rfl

/-- A row is added to the example rows if rows are example data there. -/
theorem exampleRows_pass (s : Scan) (line : NumberedLine) :
    (s.pass policy line).exampleRows
      = (if s.inExamples then (Script.cells? line).toList else []) ++ s.exampleRows := by
  have hnone (h : ∀ cells, ScriptLine.of line.1 ≠ .row cells) :
      s.exampleRows
        = (if s.inExamples then (Script.cells? line).toList else []) ++ s.exampleRows := by
    rw [Script.cells?_eq_none h, Option.toList_none, ite_self, List.nil_append]
  unfold pass Scan.line
  cases hline : ScriptLine.of line.1 with
  | silent | fence _ _ | step _ _ | prose => exact hnone (by simp [hline])
  | header word title => cases word <;> exact hnone (by simp [hline])
  | row cells =>
      rw [Script.cells?_of_row hline]
      exact exampleRows_row s cells

end Scan

namespace Script

/-- The last line says whether rows are example data, if it has a say. -/
theorem inExamples_concat (lines : List NumberedLine) (line : NumberedLine) :
    inExamples (lines ++ [line])
      = (ScriptLine.of line.1).opensExamples?.getD (inExamples lines) := by
  unfold inExamples
  rw [List.filterMap_append]
  cases h : (ScriptLine.of line.1).opensExamples? <;> simp [h]

/-- A further line adds at most itself to the example rows. -/
theorem exampleRowsAmong_concat {lines : List NumberedLine} {line : NumberedLine}
    (hlater : ∀ own ∈ lines, own.2 < line.2) :
    exampleRowsAmong (lines ++ [line])
      = exampleRowsAmong lines ++ if inExamples lines then (cells? line).toList else [] := by
  -- The new line is above none of the others, and all of them are above it.
  have hbefore : ∀ own ∈ lines,
      (lines ++ [line]).filter (·.2 < own.2) = lines.filter (·.2 < own.2) := by
    intro own hown
    have hnot : ¬ line.2 < own.2 := Nat.lt_asymm (hlater own hown)
    simp [hnot]
  have hall : (lines ++ [line]).filter (·.2 < line.2) = lines := by
    rw [List.filter_append, List.filter_eq_self.mpr (by simpa using hlater)]
    simp
  unfold exampleRowsAmong
  rw [List.filterMap_append]
  congr 1
  · exact List.filterMap_congr fun own hown => by rw [hbefore own hown]
  · rw [List.filterMap_cons, List.filterMap_nil, hall]
    cases inExamples lines with
    | false => rfl
    | true => cases cells? line <;> rfl

end Script

namespace Scan

/-- What a scan of lines from the start knows of examples, if the lines come in their
order. -/
theorem exampleRows_foldl_pass (policy : ConjunctionPolicy) {lines : List NumberedLine}
    (h : lines.Pairwise (·.2 < ·.2)) :
    (lines.foldl (pass policy) {}).inExamples = Script.inExamples lines
      ∧ (lines.foldl (pass policy) {}).exampleRows = (Script.exampleRowsAmong lines).reverse := by
  induction lines using List.reverseRecOn with
  | nil => exact ⟨rfl, rfl⟩
  -- Whether a row is an example depends on the lines above, so lines are added at the end.
  | append_singleton lines line ih =>
      rw [List.pairwise_append] at h
      obtain ⟨hlines, -, hlater⟩ := h
      obtain ⟨hexamples, hrows⟩ := ih hlines
      rw [List.foldl_concat, inExamples_pass, exampleRows_pass, hexamples, hrows,
        Script.inExamples_concat,
        Script.exampleRowsAmong_concat fun own hown => hlater own hown line (by simp)]
      refine ⟨rfl, ?_⟩
      rw [List.reverse_append]
      split
      · cases Script.cells? line <;> rfl
      · rfl

end Scan

/-! ### What rows and doc strings do not matter to -/

/-- A step without its table and its doc string. -/
def ScriptStep.withoutArguments (step : ScriptStep) : ScriptStep :=
  { step with docString? := none, table? := none }

/-- Arguments are left out once. -/
@[simp]
theorem ScriptStep.withoutArguments_idem (step : ScriptStep) :
    step.withoutArguments.withoutArguments = step.withoutArguments :=
  rfl

/-- A script without what its rows and doc strings put into it. -/
def Script.withoutArguments (script : Script) : Script :=
  { script with steps := script.steps.map ScriptStep.withoutArguments, exampleRows := [] }

namespace Scan

/-- A scan without what rows and doc strings put into it, and without the flags that say
where they go. -/
def withoutArguments (s : Scan) : Scan :=
  { s with
    steps := s.steps.map ScriptStep.withoutArguments
    exampleRows := []
    inExamples := false
    attaching := false }

/-- Without arguments, a row of a table leaves no trace. -/
theorem withoutArguments_row (s : Scan) (cells : List (List Char)) :
    (s.row cells).withoutArguments = s.withoutArguments := by
  have hsteps := map_steps_row ScriptStep.withoutArguments (fun _ _ => rfl) s cells
  unfold withoutArguments
  rw [hsteps]
  unfold row editLatest
  split
  · rfl
  · split
    · cases s.steps <;> rfl
    · rfl

/-- A line that is neither a step nor a header leaves nothing else. -/
theorem withoutArguments_pass_of_other {line : NumberedLine} (policy : ConjunctionPolicy)
    (h : (ScriptLine.of line.1).isFrame = false) (s : Scan) :
    (s.pass policy line).withoutArguments = s.withoutArguments := by
  unfold pass Scan.line
  cases hline : ScriptLine.of line.1 with
  | silent | fence _ _ | prose => rfl
  | row cells => exact withoutArguments_row s cells
  | header _ _ | step _ _ => simp [hline, ScriptLine.isFrame] at h

/-- A step or a header does not look at what rows and doc strings left. -/
theorem withoutArguments_pass {line : NumberedLine} (policy : ConjunctionPolicy)
    (h : (ScriptLine.of line.1).isFrame = true) {s t : Scan}
    (hst : s.withoutArguments = t.withoutArguments) :
    (s.pass policy line).withoutArguments = (t.pass policy line).withoutArguments := by
  -- Neither the kind nor the heading of a step depends on what is forgotten.
  have hforget (r : Scan) : (r.pass policy line).withoutArguments
      = (r.withoutArguments.pass policy line).withoutArguments := by
    unfold pass Scan.line
    cases hline : ScriptLine.of line.1 with
    | header word title => cases word <;> simp [Scan.header, withoutArguments, Function.comp_def]
    | step keyword sentence => simp [Scan.step, kindOf, withoutArguments, Function.comp_def]
    | silent | fence _ _ | row _ | prose => simp [hline, ScriptLine.isFrame] at h
  rw [hforget s, hforget t, hst]

/-- Two scans that agree up to arguments still do if one passes lines and the other only
those that are steps or headers. -/
theorem withoutArguments_foldl_pass (policy : ConjunctionPolicy) (lines : List NumberedLine) :
    ∀ s t : Scan, s.withoutArguments = t.withoutArguments →
      (lines.foldl (pass policy) s).withoutArguments
        = ((lines.filter fun line => (ScriptLine.of line.1).isFrame).foldl (pass policy)
            t).withoutArguments := by
  induction lines with
  | nil => exact fun _ _ h => h
  | cons line rest ih =>
      intro s t hst
      rw [List.foldl_cons]
      cases hframe : (ScriptLine.of line.1).isFrame with
      | true =>
          rw [List.filter_cons_of_pos (by simpa using hframe), List.foldl_cons]
          exact ih _ _ (withoutArguments_pass policy hframe hst)
      | false =>
          rw [List.filter_cons_of_neg (by simpa using hframe)]
          exact ih _ _ ((withoutArguments_pass_of_other policy hframe s).trans hst)

end Scan

namespace Script

/-- Tables, doc strings and example rows aside, a script is what its steps and headers
say. -/
theorem withoutArguments_extract (policy : ConjunctionPolicy) (text : String) :
    (extract policy text).withoutArguments
      = ((frame text).foldl (Scan.pass policy) {}).withoutArguments.script := by
  have hscript (s : Scan) : s.script.withoutArguments = s.withoutArguments.script := by
    simp [Scan.script, Scan.withoutArguments, withoutArguments, List.map_reverse]
  have hdocs (script : Script) : script.withoutDocs.withoutArguments = script.withoutArguments := by
    simp [withoutDocs, withoutArguments, ScriptStep.withoutDoc, ScriptStep.withoutArguments]
  rw [← hdocs, withoutDocs_extract, hscript,
    Scan.withoutArguments_foldl_pass policy _ _ {} rfl]
  rfl

/-- A step has the table and the doc string of its window. -/
theorem arguments_of_mem_extract {policy : ConjunctionPolicy} {text : String}
    {step : ScriptStep} (hstep : step ∈ (extract policy text).steps) :
    step.table? = tableOf? (window text step.line)
      ∧ step.docString? = docStringOf? (window text step.line) := by
  have hrun := Scan.arguments_foldl_passPart policy (parts text) {} (by simp [Scan.OneSided])
  -- What a scan leaves at its steps is what the windows hold.
  have hmem : step.arguments ∈ ((windows (parts text)).map argumentsOf).reverse := by
    rw [extract_eq_foldl, Scan.script, List.mem_reverse] at hstep
    have hmap := List.mem_map_of_mem (f := ScriptStep.arguments) hstep
    rw [hrun] at hmap
    simpa using hmap
  obtain ⟨⟨number, own⟩, hown, harguments⟩ := List.mem_map.mp (List.mem_reverse.mp hmem)
  obtain ⟨before, line, after, hparts, hnumber, hwindow⟩ := exists_of_mem_windows hown
  simp only [argumentsOf, ScriptStep.arguments, Prod.mk.injEq] at harguments
  obtain ⟨hline, htable, hdoc⟩ := harguments
  -- The number of the step leads back to the window.
  have hwindow' : window text step.line = own := by
    rw [← hline, hnumber, hwindow, window_eq hparts]
  rw [hwindow']
  exact ⟨htable.symm, hdoc.symm⟩

/-- Where the rows and doc strings of a script go. A step has the rows of its window as its
table, and the last doc string of its window as its doc string. The example rows are the
rows outside of closed doc strings whose latest line above that is a step, a header of a
rule, a background or a scenario, or an examples header, is an examples header. In all else
a script is what its steps and headers say. -/
theorem arguments_extract (policy : ConjunctionPolicy) (text : String) :
    (∀ step ∈ (extract policy text).steps,
        step.table? = tableOf? (window text step.line)
          ∧ step.docString? = docStringOf? (window text step.line))
      ∧ (extract policy text).exampleRows = exampleRowsAmong (outside text)
      ∧ ∀ other, frame other = frame text →
          (extract policy other).withoutArguments = (extract policy text).withoutArguments := by
  refine ⟨fun step hstep => arguments_of_mem_extract hstep, ?_, ?_⟩
  · have hextract : (extract policy text).exampleRows
        = ((outside text).foldl (Scan.pass policy) {}).exampleRows.reverse :=
      congrArg Script.exampleRows (withoutDocs_extract policy text)
    rw [hextract, (Scan.exampleRows_foldl_pass policy (pairwise_outside text)).2,
      List.reverse_reverse]
  · intro other hframe
    rw [withoutArguments_extract, withoutArguments_extract, hframe]

end Script

end ScenarioSteps
