import ScenarioSteps.Proofs.Script.Conjunction
import ScenarioSteps.Proofs.Script.Steps

/-!
# `ScenarioSteps.Proofs.Script.Examples`: what is inherited below examples

A conjunction inherits the latest kind that a keyword names above it, as long as no header
that resets kinds stands between. `Script.passedOn?` reads this off the lines above the
conjunction, from below to above. A scan holds just that at any time
(`Scan.namedKind?_foldl_pass`), and each step gets its kind from the scan of the lines before
its own (`Scan.exists_of_mem_kinds`).

An examples header is none of the headers that reset kinds. So a conjunction that comes first
below one has the kind that is passed on from above the header (`kind_below_examples`), as if
the examples were not there. `examples_keep_inherited_kind` is a script in which this kind is
a `When`.
-/

set_option autoImplicit false

namespace ScenarioSteps

namespace NumberedLine

/-- The kind that a line names, if it is a step with a keyword that names one. -/
def namedKind? (line : NumberedLine) : Option StepKind :=
  (stepLine? line.1).bind fun step => step.1.kind?

/-- Whether a line is a header behind which nothing is inherited from before it. -/
def resetsKind (line : NumberedLine) : Bool :=
  (headerLine? line.1).any fun header => header.1.resetsKind

variable {line : NumberedLine}

/-- A step names the kind that its keyword names. -/
theorem namedKind?_of_step {keyword : Keyword} {sentence : List Char}
    (h : ScriptLine.of line.1 = .step keyword sentence) : line.namedKind? = keyword.kind? := by
  rw [namedKind?, ScriptLine.of_eq_step_iff.mp h, Option.bind_some]

/-- No other line names a kind. -/
theorem namedKind?_of_other
    (h : ∀ keyword sentence, ScriptLine.of line.1 ≠ .step keyword sentence) :
    line.namedKind? = none := by
  rw [namedKind?, ScriptLine.stepLine?_eq_none h, Option.bind_none]

/-- A header resets kinds if its word does. -/
theorem resetsKind_of_header {word : Header} {title : List Char}
    (h : ScriptLine.of line.1 = .header word title) : line.resetsKind = word.resetsKind := by
  rw [resetsKind, ScriptLine.of_eq_header_iff.mp h, Option.any_some]

/-- No other line resets them. -/
theorem resetsKind_of_other (h : ∀ word title, ScriptLine.of line.1 ≠ .header word title) :
    line.resetsKind = false := by
  rw [resetsKind, ScriptLine.headerLine?_eq_none h, Option.any_none]

/-- A header that resets nothing says nothing about kinds. -/
theorem quiet_of_header {word : Header} {title : List Char}
    (hread : headerLine? line.1 = some (word, title)) (hresets : word.resetsKind = false) :
    line.resetsKind = false ∧ line.namedKind? = none := by
  have hclass := ScriptLine.of_eq_header_iff.mpr hread
  exact ⟨(resetsKind_of_header hclass).trans hresets, namedKind?_of_other (by simp [hclass])⟩

end NumberedLine

namespace Script

/-- The kind that lines pass on to a conjunction behind them: the latest one that a keyword
names, unless a header that resets kinds is met before, going up. -/
def passedOn? (lines : List NumberedLine) : Option StepKind :=
  (lines.reverse.takeWhile fun line => !line.resetsKind).findSome? NumberedLine.namedKind?

/-- The lines of a script above a line and outside of closed doc strings. -/
def linesAbove (text : String) (number : Nat) : List NumberedLine :=
  (outside text).filter fun line => line.2 < number

/-! ### The kind that lines pass on -/

/-- The lowest of the lines decides, unless it says nothing about kinds. -/
theorem passedOn?_concat (lines : List NumberedLine) (line : NumberedLine) :
    passedOn? (lines ++ [line])
      = if line.resetsKind then none else line.namedKind? <|> passedOn? lines := by
  rw [passedOn?, List.reverse_concat, List.takeWhile_cons]
  cases line.resetsKind with
  | true => rfl
  | false =>
      simp only [Bool.not_false, if_true, List.findSome?_cons, passedOn?]
      cases line.namedKind? <;> rfl

/-- Lines that neither name nor reset a kind pass on what was passed on to them. -/
theorem passedOn?_append (lines : List NumberedLine) {later : List NumberedLine}
    (h : ∀ line ∈ later, line.resetsKind = false ∧ line.namedKind? = none) :
    passedOn? (lines ++ later) = passedOn? lines := by
  induction later using List.reverseRecOn with
  | nil => rw [List.append_nil]
  | append_singleton later line ih =>
      rw [List.forall_mem_append, List.forall_mem_singleton] at h
      obtain ⟨hlater, hreset, hnamed⟩ := h
      rw [← List.append_assoc, passedOn?_concat, hreset, hnamed]
      exact ih hlater

end Script

namespace Scan

/-- A scan holds the kind that the lines so far pass on. -/
theorem namedKind?_foldl_pass (policy : ConjunctionPolicy) (lines : List NumberedLine) :
    (lines.foldl (pass policy) {}).namedKind? = Script.passedOn? lines := by
  induction lines using List.reverseRecOn with
  | nil => rfl
  | append_singleton lines line ih =>
      rw [List.foldl_concat, Script.passedOn?_concat, ← ih]
      generalize lines.foldl (pass policy) {} = s
      -- Only steps name kinds and only headers reset them, in a scan as in the lines.
      cases hline : ScriptLine.of line.1 with
      | step keyword sentence =>
          rw [(kinds_pass_of_step policy s hline).2, NumberedLine.namedKind?_of_step hline,
            NumberedLine.resetsKind_of_other (by simp [hline])]
          rfl
      | header word title =>
          rw [(kinds_pass_of_header policy s hline).2, NumberedLine.resetsKind_of_header hline,
            NumberedLine.namedKind?_of_other (by simp [hline])]
          rfl
      | silent | fence _ _ | row _ | prose =>
          rw [(kinds_pass_of_other policy s line (by simp [hline]) (by simp [hline])).2,
            NumberedLine.namedKind?_of_other (by simp [hline]),
            NumberedLine.resetsKind_of_other (by simp [hline])]
          rfl

/-- Each step got its kind on its own line, from the scan of the lines before. -/
theorem exists_of_mem_kinds (policy : ConjunctionPolicy) (lines : List NumberedLine) :
    ∀ kinded ∈ (lines.foldl (pass policy) {}).kinds, ∃ before line after,
      lines = before ++ line :: after ∧ kinded.number = line.2
        ∧ kinded.kind = (before.foldl (pass policy) {}).kindOf policy kinded.keyword := by
  induction lines using List.reverseRecOn with
  | nil => exact List.forall_mem_nil _
  | append_singleton lines line ih =>
      -- One more line behind the others does not touch the lines before a step.
      have hold : ∀ kinded ∈ (lines.foldl (pass policy) {}).kinds, ∃ before own after,
          lines ++ [line] = before ++ own :: after ∧ kinded.number = own.2
            ∧ kinded.kind = (before.foldl (pass policy) {}).kindOf policy kinded.keyword := by
        intro kinded hkinded
        obtain ⟨before, own, after, rfl, hown⟩ := ih kinded hkinded
        exact ⟨before, own, after ++ [line], by simp, hown⟩
      rw [List.foldl_concat]
      cases hline : ScriptLine.of line.1 with
      | step keyword sentence =>
          rw [(kinds_pass_of_step policy _ hline).1, List.forall_mem_cons]
          exact ⟨⟨lines, line, [], rfl, rfl, rfl⟩, hold⟩
      | header word title =>
          rw [(kinds_pass_of_header policy _ hline).1]
          exact hold
      | silent | fence _ _ | row _ | prose =>
          rw [(kinds_pass_of_other policy _ line (by simp [hline]) (by simp [hline])).1]
          exact hold

end Scan

namespace Script

/-- The lines above a line are those before it, since they are in the order of their numbers. -/
theorem linesAbove_eq {text : String} {before after : List NumberedLine} {line : NumberedLine}
    (h : outside text = before ++ line :: after) : linesAbove text line.2 = before := by
  have hpairs := pairwise_outside text
  rw [h, List.pairwise_append, List.pairwise_cons] at hpairs
  obtain ⟨-, ⟨hafter, -⟩, hbefore⟩ := hpairs
  have hall : before.filter (fun own => own.2 < line.2) = before := by
    rw [List.filter_eq_self]
    intro own hown
    exact decide_eq_true (hbefore own hown line List.mem_cons_self)
  have hno : (line :: after).filter (fun own => own.2 < line.2) = [] := by
    rw [List.filter_eq_nil_iff, List.forall_mem_cons]
    refine ⟨by simp, fun own hown => ?_⟩
    have hlt := hafter own hown
    simpa using Nat.le_of_lt hlt
  rw [linesAbove, h, List.filter_append, hall, hno, List.append_nil]

/-- A conjunction has the kind that the lines above it pass on. -/
theorem kind_eq_passedOn? {text : String} {step : ScriptStep}
    (hstep : step ∈ (extract .inherit text).steps) (hnone : step.keyword.kind? = none) :
    ∃ before line after, outside text = before ++ line :: after ∧ step.line = line.2
      ∧ step.kind = (passedOn? before).getD .given := by
  have hmem := List.mem_map_of_mem (f := ScriptStep.kinded) hstep
  rw [map_kinded_extract, List.mem_reverse] at hmem
  obtain ⟨before, line, after, hlines, hnumber, hkind⟩ :=
    Scan.exists_of_mem_kinds .inherit (outside text) _ hmem
  refine ⟨before, line, after, hlines, hnumber, ?_⟩
  have hconjunction : step.kinded.keyword.kind? = none := hnone
  have hheld := Scan.namedKind?_foldl_pass .inherit before
  calc step.kind
      = (before.foldl (Scan.pass .inherit) {}).kindOf .inherit step.kinded.keyword := hkind
    _ = (before.foldl (Scan.pass .inherit) {}).namedKind?.getD .given := by
        rw [Scan.kindOf, hconjunction]
    _ = (passedOn? before).getD .given := by rw [hheld]

/-! ### Below an examples header -/

/-- A conjunction below an examples header, with neither another header nor a step that names
a kind between the two. -/
structure OpensExamples (text : String) (step : ScriptStep) (header : HeaderLine) : Prop where
  conjunction : step.keyword.kind? = none
  latest : (headersAbove text step.line).getLast? = some header
  examples : header.word ∈ [.examples, .scenarios]
  unnamed : ∀ other ∈ (extract .inherit text).steps,
    header.number < other.line → other.line < step.line → other.keyword.kind? = none

/-- The latest of the headers among lines, with the lines before and behind it. -/
theorem exists_of_getLast?_headers {lines : List NumberedLine} {header : HeaderLine}
    (h : (headers lines).getLast? = some header) :
    ∃ above line below, lines = above ++ line :: below ∧ header.number = line.2
      ∧ headerLine? line.1 = some (header.word, header.title)
      ∧ ∀ own ∈ below, headerLine? own.1 = none := by
  obtain ⟨others, hsplit⟩ := List.getLast?_eq_some_iff.mp h
  obtain ⟨first, rest, rfl, -, hrest⟩ := List.filterMap_eq_append_iff.mp hsplit
  obtain ⟨between, line, below, rfl, -, hread, hbelow⟩ := List.filterMap_eq_cons_iff.mp hrest
  obtain ⟨⟨word, title⟩, hword, rfl⟩ := Option.map_eq_some_iff.mp hread
  refine ⟨first ++ between, line, below, by simp, rfl, hword, fun own hown => ?_⟩
  have hnone := List.filterMap_eq_nil_iff.mp hbelow own hown
  exact Option.map_eq_none_iff.mp hnone

/-- A line that names a kind is a step of the script with this keyword. -/
theorem exists_step_of_namedKind? (policy : ConjunctionPolicy) {text : String}
    {line : NumberedLine} {kind : StepKind} (hline : line ∈ outside text)
    (h : line.namedKind? = some kind) :
    ∃ step ∈ (extract policy text).steps, step.line = line.2 ∧ step.keyword.kind? = some kind := by
  obtain ⟨⟨keyword, sentence⟩, hread, hkind⟩ := Option.bind_eq_some_iff.mp h
  -- The steps of a script are what its step lines leave.
  have hmem : (line.2, keyword, String.ofList sentence, String.ofList (Text.trim line.1))
      ∈ (extract policy text).steps.map ScriptStep.trace := by
    rw [map_trace_extract, List.mem_filterMap]
    exact ⟨line, hline, by rw [stepTrace?, hread, Option.map_some]⟩
  obtain ⟨step, hstep, htrace⟩ := List.mem_map.mp hmem
  obtain ⟨hnumber, hparts⟩ := Prod.mk.inj htrace
  obtain ⟨hkeyword, -⟩ := Prod.mk.inj hparts
  exact ⟨step, hstep, hnumber, hkeyword ▸ hkind⟩

/-- The lines between the header and the conjunction name no kind. -/
theorem OpensExamples.namedKind?_eq_none {text : String} {step : ScriptStep} {header : HeaderLine}
    (h : OpensExamples text step header) {line : NumberedLine} (hline : line ∈ outside text)
    (hbehind : header.number < line.2) (hbefore : line.2 < step.line) :
    line.namedKind? = none := by
  rw [Option.eq_none_iff_forall_ne_some]
  intro kind hnamed
  obtain ⟨other, hother, hnumber, hkeyword⟩ := exists_step_of_namedKind? .inherit hline hnamed
  rw [← hnumber] at hbehind hbefore
  rw [h.unnamed other hother hbehind hbefore] at hkeyword
  cases hkeyword

/-- A conjunction that comes first below an examples header has the kind that the lines above
the header pass on. So it is a `Given` exactly when no other kind is passed on to it. -/
theorem kind_below_examples {text : String} {step : ScriptStep} {header : HeaderLine}
    (hstep : step ∈ (extract .inherit text).steps) (h : OpensExamples text step header) :
    step.kind = (passedOn? (linesAbove text header.number)).getD .given
      ∧ (step.kind = .given
        ↔ ∀ kind ∈ passedOn? (linesAbove text header.number), kind = .given) := by
  obtain ⟨before, line, after, hlines, hnumber, hkind⟩ := kind_eq_passedOn? hstep h.conjunction
  have hlatest := h.latest
  rw [hnumber, headersAbove_eq hlines] at hlatest
  -- The lines above the step are those above the header, the header and those below it.
  obtain ⟨above, own, below, rfl, hown, hword, hbelow⟩ := exists_of_getLast?_headers hlatest
  have hsplit : outside text = above ++ own :: (below ++ line :: after) := by
    rw [hlines, List.append_assoc, List.cons_append]
  have hpairs := pairwise_outside text
  rw [hlines, List.pairwise_append, List.pairwise_append, List.pairwise_cons] at hpairs
  obtain ⟨⟨-, ⟨hbehind, -⟩, -⟩, -, hbefore⟩ := hpairs
  have hquiet : ∀ quiet ∈ own :: below, quiet.resetsKind = false ∧ quiet.namedKind? = none := by
    rw [List.forall_mem_cons]
    constructor
    · have hexamples : ∀ word ∈ [Header.examples, .scenarios], word.resetsKind = false := by
        decide
      exact NumberedLine.quiet_of_header hword (hexamples header.word h.examples)
    · intro quiet hquiet
      have hmem : quiet ∈ outside text := by simp [hlines, hquiet]
      have habove : header.number < quiet.2 := hown ▸ hbehind quiet hquiet
      have hunder : quiet.2 < step.line :=
        hnumber ▸ hbefore quiet (by simp [hquiet]) line List.mem_cons_self
      exact ⟨by rw [NumberedLine.resetsKind, hbelow quiet hquiet, Option.any_none],
        h.namedKind?_eq_none hmem habove hunder⟩
  have hpassed : step.kind = (passedOn? (linesAbove text header.number)).getD .given := by
    rw [hkind, passedOn?_append above hquiet, hown, linesAbove_eq hsplit]
  refine ⟨hpassed, ?_⟩
  rw [hpassed]
  cases passedOn? (linesAbove text header.number) <;> simp

/-- Below `Scenarios`, a second conjunction takes over the `Then` from above the table. -/
theorem conjunction_below_scenarios_is_then :
    let text := "Scenario: s\n  When a\n  Then b\n  Scenarios:\n    | x |\n  * c\n  And d\n"
    let step : ScriptStep :=
      { kind := .then, keyword := .and, text := "d", written := "And d", line := 7,
        scenario? := some "s" }
    let header : HeaderLine := ⟨4, .scenarios, []⟩
    step ∈ (extract .inherit text).steps ∧ OpensExamples text step header
      ∧ passedOn? (linesAbove text header.number) = some .then ∧ step.kind = .then := by
  intro text step header
  have hstep : step ∈ (extract .inherit text).steps := by
    rw [extract_eq_onePass]
    decide +kernel
  have hopens : OpensExamples text step header := by
    refine ⟨rfl, by decide, by decide, ?_⟩
    rw [extract_eq_onePass]
    decide
  have hpassed : passedOn? (linesAbove text header.number) = some .then := by decide
  obtain ⟨hkind, -⟩ := kind_below_examples hstep hopens
  rw [hpassed] at hkind
  exact ⟨hstep, hopens, hpassed, hkind⟩

/-- The first conjunction below the examples of an outline is not a `Given`. -/
theorem examples_keep_inherited_kind :
    let text := "Scenario Outline: o\n  When a\n  Examples:\n    | x |\n  And b\n"
    ¬ ∀ step ∈ (extract .inherit text).steps, ∀ header, OpensExamples text step header →
        step.kind = .given := by
  intro text hgiven
  let step : ScriptStep :=
    { kind := .when, keyword := .and, text := "b", written := "And b", line := 5,
      scenario? := some "o" }
  have hstep : step ∈ (extract .inherit text).steps := by
    rw [extract_eq_onePass]
    decide
  have hopens : OpensExamples text step ⟨3, .examples, []⟩ := by
    refine ⟨rfl, by decide, by decide, ?_⟩
    rw [extract_eq_onePass]
    decide
  -- The step has the kind of the step above the header.
  cases hgiven step hstep _ hopens

end Script

end ScenarioSteps
