import ScenarioSteps.Proofs.Script.Heading

/-!
# `ScenarioSteps.Proofs.Script.Enclosing`: the scenario around a step

A scenario or a background goes from its header up to the next header that opens one, or
up to the next `Rule` or `Feature`. So a line stands in the one that the latest of these
headers above it opens, and in none if that is a `Rule` or a `Feature`
(`Script.enclosing?`).

The scan does not keep to that. A `Rule` clears the mark of a background only, a `Feature`
neither the mark nor the title, and a step below takes over what was left.
`heading_eq_enclosing_iff` says what each step gets, and that this is its enclosing
scenario unless a `Rule` or a `Feature` stands between the step and the latest header that
opens one. `step_under_rule_keeps_scenario` is a script in which both do.
-/

set_option autoImplicit false

namespace ScenarioSteps

/-- Whether a header ends the scenario above it without opening one. -/
def Header.leavesScenario : Header → Bool
  | .feature | .rule => true
  | .background | .scenarioOutline | .scenarioTemplate | .scenario | .single | .examples
  | .scenarios => false

/-- A header that opens no scenario is no background. -/
theorem Header.beq_background_eq_false {word : Header} (h : word.opensScenario = false) :
    (word == .background) = false := by
  revert h
  cases word <;> decide

/-- A header that leaves no scenario is no rule. -/
theorem Header.beq_rule_eq_false {word : Header} (h : word.leavesScenario = false) :
    (word == .rule) = false := by
  revert h
  cases word <;> decide

namespace Script

/-- The header of the scenario or background in which a line stands. -/
def enclosing? (text : String) (number : Nat) : Option HeaderLine :=
  (latest? (fun word => word.opensScenario || word.leavesScenario)
    (headersAbove text number)).filter fun header => header.word.opensScenario

/-- The heading of a line by the scenario or background in which it stands. -/
def enclosingHeading (text : String) (number : Nat) : Heading where
  scenario? := (enclosing? text number).map fun header =>
    (Scan.nonempty? header.title).getD header.word.text
  background := (enclosing? text number).any fun header => header.word == .background

/-- Whether a header leaves the latest scenario above a line. -/
def LeavesScenario (text : String) (number : Nat) : Prop :=
  ∃ opener ∈ scenarioHeader? text number, ∃ header ∈ headersAbove text number,
    opener.number < header.number ∧ header.word.leavesScenario = true

/-! ### The latest header -/

/-- The latest header of a sort has none of this sort behind it. -/
theorem latest?_eq_some_iff {sort : Header → Bool} {headers : List HeaderLine}
    {header : HeaderLine} :
    latest? sort headers = some header
      ↔ sort header.word = true ∧ ∃ before after, headers = before ++ header :: after
        ∧ ∀ later ∈ after, sort later.word = false := by
  rw [latest?, List.getLast?_filter, List.find?_eq_some_iff_append]
  refine and_congr_right fun _ => ⟨?_, ?_⟩
  · rintro ⟨after, before, hsplit, hafter⟩
    refine ⟨before.reverse, after.reverse, ?_, fun later hlater => ?_⟩
    · rw [← List.reverse_reverse headers, hsplit]
      simp
    · simpa using hafter later (List.mem_reverse.mp hlater)
  · rintro ⟨before, after, rfl, hafter⟩
    exact ⟨after.reverse, before.reverse, by simp, fun later hlater => by
      simpa using hafter later (List.mem_reverse.mp hlater)⟩

/-- There is no latest header of a sort if none is of the sort. -/
theorem latest?_eq_none_iff {sort : Header → Bool} {headers : List HeaderLine} :
    latest? sort headers = none ↔ ∀ header ∈ headers, sort header.word = false := by
  simp [latest?]

/-- The latest header of a sort is one of the headers. -/
theorem mem_of_latest? {sort : Header → Bool} {headers : List HeaderLine} {header : HeaderLine}
    (h : latest? sort headers = some header) : header ∈ headers := by
  obtain ⟨-, before, after, rfl, -⟩ := latest?_eq_some_iff.mp h
  simp

/-- The headers above a line come in the order of their numbers. -/
theorem pairwise_headersAbove (text : String) (number : Nat) :
    (headersAbove text number).Pairwise (·.number < ·.number) := by
  refine List.Pairwise.filter _ ((pairwise_outside text).filterMap _ ?_)
  intro line later hlt header hheader header' hheader'
  obtain ⟨_, -, rfl⟩ := Option.map_eq_some_iff.mp hheader
  obtain ⟨_, -, rfl⟩ := Option.map_eq_some_iff.mp hheader'
  exact hlt

/-! ### With and without a header between -/

variable {text : String} {number : Nat}

/-- A line below no header of a scenario has no title either way. -/
theorem heading_of_no_scenario (h : scenarioHeader? text number = none) :
    heading text number = enclosingHeading text number := by
  have hnone : ∀ header ∈ headersAbove text number, header.word.opensScenario = false :=
    latest?_eq_none_iff.mp h
  have hscenario : latest? Header.opensScenario (headersAbove text number) = none := h
  have henclosing : enclosing? text number = none := by
    rw [enclosing?, Option.filter_eq_none_iff]
    intro header hheader
    simpa using hnone header (mem_of_latest? hheader)
  have hbackground : (latest? (fun word => word.opensScenario || word == .rule)
      (headersAbove text number)).any (fun header => header.word == .background) = false := by
    rw [Option.any_eq_false]
    intro header hheader
    have hword := hnone header (mem_of_latest? hheader)
    simp [Header.beq_background_eq_false hword]
  simp [heading, headingOf, enclosingHeading, henclosing, hbackground, hscenario]

/-- A line with no `Rule` or `Feature` between it and the latest header of a scenario
stands in that scenario. -/
theorem heading_of_not_leaves {opener : HeaderLine}
    {before after : List HeaderLine}
    (hsplit : headersAbove text number = before ++ opener :: after)
    (hopens : opener.word.opensScenario = true)
    (hopen : ∀ later ∈ after, later.word.opensScenario = false)
    (hleaves : ∀ later ∈ after, later.word.leavesScenario = false) :
    heading text number = enclosingHeading text number := by
  have hscenario : latest? Header.opensScenario (headersAbove text number) = some opener :=
    latest?_eq_some_iff.mpr ⟨hopens, before, after, hsplit, hopen⟩
  have hbounds : latest? (fun word => word.opensScenario || word.leavesScenario)
      (headersAbove text number) = some opener :=
    latest?_eq_some_iff.mpr ⟨by simp [hopens], before, after, hsplit, fun later hlater => by
      simp [hopen later hlater, hleaves later hlater]⟩
  have hmark : latest? (fun word => word.opensScenario || word == .rule)
      (headersAbove text number) = some opener := by
    refine latest?_eq_some_iff.mpr ⟨by simp [hopens], before, after, hsplit, fun later hlater => ?_⟩
    rw [hopen later hlater, Header.beq_rule_eq_false (hleaves later hlater), Bool.or_self]
  have henclosing : enclosing? text number = some opener := by
    rw [enclosing?, hbounds, Option.filter_some, if_pos hopens]
  simp [heading, headingOf, enclosingHeading, henclosing, hscenario, hmark]

/-- A line behind a `Rule` or a `Feature` that leaves the latest scenario stands in none,
but keeps the title. -/
theorem heading_of_leaves {opener : HeaderLine}
    {before after : List HeaderLine}
    (hsplit : headersAbove text number = before ++ opener :: after)
    (hopens : opener.word.opensScenario = true)
    (hopen : ∀ later ∈ after, later.word.opensScenario = false)
    (hleaves : ∃ later ∈ after, later.word.leavesScenario = true) :
    heading text number ≠ enclosingHeading text number := by
  have hscenario : latest? Header.opensScenario (headersAbove text number) = some opener :=
    latest?_eq_some_iff.mpr ⟨hopens, before, after, hsplit, hopen⟩
  obtain ⟨later, hlater, hleave⟩ := hleaves
  -- The latest header behind the scenario is looked at first, and it opens none.
  have henclosing : enclosing? text number = none := by
    rw [enclosing?, hsplit, ← List.singleton_append, ← List.append_assoc, latest?_append]
    cases hlast : latest? (fun word => word.opensScenario || word.leavesScenario) after with
    | none =>
        have hnone := latest?_eq_none_iff.mp hlast later hlater
        simp [hleave] at hnone
    | some last =>
        have hlast := hopen last (mem_of_latest? hlast)
        simp [hlast]
  intro heq
  have htitle := congrArg Heading.scenario? heq
  simp [heading, headingOf, enclosingHeading, henclosing, hscenario] at htitle

/-- The two headings of a line are the same exactly when no `Rule` or `Feature` stands
between the line and the latest header of a scenario above it. -/
theorem heading_eq_enclosingHeading_iff (text : String) (number : Nat) :
    heading text number = enclosingHeading text number ↔ ¬ LeavesScenario text number := by
  cases hopener : scenarioHeader? text number with
  | none =>
      have hnot : ¬ LeavesScenario text number := by
        rintro ⟨opener, hopener', -⟩
        rw [hopener] at hopener'
        cases hopener'
      exact iff_of_true (heading_of_no_scenario hopener) hnot
  | some opener =>
      obtain ⟨hopens, before, after, hsplit, hopen⟩ := latest?_eq_some_iff.mp hopener
      -- The headers behind the opener are those with higher numbers.
      have hpairs := pairwise_headersAbove text number
      rw [hsplit, List.pairwise_append, List.pairwise_cons] at hpairs
      obtain ⟨-, ⟨hafter, -⟩, hbefore⟩ := hpairs
      have hleaves : LeavesScenario text number
          ↔ ∃ later ∈ after, later.word.leavesScenario = true := by
        constructor
        · rintro ⟨other, hother, header, hheader, hlt, hleave⟩
          rw [hopener] at hother
          cases hother
          rw [hsplit, List.mem_append, List.mem_cons] at hheader
          rcases hheader with hmem | rfl | hmem
          · exact absurd hlt (Nat.lt_asymm (hbefore header hmem opener (by simp)))
          · exact absurd hlt (Nat.lt_irrefl _)
          · exact ⟨header, hmem, hleave⟩
        · rintro ⟨later, hlater, hleave⟩
          refine ⟨opener, hopener, later, ?_, hafter later hlater, hleave⟩
          rw [hsplit]
          simp [hlater]
      rw [hleaves]
      constructor
      · exact fun heq hexists => heading_of_leaves hsplit hopens hopen hexists heq
      · intro hnot
        refine heading_of_not_leaves hsplit hopens hopen fun later hlater => ?_
        rw [← Bool.not_eq_true]
        exact fun hleave => hnot ⟨later, hlater, hleave⟩

/-- A step has the title of the latest scenario or background above it, and its mark that
of the latest one or `Rule`. This is the scenario or background in which it stands exactly
when no `Rule` or `Feature` stands between the two. -/
theorem heading_eq_enclosing_iff (policy : ConjunctionPolicy) (text : String) :
    ∀ step ∈ (extract policy text).steps,
      step.heading = heading text step.line
        ∧ (step.heading = enclosingHeading text step.line
            ↔ ¬ LeavesScenario text step.line) := by
  intro step hstep
  have hheading := heading_of_mem_extract hstep
  refine ⟨hheading, ?_⟩
  rw [hheading]
  exact heading_eq_enclosingHeading_iff text step.line

/-- A scenario below a `Rule` is the enclosing one of its steps. -/
theorem step_below_rule_and_scenario :
    let text := "Background:\n  Given a\nRule: r\n  Scenario: s\n    Given b\n"
    let step : ScriptStep :=
      { kind := .given, keyword := .given, text := "b", written := "Given b", line := 5,
        scenario? := some "s" }
    step ∈ (extract .inherit text).steps
      ∧ step.heading = heading text step.line
      ∧ step.heading = enclosingHeading text step.line
      ∧ ¬ LeavesScenario text step.line := by
  intro text step
  have hstep : step ∈ (extract .inherit text).steps := by
    rw [extract_eq_onePass]
    decide
  obtain ⟨hheading, hiff⟩ := heading_eq_enclosing_iff .inherit text step hstep
  have henclosing : step.heading = enclosingHeading text step.line := by decide
  exact ⟨hstep, hheading, henclosing, hiff.mp henclosing⟩

/-- A step directly under a `Rule` is credited to the scenario before the rule, and one
directly under a `Feature` to the background before it. -/
theorem step_under_rule_keeps_scenario :
    let text := "Feature: f\nScenario: s\n  Given a\nRule: r\n  Given b\nBackground:\n" ++
      "  Given c\nFeature: g\n  Given d\n"
    (extract .inherit text).steps.map (fun step => (step.line, step.heading))
        = [(3, ⟨some "s", false⟩), (5, ⟨some "s", false⟩), (7, ⟨some "Background", true⟩),
            (9, ⟨some "Background", true⟩)]
      ∧ [3, 5, 7, 9].map (enclosingHeading text)
        = [⟨some "s", false⟩, ⟨none, false⟩, ⟨some "Background", true⟩, ⟨none, false⟩]
      ∧ ¬ ∀ step ∈ (extract .inherit text).steps,
          step.heading = enclosingHeading text step.line := by
  intro text
  rw [extract_eq_onePass]
  decide

end Script

end ScenarioSteps
