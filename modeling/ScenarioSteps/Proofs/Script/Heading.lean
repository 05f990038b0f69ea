import ScenarioSteps.Proofs.Script.Outside

/-!
# `ScenarioSteps.Proofs.Script.Heading`: what the headers above a step say

The `Heading` of a line is the title of the scenario or background around
it and whether it stands in a background. `Script.headingOf` reads it off
the headers above the line, outside of closed doc strings:

* the title is that of the latest header that opens a scenario or a
  background, or the word of that header if it has no title,
* the line stands in a background if the latest header among those and
  `Rule` is a `Background`.

A `Rule` ends a background but keeps the title. `heading_of_mem_extract`
proves that each step of a script has the heading of its line. The scan
holds the heading of the next line at any time (`Scan.Headed`), and a step
takes over what the scan holds.
-/

set_option autoImplicit false

namespace ScenarioSteps

/-- Whether a header opens a scenario or a background. -/
def Header.opensScenario : Header → Bool
  | .background | .scenarioOutline | .scenarioTemplate | .scenario | .single => true
  | .feature | .rule | .examples | .scenarios => false

/-- A header with the number of its line. -/
structure HeaderLine where
  number : Nat
  word : Header
  title : List Char
deriving Repr, DecidableEq

/-- The title above a line, and whether the line stands in a background. -/
structure Heading where
  scenario? : Option String
  background : Bool
deriving Repr, DecidableEq

/-- The heading that a step keeps. -/
def ScriptStep.heading (step : ScriptStep) : Heading :=
  ⟨step.scenario?, step.background⟩

namespace Script

/-- The headers among lines. -/
def headers (lines : List NumberedLine) : List HeaderLine :=
  lines.filterMap fun (line, number) =>
    (headerLine? line).map fun (word, title) => ⟨number, word, title⟩

/-- The latest header with a word of a certain sort. -/
def latest? (sort : Header → Bool) (headers : List HeaderLine) : Option HeaderLine :=
  (headers.filter fun header => sort header.word).getLast?

/-- The heading of a line below headers. -/
def headingOf (headers : List HeaderLine) : Heading where
  scenario? := (latest? Header.opensScenario headers).map fun header =>
    (Scan.nonempty? header.title).getD header.word.text
  background := (latest? (fun word => word.opensScenario || word == .rule) headers).any
    fun header => header.word == .background

/-- The headers of a script above a line and outside of closed doc strings. -/
def headersAbove (text : String) (number : Nat) : List HeaderLine :=
  (headers (outside text)).filter fun header => header.number < number

/-- The header under which a line stands: the latest above it that opens a
scenario or a background. -/
def scenarioHeader? (text : String) (number : Nat) : Option HeaderLine :=
  latest? Header.opensScenario (headersAbove text number)

/-- The heading of a line of a script. -/
def heading (text : String) (number : Nat) : Heading :=
  headingOf (headersAbove text number)

/-! ### One more line -/

/-- A header is the last of the headers so far. -/
theorem headers_concat_of_header {lines : List NumberedLine} {line : NumberedLine}
    {word : Header} {title : List Char} (h : headerLine? line.1 = some (word, title)) :
    headers (lines ++ [line]) = headers lines ++ [⟨line.2, word, title⟩] := by
  simp [headers, h]

/-- No other line adds one. -/
theorem headers_concat_of_none {lines : List NumberedLine} {line : NumberedLine}
    (h : headerLine? line.1 = none) : headers (lines ++ [line]) = headers lines := by
  simp [headers, h]

/-- Among headers and later ones, the later ones are looked at first. -/
theorem latest?_append (sort : Header → Bool) (headers later : List HeaderLine) :
    latest? sort (headers ++ later) = (latest? sort later).or (latest? sort headers) := by
  simp [latest?, List.getLast?_append]

/-- The latest header of a sort is the last one, if it is of the sort. -/
theorem latest?_concat (sort : Header → Bool) (headers : List HeaderLine)
    (header : HeaderLine) :
    latest? sort (headers ++ [header])
      = if sort header.word then some header else latest? sort headers := by
  rw [latest?_append]
  cases h : sort header.word <;> simp [latest?, h]

end Script

namespace Scan

/-- The heading of the next line as a scan holds it. -/
def heading (s : Scan) : Heading :=
  ⟨s.scenario?, s.inBackground⟩

/-- A header changes the heading as it does in the script. -/
theorem heading_header (s : Scan) (headers : List HeaderLine) (header : HeaderLine)
    (h : s.heading = Script.headingOf headers) :
    (s.header header.word header.title).heading = Script.headingOf (headers ++ [header]) := by
  obtain ⟨hscenario, hbackground⟩ := Heading.mk.inj h
  unfold Script.headingOf
  rw [Script.latest?_concat, Script.latest?_concat]
  obtain ⟨number, word, title⟩ := header
  cases word <;> simp [Scan.header, heading, hscenario, hbackground, Header.opensScenario]

/-- A scan that has passed lines holds the heading of the next one, and each of
its steps stands on one of the lines and has the heading of that line. -/
structure Headed (s : Scan) (lines : List NumberedLine) : Prop where
  here : s.heading = Script.headingOf (Script.headers lines)
  steps : ∀ step ∈ s.steps, ∃ before line after, lines = before ++ line :: after
    ∧ step.line = line.2 ∧ step.heading = Script.headingOf (Script.headers before)

/-- A line that is no header keeps what holds, if the steps stay where they are
and the heading does not change. -/
theorem Headed.concat {s s' : Scan} {lines : List NumberedLine} (h : s.Headed lines)
    (line : NumberedLine)
    (hhere : s'.heading = Script.headingOf (Script.headers (lines ++ [line])))
    (hsteps : ∀ step ∈ s'.steps,
      (∃ old ∈ s.steps, step.line = old.line ∧ step.heading = old.heading)
        ∨ (step.line = line.2 ∧ step.heading = s.heading)) :
    s'.Headed (lines ++ [line]) := by
  refine ⟨hhere, fun step hstep => ?_⟩
  rcases hsteps step hstep with ⟨old, hold, hline, hheading⟩ | ⟨hline, hheading⟩
  · obtain ⟨before, own, after, hlines, hownLine, hownHeading⟩ := h.steps old hold
    exact ⟨before, own, after ++ [line], by simp [hlines], hline.trans hownLine,
      hheading.trans hownHeading⟩
  · exact ⟨lines, line, [], rfl, hline, hheading.trans h.here⟩

/-- A row keeps line and heading of every step. -/
theorem mem_steps_row {s : Scan} {cells : List (List Char)} {step : ScriptStep}
    (h : step ∈ (s.row cells).steps) :
    ∃ old ∈ s.steps, step.line = old.line ∧ step.heading = old.heading := by
  have hmap := List.mem_map_of_mem (f := fun step => (step.line, step.heading)) h
  rw [map_steps_row _ (fun _ _ => rfl)] at hmap
  obtain ⟨old, hold, heq⟩ := List.mem_map.mp hmap
  obtain ⟨hline, hheading⟩ := Prod.mk.inj heq
  exact ⟨old, hold, hline.symm, hheading.symm⟩

/-- A row leaves the heading as it was. -/
theorem heading_row (s : Scan) (cells : List (List Char)) :
    (s.row cells).heading = s.heading := by
  unfold row
  split
  · rfl
  · split
    · unfold editLatest
      split <;> rfl
    · rfl

/-- Passing a line keeps what holds. -/
theorem Headed.pass {s : Scan} {lines : List NumberedLine} (policy : ConjunctionPolicy)
    (h : s.Headed lines) (line : NumberedLine) :
    (s.pass policy line).Headed (lines ++ [line]) := by
  have hnone (hclass : ∀ word title, ScriptLine.of line.1 ≠ .header word title) :
      Script.headers (lines ++ [line]) = Script.headers lines :=
    Script.headers_concat_of_none (ScriptLine.headerLine?_eq_none hclass)
  have hold : ∀ step ∈ s.steps,
      ∃ old ∈ s.steps, step.line = old.line ∧ step.heading = old.heading :=
    fun step hstep => ⟨step, hstep, rfl, rfl⟩
  unfold Scan.pass Scan.line
  cases hline : ScriptLine.of line.1 with
  | silent =>
      refine h.concat line ?_ fun step hstep => Or.inl (hold step hstep)
      rw [hnone (by simp [hline]), h.here]
  | fence f mediaType =>
      refine h.concat line ?_ fun step hstep => Or.inl (hold step hstep)
      rw [hnone (by simp [hline]), h.here]
  | row cells =>
      refine h.concat line ?_ fun step hstep => Or.inl (mem_steps_row hstep)
      rw [hnone (by simp [hline]), ← h.here]
      exact heading_row s cells
  | prose =>
      refine h.concat line ?_ fun step hstep => Or.inl (hold step hstep)
      rw [hnone (by simp [hline]), ← h.here]
      rfl
  | header word title =>
      -- The only class of line that changes the heading, here as in the script.
      have hread := ScriptLine.of_eq_header_iff.mp hline
      refine h.concat line ?_ fun step hstep => Or.inl (hold step ?_)
      · rw [Script.headers_concat_of_header hread]
        exact heading_header s _ ⟨line.2, word, title⟩ h.here
      · cases word <;> exact hstep
  | step keyword sentence =>
      refine h.concat line ?_ fun step hstep => ?_
      · rw [hnone (by simp [hline]), ← h.here]
        rfl
      · rcases List.mem_cons.mp hstep with rfl | hmem
        · exact Or.inr ⟨rfl, rfl⟩
        · exact Or.inl (hold step hmem)

/-- What holds after a scan of lines from the start. -/
theorem headed_foldl_pass (policy : ConjunctionPolicy) (lines : List NumberedLine) :
    (lines.foldl (Scan.pass policy) {}).Headed lines := by
  induction lines using List.reverseRecOn with
  | nil => exact ⟨rfl, by simp⟩
  -- `Headed` speaks of the lines passed so far, so lines are added at the end.
  | append_singleton lines line ih =>
      rw [List.foldl_concat]
      exact ih.pass policy line

end Scan

namespace Script

/-- A header has the number of one of the lines it is read from. -/
theorem exists_of_mem_headers {lines : List NumberedLine} {header : HeaderLine}
    (h : header ∈ headers lines) : ∃ line ∈ lines, header.number = line.2 := by
  obtain ⟨line, hline, hread⟩ := List.mem_filterMap.mp h
  obtain ⟨_, -, rfl⟩ := Option.map_eq_some_iff.mp hread
  exact ⟨line, hline, rfl⟩

/-- The headers above a line are those of the lines before it. -/
theorem headersAbove_eq {text : String} {before after : List NumberedLine}
    {line : NumberedLine} (h : outside text = before ++ line :: after) :
    headersAbove text line.2 = headers before := by
  have hpairs := pairwise_outside text
  rw [h, List.pairwise_append] at hpairs
  obtain ⟨-, hafter, hbefore⟩ := hpairs
  -- Lines come in the order of their numbers, so the cut by number is the cut by place.
  have hall : (headers before).filter (fun header => header.number < line.2)
      = headers before := by
    rw [List.filter_eq_self]
    intro header hmem
    obtain ⟨own, hown, hown'⟩ := exists_of_mem_headers hmem
    have hlt := hbefore own hown line (by simp)
    simpa [hown'] using hlt
  have hno : (headers (line :: after)).filter (fun header => header.number < line.2) = [] := by
    rw [List.filter_eq_nil_iff]
    intro header hmem
    obtain ⟨own, hown, hown'⟩ := exists_of_mem_headers hmem
    have hge : line.2 ≤ own.2 := by
      rcases List.mem_cons.mp hown with rfl | hown
      · exact Nat.le_refl _
      · exact Nat.le_of_lt ((List.pairwise_cons.mp hafter).1 own hown)
    simpa [hown'] using hge
  have happend : headers (before ++ line :: after) = headers before ++ headers (line :: after) :=
    List.filterMap_append
  rw [headersAbove, h, happend, List.filter_append, hall, hno, List.append_nil]

/-- A step has the heading of its line. -/
theorem heading_of_mem_extract {policy : ConjunctionPolicy} {text : String}
    {step : ScriptStep} (hstep : step ∈ (extract policy text).steps) :
    step.heading = heading text step.line := by
  -- The doc string does not matter to the heading, so the fold is enough.
  have hmem : step.withoutDoc ∈ ((outside text).foldl (Scan.pass policy) {}).steps := by
    have hmap : step.withoutDoc ∈ (extract policy text).withoutDocs.steps :=
      List.mem_map_of_mem hstep
    rw [withoutDocs_extract] at hmap
    simpa [Scan.script] using hmap
  obtain ⟨before, line, after, hlines, hline, hheading⟩ :=
    (Scan.headed_foldl_pass policy (outside text)).steps _ hmem
  have habove := headersAbove_eq hlines
  calc step.heading = headingOf (headers before) := hheading
    _ = heading text line.2 := by rw [heading, habove]
    _ = heading text step.line := by rw [← hline]; rfl

end Script

end ScenarioSteps
