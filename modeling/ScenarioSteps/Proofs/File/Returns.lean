import ScenarioSteps.File.Assemble
import ScenarioSteps.Proofs.Script.OnePass
import ScenarioSteps.Proofs.Text.Lines

/-!
# `ScenarioSteps.Proofs.File.Returns`: carriage returns in front of line feeds

A script may end its lines with a line feed, or with a carriage return and a line feed. The
lines of both are the same (`Text.lines_withReturns`). A carriage return is a blank and ends a
line of JavaScript, but it never gets beyond the lines: a script is read through its lines alone,
in doc strings and behind stray fences as elsewhere. So nothing that is extracted differs, nor
does a file that is made of it (`Registry.assemble_withReturns`).
-/

set_option autoImplicit false

namespace ScenarioSteps

namespace Text

/-- A text with a carriage return in front of each line feed. -/
def withReturns (cs : List Char) : List Char :=
  cs.flatMap fun c => if c = '\n' then ['\r', '\n'] else [c]

/-- Parts between line feeds with a carriage return behind each but the last. -/
def endReturns : List (List Char) → List (List Char)
  | [] => []
  | [last] => [last]
  | part :: next :: rest => (part ++ ['\r']) :: endReturns (next :: rest)

/-- Every line but the last gets its carriage return. -/
theorem endReturns_cons (part : List Char) {rest : List (List Char)} (hrest : rest ≠ []) :
    endReturns (part :: rest) = (part ++ ['\r']) :: endReturns rest := by
  cases rest with
  | nil => contradiction
  | cons next rest => rfl

/-- No line is lost. -/
theorem endReturns_ne_nil {parts : List (List Char)} (hparts : parts ≠ []) :
    endReturns parts ≠ [] := by
  cases parts with
  | nil => contradiction
  | cons part rest => cases rest <;> exact List.cons_ne_nil _ _

/-- A character in front of the first part is in front of its carriage return. -/
theorem endReturns_cons_cons (c : Char) (part : List Char) (rest : List (List Char)) :
    ∃ first later, endReturns (part :: rest) = first :: later
      ∧ endReturns ((c :: part) :: rest) = (c :: first) :: later := by
  cases rest with
  | nil => exact ⟨part, [], rfl, rfl⟩
  | cons next rest => exact ⟨part ++ ['\r'], endReturns (next :: rest), rfl, rfl⟩

/-- The carriage returns stand at the ends of parts. -/
theorem splitBy_withReturns (cs : List Char) :
    splitBy (· == '\n') (withReturns cs) = endReturns (splitBy (· == '\n') cs) := by
  induction cs with
  | nil => rfl
  | cons c cs ih =>
      rw [withReturns, List.flatMap_cons, ← withReturns]
      by_cases hc : c = '\n'
      · subst hc
        have hcut : splitBy (· == '\n') ('\n' :: cs) = [] :: splitBy (· == '\n') cs := rfl
        rw [hcut, endReturns_cons [] (splitBy_ne_nil _ _), ← ih]
        rfl
      -- The character goes to the first part, whether a carriage return ends it or not.
      · obtain ⟨part, rest, hparts⟩ := List.exists_cons_of_ne_nil (splitBy_ne_nil (· == '\n') cs)
        obtain ⟨first, later, hplain, hfront⟩ := endReturns_cons_cons c part rest
        rw [hparts, hplain] at ih
        have hbeq : ¬ (c == '\n') = true := by simpa using hc
        rw [if_neg hc, List.singleton_append, splitBy, splitBy, if_neg hbeq, if_neg hbeq, ih,
          hparts, hfront]

/-- The lines of parts are the same with the carriage returns behind them. -/
theorem ofParts_endReturns {parts : List (List Char)} (h : ∀ part ∈ parts, '\r' ∉ part) :
    ofParts (endReturns parts) = ofParts parts := by
  induction parts using ofParts.induct with
  | case1 => rfl
  | case2 last hempty => rfl
  | case3 last hempty => rfl
  | case4 part next rest ih =>
      rw [List.forall_mem_cons] at h
      rw [endReturns, ofParts_cons _ (endReturns_ne_nil (List.cons_ne_nil next rest)), ofParts,
        dropReturn_concat, dropReturn_of_not_mem h.1, ih h.2]

/-- A text without carriage returns has the same lines with one in front of each line feed. -/
theorem lines_withReturns {cs : List Char} (h : '\r' ∉ cs) : lines (withReturns cs) = lines cs := by
  rw [lines_eq_ofParts, lines_eq_ofParts, splitBy_withReturns]
  refine ofParts_endReturns fun part hpart hmem => h ?_
  exact mem_of_mem_splitBy hpart hmem

end Text

/-- A script with a carriage return in front of each line feed. -/
def Script.withReturns (text : String) : String :=
  String.ofList (Text.withReturns text.toList)

namespace Registry

/-- Line endings make no difference. A script without carriage returns yields the same with one
in front of each line feed: the same feature, example rows and steps, with their numbers,
headings, doc strings and tables. So does its file, whatever the patterns, the layout, the
options and the name of the file are. -/
theorem assemble_withReturns {text : String} (h : '\r' ∉ text.toList) :
    (∀ policy, Script.extract policy (Script.withReturns text) = Script.extract policy text)
      ∧ ∀ (r : Registry) (layout : Layout) (options : Options) (filename : String),
        r.assemble layout options filename (Script.withReturns text)
          = r.assemble layout options filename text := by
  have hextract (policy : ConjunctionPolicy) :
      Script.extract policy (Script.withReturns text) = Script.extract policy text := by
    rw [Script.extract, Script.withReturns, String.toList_ofList, Text.lines_withReturns h]
    rfl
  refine ⟨hextract, fun r layout options filename => ?_⟩
  rw [assemble, hextract]
  rfl

/-- A script with a doc string, a table and a fence that nothing closes. Its last line has no
end. -/
theorem assemble_withReturns_of_stray_fence :
    let text := "Scenario: s\n  Given x\n  \"\"\"json\n  a \n\n  \"\"\"\n  | c |\n  ```\n  Then y"
    let returns := "Scenario: s\r\n  Given x\r\n  \"\"\"json\r\n  a \r\n\r\n  \"\"\"\r\n  | c |\r\n"
      ++ "  ```\r\n  Then y"
    let given : ScriptStep :=
      { ScriptStep.bare .given .given "x" 2 with
        scenario? := some "s"
        docString? := some ⟨some "json", "a \n"⟩
        table? := some [["c"]] }
    '\r' ∉ text.toList
      ∧ Script.withReturns text = returns
      ∧ (Script.extract .inherit returns).steps
        = [given, { ScriptStep.bare .then .then "y" 9 with scenario? := some "s" }]
      ∧ ∀ (r : Registry) (options : Options),
        r.assemble {} options "f.feature" returns = r.assemble {} options "f.feature" text := by
  intro text returns given
  have htext : '\r' ∉ text.toList := by decide
  have hreturns : Script.withReturns text = returns := by decide
  obtain ⟨hextract, hassemble⟩ := assemble_withReturns htext
  rw [hreturns] at hextract hassemble
  refine ⟨htext, hreturns, ?_, fun r options => hassemble r {} options "f.feature"⟩
  rw [hextract, Script.extract_eq_onePass]
  decide

end Registry

end ScenarioSteps
