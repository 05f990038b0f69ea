import ScenarioSteps.Proofs.Script.Outside
import ScenarioSteps.Proofs.Text.Lines

/-!
# `ScenarioSteps.Proofs.Script.DocStrings`: the media type stands on one line

A doc string takes its media type from the line of its opening fence. So whatever
a script holds, the media types of its doc strings have no line feeds
(`Script.newline_not_mem_mediaType`). Other characters that end a line in generated
source do get into media types, since lines of a script do not end there.

The invariant of the scan is `Scan.DocsFrom`. A line outside of doc strings adds
none to the steps before it (`Scan.docStrings_line`), so only the end of a doc string
needs a look, where the media type is that of the opened one.
-/

set_option autoImplicit false

namespace ScenarioSteps

/-- The media type of an opened doc string stands on the line of its fence. -/
theorem OpenDoc.mem_of_mem_mediaType {line : List Char} {doc : OpenDoc}
    (h : OpenDoc.of? line = some doc) {c : Char} (hc : c ∈ doc.mediaType) : c ∈ line := by
  unfold OpenDoc.of? at h
  split at h
  · next f mediaType hline =>
      cases h
      obtain ⟨rest, htext, rfl⟩ := ScriptLine.of_eq_fence_iff.mp hline
      refine Text.mem_of_mem_trim ?_
      rw [htext]
      exact List.mem_append_right _ (Text.mem_of_mem_trim hc)
  · cases h

namespace Scan

variable {P : Option String → Prop}

/-- All doc strings of a scan have a media type with a property. -/
def DocsFrom (P : Option String → Prop) (s : Scan) : Prop :=
  ∀ doc? ∈ s.steps.map ScriptStep.docString?, ∀ doc ∈ doc?, P doc.mediaType?

/-- A line outside of doc strings adds at most a step without one. -/
theorem docStrings_line (policy : ConjunctionPolicy) (s : Scan) (text : List Char) (number : Nat) :
    (s.line policy text number).steps.map ScriptStep.docString?
        = s.steps.map ScriptStep.docString?
      ∨ (s.line policy text number).steps.map ScriptStep.docString?
        = none :: s.steps.map ScriptStep.docString? := by
  rw [Scan.line]
  cases ScriptLine.of text with
  | silent => exact .inl rfl
  | fence f mediaType => exact .inl rfl
  | row cells => exact .inl (map_steps_row ScriptStep.docString? (fun _ _ => rfl) s cells)
  | header word title => cases word <;> exact .inl rfl
  | step keyword sentence => exact .inr rfl
  | prose => exact .inl rfl

/-- A line outside of doc strings adds none. -/
theorem DocsFrom.line {s : Scan} (h : s.DocsFrom P) (policy : ConjunctionPolicy)
    (text : List Char) (number : Nat) :
    (s.line policy text number).DocsFrom P := by
  rcases docStrings_line policy s text number with hsame | hmore
  · rw [DocsFrom, hsame]
    exact h
  · rw [DocsFrom, hmore, List.forall_mem_cons]
    exact ⟨fun doc hdoc => (Option.not_mem_none doc hdoc).elim, h⟩

/-- A doc string goes to the latest step, or nowhere. -/
theorem DocsFrom.docString {s : Scan} (h : s.DocsFrom P) {doc : DocString}
    (hdoc : P doc.mediaType?) :
    (s.docString doc).DocsFrom P := by
  unfold Scan.docString
  split
  · unfold editLatest
    -- The doc string replaces the one of the latest step.
    cases hsteps : s.steps with
    | nil => exact h
    | cons latest earlier =>
        rw [DocsFrom, hsteps, List.map_cons, List.forall_mem_cons] at h
        show ∀ doc? ∈ some doc :: earlier.map ScriptStep.docString?, _
        rw [List.forall_mem_cons]
        refine ⟨?_, h.2⟩
        rintro doc' hdoc'
        cases hdoc'
        exact hdoc
  · exact h

/-- The media type of each doc string is that of an opened one. -/
theorem DocsFrom.onePass (policy : ConjunctionPolicy) {lines : List NumberedLine}
    (hlines : ∀ line ∈ lines, ∀ doc, OpenDoc.of? line.1 = some doc → P (nonempty? doc.mediaType)) :
    ∀ (s : Scan) (doc? : Option OpenDoc), s.DocsFrom P →
      (∀ doc ∈ doc?, P (nonempty? doc.mediaType)) →
      (Scan.onePass policy s doc? lines).DocsFrom P := by
  induction lines with
  | nil =>
      intro s doc? hs _
      rw [Scan.onePass]
      exact hs
  | cons line rest ih =>
      rw [List.forall_mem_cons] at hlines
      have ih := ih hlines.2
      intro s doc? hs hdoc?
      cases doc? with
      | some doc =>
          have hdoc : P (nonempty? doc.mediaType) := hdoc? doc rfl
          rw [Scan.onePass]
          split
          · exact ih _ none (hs.docString hdoc) (by simp)
          · -- What a doc string holds does not matter to its media type.
            refine ih s (some (doc.add line.1)) hs ?_
            rintro _ ⟨⟩
            exact hdoc
      | none =>
          rw [Scan.onePass]
          cases hopened : OpenDoc.of? line.1 with
          | none => exact ih _ none (hs.line policy line.1 line.2) (by simp)
          | some doc =>
              simp only
              split
              · refine ih s (some doc) hs ?_
                rintro _ ⟨⟩
                exact hlines.1 doc hopened
              · exact ih s none hs (by simp)

end Scan

namespace Script

/-- No media type of an extracted doc string has a line feed. -/
theorem newline_not_mem_mediaType {policy : ConjunctionPolicy} {text : String} {step : ScriptStep}
    (hstep : step ∈ (extract policy text).steps) {doc : DocString} (hdoc : step.docString? = some doc)
    {media : String} (hmedia : doc.mediaType? = some media) : '\n' ∉ media.toList := by
  -- A media type is a part of a line, and no line has a line feed in it.
  have hlines : ∀ line ∈ (Text.lines text.toList).zipIdx 1, ∀ doc,
      OpenDoc.of? line.1 = some doc →
        ∀ media ∈ Scan.nonempty? doc.mediaType, '\n' ∉ media.toList := by
    intro line hline doc hopened media hmedia
    have hmem : line.1 ∈ Text.lines text.toList := List.fst_mem_of_mem_zipIdx hline
    unfold Scan.nonempty? at hmedia
    split at hmedia
    · cases hmedia
    · cases hmedia
      rw [String.toList_ofList]
      exact fun hc => Text.newline_not_mem_lines hmem (OpenDoc.mem_of_mem_mediaType hopened hc)
  have hempty : ({} : Scan).DocsFrom fun media? => ∀ media ∈ media?, '\n' ∉ media.toList := by
    simp [Scan.DocsFrom]
  have hdocs := Scan.DocsFrom.onePass policy hlines {} none hempty (by simp)
  rw [extract_eq_onePass, Scan.script, List.mem_reverse] at hstep
  exact hdocs _ (List.mem_map_of_mem hstep) doc hdoc media hmedia

end Script

end ScenarioSteps
