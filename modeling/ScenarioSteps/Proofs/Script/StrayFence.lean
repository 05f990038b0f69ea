import ScenarioSteps.Proofs.Script.OnePass
import ScenarioSteps.Proofs.Text.Lines

/-!
# `ScenarioSteps.Proofs.Script.StrayFence`: a fence that nothing closes is inert

`Script.silenceStrays` turns every stray fence of a script into the
comment `#` and keeps every other character, the ends of lines included.
`extract_silenceStrays` proves that nothing is lost or gained by that:
feature, steps with all their fields, and example rows stay the same. It
also says that the scan, which opens a doc string at each fence and goes
back from those that stay open, extracts what the one-pass scan does.

The one-pass scan passes a stray fence as it passes a comment. What has to
be shown is that silencing does not change how the other fences stand: a
doc string that was closed still is, because only lines outside of closed
doc strings are changed (`any_closedBy_silence`).
-/

set_option autoImplicit false

namespace ScenarioSteps

namespace Script

/-- The comment that takes the place of a stray fence. -/
def comment : List Char :=
  ['#']

/-- Lines with each stray fence turned into a comment. -/
def silence (around? : Option Fence) (lines : List (List Char)) : List (List Char) :=
  (marked around? lines).map fun (standing, line) =>
    if standing = .stray then comment else line

/-- A script with each line that is a stray fence turned into a comment. The
ends of the other lines stay as they are. -/
def silenceStrays (text : String) : String :=
  String.ofList (Text.joinLines (silence none (Text.splitBy (· == '\n') text.toList)))

/-- Nothing is silenced in no lines. -/
theorem silence_nil (around? : Option Fence) : silence around? [] = [] := by
  cases around? <;> rfl

/-- A line within a doc string is kept. -/
theorem silence_inside_cons (f : Fence) (line : List Char) (rest : List (List Char)) :
    silence (some f) (line :: rest)
      = line :: silence (if f.closedBy line then none else some f) rest := by
  simp [silence, marked]

/-- A line outside is kept, unless it is a fence that nothing closes. -/
theorem silence_none_cons (line : List Char) (rest : List (List Char)) :
    silence none (line :: rest)
      = match Fence.opening? line with
        | none => line :: silence none rest
        | some f =>
          if rest.any f.closedBy then line :: silence (some f) rest
          else comment :: silence none rest := by
  cases hfence : Fence.opening? line with
  | none => simp [silence, marked, hfence]
  | some f =>
      cases hclosed : rest.any f.closedBy <;>
        simp only [silence, marked, hfence, hclosed] <;> rfl

/-! ### Silencing and the one-pass scan -/

/-- A doc string that is closed stays so: its closing fence is inside. -/
theorem any_closedBy_silence (f : Fence) (lines : List (List Char))
    (h : lines.any f.closedBy = true) : (silence (some f) lines).any f.closedBy = true := by
  induction lines with
  | nil => simp at h
  | cons line rest ih =>
      rw [silence_inside_cons, List.any_cons]
      cases hline : f.closedBy line with
      | true => rfl
      | false =>
          rw [List.any_cons, hline, Bool.false_or] at h
          exact ih h

/-- The one-pass scan of silenced lines. -/
theorem onePass_silence (policy : ConjunctionPolicy) (lines : List (List Char)) :
    ∀ (s : Scan) (doc? : Option OpenDoc) (first : Nat),
      Scan.onePass policy s doc? ((silence (doc?.map OpenDoc.fence) lines).zipIdx first)
        = Scan.onePass policy s doc? (lines.zipIdx first) := by
  induction lines with
  | nil => intro s doc? first; rw [silence_nil]
  | cons line rest ih =>
      intro s doc? first
      cases doc? with
      | some doc =>
          rw [Option.map_some, silence_inside_cons, List.zipIdx_cons, List.zipIdx_cons,
            Scan.onePass, Scan.onePass]
          cases doc.fence.closedBy line with
          | true => exact ih (s.docString doc.close) none (first + 1)
          | false => exact ih s (some (doc.add line)) (first + 1)
      | none =>
          rw [Option.map_none, silence_none_cons, ← OpenDoc.map_fence_of? line,
            List.zipIdx_cons, Scan.onePass]
          cases hdoc : OpenDoc.of? line with
          | none =>
              simp only [Option.map_none, List.zipIdx_cons, Scan.onePass, hdoc]
              exact ih (s.line policy line first) none (first + 1)
          | some doc =>
              simp only [Option.map_some, Fence.any_closedBy_zipIdx]
              cases hclosed : rest.any doc.fence.closedBy with
              | true =>
                  have hstill := any_closedBy_silence doc.fence rest hclosed
                  simp only [if_true, List.zipIdx_cons, Scan.onePass, hdoc,
                    Fence.any_closedBy_zipIdx, hstill]
                  exact ih s (some doc) (first + 1)
              | false =>
                  -- A comment leaves the scan as it is.
                  exact ih s none (first + 1)

/-! ### Silencing and the ends of lines -/

/-- Silencing puts in nothing but comments. -/
theorem mem_silence {around? : Option Fence} {lines : List (List Char)} {line : List Char}
    (h : line ∈ silence around? lines) : line = comment ∨ line ∈ lines := by
  obtain ⟨⟨standing, kept⟩, hmem, rfl⟩ := List.mem_map.mp h
  simp only
  split
  · exact Or.inl rfl
  · right
    rw [← map_snd_marked around? lines]
    exact List.mem_map_of_mem (f := Prod.snd) hmem

/-- No line is taken away. -/
theorem silence_ne_nil {around? : Option Fence} {lines : List (List Char)}
    (h : lines ≠ []) : silence around? lines ≠ [] := by
  rw [← map_snd_marked around? lines] at h
  simpa [silence] using h

/-- The last part of a text, if empty, closes no doc string. -/
theorem any_closedBy_ofParts (f : Fence) (parts : List (List Char)) :
    (Text.ofParts parts).any f.closedBy = parts.any f.closedBy := by
  induction parts with
  | nil => rfl
  | cons part rest ih =>
      cases rest with
      | nil =>
          cases part with
          | nil => cases f <;> rfl
          | cons c part => rfl
      | cons next rest =>
          rw [Text.ofParts_cons part (by simp), List.any_cons, List.any_cons,
            Fence.closedBy_dropReturn, ih]

/-- It does not matter whether fences are silenced before or after the ends of
lines are taken off. -/
theorem silence_ofParts (parts : List (List Char)) :
    ∀ around? : Option Fence,
      silence around? (Text.ofParts parts) = Text.ofParts (silence around? parts) := by
  induction parts with
  | nil => intro around?; cases around? <;> rfl
  | cons part rest ih =>
      intro around?
      cases rest with
      | nil =>
          cases part with
          | nil =>
              cases around? with
              | none => rfl
              | some f => cases f <;> rfl
          | cons c part =>
              -- The last part is not empty and is not made so.
              rw [Text.ofParts]
              cases around? with
              | some f => simp [silence_inside_cons, silence_nil, Text.ofParts]
              | none =>
                  rw [if_neg (by simp), silence_none_cons]
                  cases Fence.opening? (c :: part) with
                  | none => rw [silence_nil]; rfl
                  | some f => simp only [List.any_nil, silence_nil]; rfl
      | cons next rest =>
          have hne (inner? : Option Fence) : silence inner? (next :: rest) ≠ [] :=
            silence_ne_nil (by simp)
          rw [Text.ofParts_cons part (by simp)]
          cases around? with
          | some f =>
              rw [silence_inside_cons, silence_inside_cons, Fence.closedBy_dropReturn, ih,
                Text.ofParts_cons part (hne _)]
          | none =>
              rw [silence_none_cons, silence_none_cons, Fence.opening?_dropReturn]
              cases Fence.opening? part with
              | none => simp only [ih, Text.ofParts_cons part (hne _)]
              | some f =>
                  -- Both sides look ahead over the same fences.
                  simp only [any_closedBy_ofParts]
                  split
                  · rw [ih, Text.ofParts_cons part (hne _)]
                  · rw [ih, Text.ofParts_cons comment (hne _)]
                    rfl

/-- The lines of a silenced script are the silenced lines of the script. -/
theorem lines_silenceStrays (text : String) :
    Text.lines (silenceStrays text).toList = silence none (Text.lines text.toList) := by
  have hparts : ∀ part ∈ silence none (Text.splitBy (· == '\n') text.toList),
      '\n' ∉ part := by
    intro part hpart
    rcases mem_silence hpart with rfl | hpart
    · decide
    · intro hmem
      have hcut := Text.not_mem_of_mem_splitBy _ _ part hpart '\n' hmem
      contradiction
  have hne : silence none (Text.splitBy (· == '\n') text.toList) ≠ [] :=
    silence_ne_nil (Text.splitBy_ne_nil _ _)
  rw [silenceStrays, String.toList_ofList, Text.lines_eq_ofParts,
    Text.splitBy_joinLines _ hne hparts, ← silence_ofParts, Text.lines_eq_ofParts]

/-- A stray fence is inert. Turning all of them into comments changes just these
lines of a script and nothing that is extracted from it. Opening a doc string
at once and going back comes to the same as looking ahead for its end. -/
theorem extract_silenceStrays (policy : ConjunctionPolicy) (text : String) :
    Text.lines (silenceStrays text).toList = silence none (Text.lines text.toList)
      ∧ Script.extract policy (silenceStrays text) = Script.extract policy text
      ∧ Script.extract policy text
          = (Scan.onePass policy {} none ((Text.lines text.toList).zipIdx 1)).script := by
  have honePass := Script.extract_eq_onePass policy text
  refine ⟨lines_silenceStrays text, ?_, honePass⟩
  rw [honePass, Script.extract_eq_onePass, lines_silenceStrays]
  exact congrArg Scan.script (onePass_silence policy _ {} none 1)

end Script

end ScenarioSteps
