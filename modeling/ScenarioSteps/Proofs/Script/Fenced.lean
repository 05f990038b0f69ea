import ScenarioSteps.Proofs.Script.Parts
import ScenarioSteps.Proofs.Text.Lines

/-!
# `ScenarioSteps.Proofs.Script.Fenced`: a written doc string is read back

`Fence.block` writes a doc string: a fence with its media type, the lines of content, and the
fence again, all behind one indentation. `Script.extract_fenced` is what a scan makes of it
below a step: the media type and the content, line by line as they were.

The reader drops as many blanks from each line of content as stand in front of the fence.
These are those of the indentation, and a line keeps the blanks of its own
(`Text.dropIndent_append`). Only a line that is empty may have lost one: where the indentation
ends with a carriage return, this goes with the end of the line, and fewer blanks are left to
drop (`Text.dropIndent_dropReturn`).

What the lines hold does not matter, since inside a doc string the scan looks for the closing
fence and for nothing else.
-/

set_option autoImplicit false

namespace ScenarioSteps

namespace Text

/-! ### Indented lines -/

/-- From an indented line, its indentation is dropped. -/
theorem dropIndent_append {blanks : List Char} (hblanks : ∀ c ∈ blanks, isBlank c = true)
    (cs : List Char) : dropIndent blanks.length (blanks ++ cs) = cs := by
  induction blanks with
  | nil => rfl
  | cons c blanks ih =>
      rw [List.forall_mem_cons] at hblanks
      rw [List.length_cons, List.cons_append, dropIndent, if_pos hblanks.1, ih hblanks.2]

/-- From too few blanks, all are dropped. -/
theorem dropIndent_of_length_le {blanks : List Char} (hblanks : ∀ c ∈ blanks, isBlank c = true)
    {n : Nat} (hlength : blanks.length ≤ n) : dropIndent n blanks = [] := by
  induction blanks generalizing n with
  | nil => cases n <;> rfl
  | cons c blanks ih =>
      rw [List.forall_mem_cons] at hblanks
      cases n with
      | zero => simp at hlength
      | succ n =>
          rw [dropIndent, if_pos hblanks.1, ih hblanks.2 (Nat.le_of_succ_le_succ hlength)]

/-- The end of its line takes nothing from an indented text that does not end with a carriage
return. -/
theorem dropIndent_dropReturn {blanks cs : List Char} (hblanks : ∀ c ∈ blanks, isBlank c = true)
    (hcs : cs.getLast? ≠ some '\r') :
    dropIndent blanks.length (dropReturn (blanks ++ cs)) = cs := by
  -- Where the text is empty, the carriage return may be the last one of the blanks.
  cases hlast : cs.getLast? with
  | none =>
      obtain rfl := List.getLast?_eq_none_iff.mp hlast
      rw [List.append_nil]
      unfold dropReturn
      split
      · exact dropIndent_of_length_le (fun c hc => hblanks c (List.dropLast_subset _ hc))
          (by simp)
      · exact dropIndent_of_length_le hblanks (Nat.le_refl _)
  | some last =>
      have hboth : (blanks ++ cs).getLast? = some last := by
        rw [List.getLast?_append, hlast, Option.some_or]
      rw [dropReturn_of_getLast? hboth (by simpa [hlast] using hcs), dropIndent_append hblanks]

end Text

namespace Fence

/-- The lines of a doc string with an indentation. -/
def block (f : Fence) (indent mediaType : List Char) (content : List (List Char)) :
    List (List Char) :=
  (indent ++ (f.text ++ mediaType)) :: (content.map (indent ++ ·) ++ [indent ++ f.text])

variable {f : Fence} {indent mediaType : List Char}

/-- Blanks in front of a line do not matter to whether it closes a doc string. -/
theorem closedBy_append (hindent : ∀ c ∈ indent, Text.isBlank c = true) (line : List Char) :
    f.closedBy (indent ++ line) = f.closedBy line := by
  rw [closedBy, closedBy, Text.trimStart, Text.trimStart, List.dropWhile_append_of_pos hindent]

/-- A fence with a trimmed media type is trimmed. -/
theorem trim_text_append (f : Fence) (hmedia : Text.trim mediaType = mediaType) :
    Text.trim (f.text ++ mediaType) = f.text ++ mediaType := by
  refine Text.trim_eq_self ?_ ?_
  · cases f <;> rintro _ ⟨⟩ <;> decide
  · intro c hc
    rw [List.getLast?_append] at hc
    cases hlast : mediaType.getLast? with
    | none =>
        rw [hlast, Option.none_or] at hc
        exact f.not_blank c (List.mem_of_getLast? hc)
    | some last =>
        rw [hlast, Option.some_or] at hc
        exact Text.isBlank_getLast?_of_trim hmedia c (hlast.trans hc)

/-- The line of a fence is trimmed to the fence and its media type. -/
theorem trim_opening (f : Fence) (hindent : ∀ c ∈ indent, Text.isBlank c = true)
    (hmedia : Text.trim mediaType = mediaType) :
    Text.trim (indent ++ (f.text ++ mediaType)) = f.text ++ mediaType := by
  rw [Text.trim_append hindent, f.trim_text_append hmedia]

/-- The line of a fence does not end with a carriage return. -/
theorem exists_getLast?_append (f : Fence) (hmedia : Text.trim mediaType = mediaType)
    (indent : List Char) :
    ∃ last, (indent ++ (f.text ++ mediaType)).getLast? = some last ∧ last ≠ '\r' := by
  have hne : f.text ++ mediaType ≠ [] := by cases f <;> exact List.cons_ne_nil _ _
  have hlast := List.getLast?_eq_some_getLast hne
  refine ⟨(f.text ++ mediaType).getLast hne, by rw [List.getLast?_append, hlast, Option.some_or], ?_⟩
  intro hreturn
  have hblank := Text.isBlank_getLast?_of_trim (f.trim_text_append hmedia) _ hlast
  rw [hreturn] at hblank
  cases hblank

/-- A written doc string is read as its media type and its content. -/
theorem ofLines_block (f : Fence) (hindent : ∀ c ∈ indent, Text.isBlank c = true)
    (hmedia : Text.trim mediaType = mediaType) {content : List (List Char)}
    (hcontent : ∀ line ∈ content, line.getLast? ≠ some '\r') :
    DocString.ofLines f (indent ++ (f.text ++ mediaType))
        (content.map fun line => Text.dropReturn (indent ++ line))
      = ⟨Scan.nonempty? mediaType, String.ofList (Text.joinLines content)⟩ := by
  have hblanks : (indent ++ (f.text ++ mediaType)).takeWhile Text.isBlank = indent := by
    rw [List.takeWhile_append_of_pos hindent]
    cases f <;> exact List.append_nil indent
  have hlines : (content.map fun line => Text.dropReturn (indent ++ line)).map
      (Text.dropIndent indent.length) = content := by
    rw [List.map_map]
    exact (List.map_congr_left fun line hline =>
      Text.dropIndent_dropReturn hindent (hcontent line hline)).trans (List.map_id content)
  rw [DocString.ofLines, f.trim_opening hindent hmedia, hblanks, hlines, List.drop_left, hmedia]

end Fence

namespace Script

/-- The lines of a script that is a line and a doc string below it, with or without a line feed
at its end. -/
theorem lines_of_block (f : Fence) {line indent mediaType : List Char}
    {content ending : List (List Char)} (hending : ending = [] ∨ ending = [[]])
    (hline : '\n' ∉ line) (hindent : '\n' ∉ indent)
    (hmedia : Text.trim mediaType = mediaType) (hnewline : '\n' ∉ mediaType)
    (hcontent : ∀ inner ∈ content, '\n' ∉ inner) :
    Text.lines (Text.joinLines (line :: (f.block indent mediaType content ++ ending)))
      = Text.dropReturn line :: (indent ++ (f.text ++ mediaType))
        :: ((content.map fun inner => Text.dropReturn (indent ++ inner)) ++ [indent ++ f.text]) := by
  have hfence : '\n' ∉ f.text := by cases f <;> decide
  have hall : ∀ part ∈ line :: (f.block indent mediaType content ++ ending), '\n' ∉ part := by
    have hends : ∀ part ∈ ending, '\n' ∉ part := by
      rcases hending with rfl | rfl <;> simp
    simpa [Fence.block, hline, hindent, hnewline, hfence, or_imp, forall_and] using
      ⟨hcontent, hends⟩
  have hempty : Text.trim [] = [] := rfl
  -- Neither fence ends with a carriage return, so both stay as they are.
  obtain ⟨first, hfirst, hfirst'⟩ := f.exists_getLast?_append hmedia indent
  obtain ⟨last, hlast, hlast'⟩ := f.exists_getLast?_append hempty indent
  rw [List.append_nil] at hlast
  have hbehind : Text.ofParts ending = [] := by
    rcases hending with rfl | rfl <;> rfl
  have hsplit : line :: (f.block indent mediaType content ++ ending)
      = (line :: (indent ++ (f.text ++ mediaType)) :: content.map (indent ++ ·))
        ++ (indent ++ f.text) :: ending := by
    simp [Fence.block]
  rw [Text.lines_joinLines hall, hsplit, Text.ofParts_append _ (List.cons_ne_nil _ _),
    Text.ofParts_cons_of_getLast? hlast hlast', hbehind, List.map_cons, List.map_cons,
    Text.dropReturn_of_getLast? hfirst hfirst', List.map_map]
  rfl

/-- A line that opens no doc string and a doc string below it are the parts of a script with
these lines. -/
theorem partsFrom_block (f : Fence) {line indent mediaType : List Char}
    {content : List (List Char)} (hline : Fence.opening? line = none)
    (hindent : ∀ c ∈ indent, Text.isBlank c = true) (hmedia : Text.trim mediaType = mediaType)
    (hcontent : ∀ inner ∈ content, inner.getLast? ≠ some '\r' ∧ ¬ f.text <+: Text.trimStart inner) :
    partsFrom ((line :: (indent ++ (f.text ++ mediaType))
        :: ((content.map fun inner => Text.dropReturn (indent ++ inner)) ++ [indent ++ f.text])).zipIdx 1)
      = [.line (line, 1), .docString
        ⟨Scan.nonempty? mediaType, String.ofList (Text.joinLines content)⟩] := by
  have hopening : Fence.opening? (indent ++ (f.text ++ mediaType)) = some f := by
    rw [Fence.opening?_eq_some_iff, f.trim_opening hindent hmedia]
    exact List.prefix_append _ _
  have hclosing : f.closedBy (indent ++ f.text) = true := by
    rw [Fence.closedBy_append hindent]
    cases f <;> rfl
  -- No line of the content closes the fence, since none begins with it.
  have hinner : ∀ numbered ∈ (content.map fun inner => Text.dropReturn (indent ++ inner)).zipIdx 3,
      f.closedBy numbered.1 = false := by
    intro numbered hmem
    obtain ⟨inner, hinner, hread⟩ := List.mem_map.mp (List.fst_mem_of_mem_zipIdx hmem)
    rw [← hread, Fence.closedBy_dropReturn, Fence.closedBy_append hindent, ← Bool.not_eq_true,
      Fence.closedBy, List.isPrefixOf_iff_prefix]
    exact (hcontent inner hinner).2
  have hnone (rest : List NumberedLine) : closedFence? line rest = none := by
    rw [closedFence?, hline, Option.filter_none]
  rw [List.zipIdx_cons, List.zipIdx_cons, List.zipIdx_append, List.zipIdx_cons, List.zipIdx_nil,
    partsFrom_cons_of_none (hnone _), partsFrom_cons_of_closed hopening hinner hclosing,
    List.zipIdx_map_fst, f.ofLines_block hindent hmedia fun inner hinner => (hcontent inner hinner).1,
    partsFrom]

/-- A doc string that is written below a step is read back. The script is a step, a fence with
a trimmed media type, lines of content, and the same fence, and the last three stand behind
one indentation. Content may be anything on its line but what begins with the fence, and does
not end with a carriage return, which would belong to the end of its line. -/
theorem extract_fenced (policy : ConjunctionPolicy) (f : Fence) {text : String}
    {line sentence indent mediaType : List Char} {keyword : Keyword}
    {content ending : List (List Char)}
    (htext : text.toList
      = Text.joinLines (line :: (f.block indent mediaType content ++ ending)))
    (hending : ending = [] ∨ ending = [[]])
    (hline : '\n' ∉ line) (hstep : stepLine? line = some (keyword, sentence))
    (hindent : ∀ c ∈ indent, Text.isBlank c = true ∧ c ≠ '\n')
    (hmedia : Text.trim mediaType = mediaType) (hnewline : '\n' ∉ mediaType)
    (hcontent : ∀ inner ∈ content, '\n' ∉ inner ∧ inner.getLast? ≠ some '\r'
      ∧ ¬ f.text <+: Text.trimStart inner) :
    extract policy text
      = { feature? := none
          steps := [
            { kind := ({} : Scan).kindOf policy keyword
              keyword
              text := String.ofList sentence
              written := String.ofList (Text.trim line)
              line := 1
              docString? := some
                { mediaType? := if mediaType = [] then none else some (String.ofList mediaType)
                  content := String.ofList (Text.joinLines content) } }]
          exampleRows := [] } := by
  have hblank : ∀ c ∈ indent, Text.isBlank c = true := fun c hc => (hindent c hc).1
  have hclass : ScriptLine.of (Text.dropReturn line) = .step keyword sentence := by
    rw [ScriptLine.of_eq_step_iff, stepLine?_dropReturn, hstep]
  have hnone : Fence.opening? (Text.dropReturn line) = none := by
    rw [← OpenDoc.map_fence_of?, OpenDoc.of?, hclass, Option.map_none]
  have hmedia? : Scan.nonempty? mediaType
      = if mediaType = [] then none else some (String.ofList mediaType) := by
    simp [Scan.nonempty?]
  rw [extract_eq_foldl, parts, htext,
    lines_of_block f hending hline (fun hc => (hindent _ hc).2 rfl) hmedia hnewline
      fun inner hinner => (hcontent inner hinner).1,
    partsFrom_block f hnone hblank hmedia fun inner hinner => (hcontent inner hinner).2, ← hmedia?]
  -- What is left to scan are a step and the doc string that goes to it.
  simp only [List.foldl_cons, List.foldl_nil, Scan.passPart, Scan.pass, Scan.line, hclass,
    Text.trim_dropReturn]
  rfl

/-- Content that looks like a step, a row, a comment or the other fence comes back with the
blanks of its own, also from behind an indentation that ends with a carriage return. -/
theorem extract_fenced_lookalikes :
    let text :=
      "* I send\n \r```json x\n \r  Given | a |\n \r\n \r| b |\n \r\"\"\"\n \r# ```\n \r```\n"
    extract .inherit text
      = { feature? := none
          steps := [
            { kind := .given
              keyword := .star
              text := "I send"
              written := "* I send"
              line := 1
              docString? := some
                { mediaType? := some "json x"
                  content := "  Given | a |\n\n| b |\n\"\"\"\n# ```" } }]
          exampleRows := [] } := by
  intro text
  -- The text is a line and a block, with one empty line for the last line feed.
  have htext : text.toList
      = Text.joinLines ("* I send".toList :: (Fence.backticks.block [' ', '\r'] "json x".toList
          ["  Given | a |".toList, [], "| b |".toList, "\"\"\"".toList, "# ```".toList]
        ++ [[]])) := by decide
  have hstep : stepLine? "* I send".toList = some (.star, "I send".toList) := by decide
  have hindent : ∀ c ∈ [' ', '\r'], Text.isBlank c = true ∧ c ≠ '\n' :=
    List.all_iff_forall_prop.mp (by decide)
  exact extract_fenced .inherit .backticks htext (.inr rfl) (by decide) hstep hindent
    (by decide) (by decide) (by decide)

end Script

end ScenarioSteps
