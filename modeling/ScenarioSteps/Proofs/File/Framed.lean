import ScenarioSteps.File.Assemble
import ScenarioSteps.Proofs.Declaration.Indented
import ScenarioSteps.Proofs.File.Block
import ScenarioSteps.Proofs.File.Header

/-!
# `ScenarioSteps.Proofs.File.Framed`: each step is declared once

A file for `playwright-bdd` has a test for each block, and in it the declarations of its steps,
indented once more. Everything else is a frame of lines that are not indented: the header, the
line that opens a test, the one that closes it and the empty lines between. `Framed` says that a
text is put together of given parts and such frames, and `Registry.framed_assemble` that a file
is, of the declarations of all steps. It follows the file from the inside: frames around the
parts of a block (`Registry.framed_blockText`), then frames around blocks (`Framed.intercalate`).

The parts can be told from the file. A line that begins as a declaration in a block does
(`stepLines`) is in no frame, since it is indented, and a declaration has just one, since its
other lines are indented further or close it. `Registry.assemble_each_once` states both.
-/

set_option autoImplicit false

namespace ScenarioSteps

/-! ### Frames -/

/-- Whole lines of which none is indented. -/
structure IsFrame (text : String) : Prop where
  ends : text.toList.getLast? = some '\n'
  plain : ∀ line ∈ Text.splitBy (· == '\n') text.toList, ¬ bodyIndent.toList <+: line

/-- A text that is put together of the given parts, each once and in their order, and of frames
around them. -/
inductive Framed : List String → String → Prop
  | nil : Framed [] ""
  | frame {frame text : String} {parts : List String} (hframe : IsFrame frame)
      (hrest : Framed parts text) : Framed parts (frame ++ text)
  | part (part : String) {text : String} {parts : List String} (hrest : Framed parts text) :
      Framed (part :: parts) (part ++ text)

namespace Framed

/-- Two framed texts, one behind the other, are framed around the parts of both. -/
theorem append {parts more : List String} {a b : String} (ha : Framed parts a)
    (hb : Framed more b) : Framed (parts ++ more) (a ++ b) := by
  induction ha with
  | nil => rwa [String.empty_append, List.nil_append]
  | frame hframe hrest ih =>
      rw [String.append_assoc]
      exact .frame hframe ih
  | part part hrest ih =>
      rw [String.append_assoc, List.cons_append]
      exact .part part ih

/-- A frame by itself has no part in it. -/
theorem of_frame {frame : String} (h : IsFrame frame) : Framed [] frame := by
  rw [← String.append_empty (s := frame)]
  exact .frame h .nil

/-- A part by itself needs no frame. -/
theorem of_part (part : String) : Framed [part] part := by
  conv => rhs; rw [← String.append_empty (s := part)]
  exact .part part .nil

/-- Texts with a frame between any two. -/
theorem intercalate {α : Type} {separator : String} (hseparator : IsFrame separator)
    {parts : α → List String} {text : α → String} (list : List α)
    (h : ∀ a ∈ list, Framed (parts a) (text a)) :
    Framed (list.flatMap parts) (separator.intercalate (list.map text)) := by
  induction list with
  | nil => exact .nil
  | cons a rest ih =>
      rw [List.forall_mem_cons] at h
      rw [List.map_cons, List.flatMap_cons]
      cases rest with
      | nil =>
          rw [List.map_nil, String.intercalate_singleton, List.flatMap_nil, List.append_nil]
          exact h.1
      | cons b rest =>
          rw [List.map_cons, String.intercalate_cons_cons, String.append_assoc]
          exact h.1.append (.frame hseparator (ih h.2))

end Framed

/-! ### The frames of a file -/

/-- Lines without line feeds that are not indented are a frame. -/
theorem isFrame_of_lines {text : String} {lines : List (List Char)}
    (htext : text.toList = lines.flatMap (· ++ ['\n'])) (hne : lines ≠ [])
    (hlines : ∀ line ∈ lines, '\n' ∉ line) (hplain : ∀ line ∈ lines, ¬ bodyIndent.toList <+: line) :
    IsFrame text where
  ends := by rw [htext, Text.getLast?_flatMap_newline hne]
  plain := by
    rw [htext, ← List.append_nil (lines.flatMap _), Text.splitBy_flatMap_newline hlines,
      List.forall_mem_append]
    exact ⟨hplain, by decide⟩

/-- The header of a file is a frame, as its comments and imports are not indented and no text
from outside ends a line. -/
theorem isFrame_fileHeader (filename : String) (feature? : Option String) (options : Options) :
    IsFrame (fileHeader filename feature? options) := by
  have hlines := FileHeader.lines_not_lineEnd filename feature? options
  refine isFrame_of_lines (FileHeader.toList_fileHeader filename feature? options)
    (List.cons_ne_nil _ _) (fun line hline hmem => hlines line hline _ hmem (by decide)) ?_
  intro line hline
  rw [FileHeader.lines, List.mem_append, List.mem_append, List.mem_cons, List.mem_map,
    List.mem_singleton] at hline
  obtain (hline | rfl | ⟨entry, -, rfl⟩) | rfl := hline
  · exact not_begins (FileHeader.prefix_of_mem_comments hline) (by decide)
  · decide
  · exact not_begins (FileHeader.prefix_importText entry) (by decide)
  · decide

/-- A title is escaped, so it does not end the line. -/
theorem newline_not_mem_opening (fallback : String) (b : Block) :
    '\n' ∉ (b.opening fallback).toList := by
  rw [Block.opening]
  split
  · decide
  · have htitle : '\n' ∉ (Literal.escapeString '\'' (b.scenario?.getD fallback)).toList :=
      fun hmem => Literal.escapeWith_not_lineEnd (Literal.stringChar_not_lineEnd (by decide)) _ _
        hmem (by decide)
    simp only [Literal.quoted, String.toList_append, List.mem_append, not_or]
    exact ⟨⟨by decide, ⟨by decide, htitle⟩, by decide⟩, by decide⟩

/-- A block is opened by a call of `test` or of `test.beforeEach`. -/
theorem prefix_opening (fallback : String) (b : Block) :
    "test".toList <+: (b.opening fallback).toList := by
  rw [Block.opening]
  split
  · exact List.isPrefixOf_iff_prefix.mp (by decide)
  · rw [String.toList_append, String.toList_append, List.append_assoc]
    exact (List.isPrefixOf_iff_prefix.mp (by decide)).trans (List.prefix_append "test(".toList _)

/-- The line that opens a block is a frame, whatever the title holds. -/
theorem isFrame_opening (fallback : String) (b : Block) : IsFrame (b.opening fallback ++ "\n") := by
  have htext : (b.opening fallback ++ "\n").toList
      = [(b.opening fallback).toList].flatMap (· ++ ['\n']) := by
    rw [String.toList_append, List.flatMap_singleton]
    rfl
  exact isFrame_of_lines htext (List.cons_ne_nil _ _)
    (List.forall_mem_singleton.mpr (newline_not_mem_opening fallback b))
    (List.forall_mem_singleton.mpr (not_begins (prefix_opening fallback b) (by decide)))

/-- So is an empty line. -/
theorem isFrame_newline : IsFrame "\n" :=
  ⟨by decide, by decide⟩

/-- So is the line that closes a block. -/
theorem isFrame_closing : IsFrame "\x7d);\n" :=
  ⟨by decide, by decide⟩

namespace Registry

variable (r : Registry) (policy : ConjunctionPolicy) (execution : ExecutionTarget)

/-- The declaration of a step as it stands in a block. -/
def declareInBlock (step : ScriptStep) : String :=
  indent bodyIndent (r.declareStep ⟨.playwrightBdd, execution⟩ step)

/-- A block is framed around the declarations of its steps, each of them indented. -/
theorem framed_blockText (fallback : String) (b : Block) :
    Framed (b.steps.map (r.declareInBlock execution))
      (r.blockText { conjunctions := policy } ⟨.playwrightBdd, execution⟩ fallback b) := by
  have hdeclarations : Framed (b.steps.map (r.declareInBlock execution))
      ("\n".intercalate (b.steps.map (r.declareInBlock execution))) := by
    have hparts := Framed.intercalate isFrame_newline b.steps
      fun step _ => Framed.of_part (r.declareInBlock execution step)
    rwa [← List.map_eq_flatMap] at hparts
  have hblock := (Framed.frame (isFrame_opening fallback b) hdeclarations).append
    (.of_frame isFrame_closing)
  rw [List.append_nil] at hblock
  exact hblock

/-- A file consists of frames and of the declarations of all steps, in the order of the script. -/
theorem framed_assemble (filename text : String) :
    Framed ((Script.extract policy text).steps.map (r.declareInBlock execution))
      (r.assemble { conjunctions := policy } ⟨.playwrightBdd, execution⟩ filename text) := by
  have hblocks := Framed.intercalate isFrame_newline
    (Block.ofSteps (Script.extract policy text).steps) fun b _ =>
      r.framed_blockText policy execution ((Script.extract policy text).feature?.getD filename) b
  rw [← List.map_flatMap, Block.flatMap_steps_ofSteps] at hblocks
  exact .frame (isFrame_fileHeader filename _ _) hblocks

end Registry

/-! ### The first lines of declarations -/

/-- How the first line of a declaration begins in a block. -/
def stepStart : List Char :=
  bodyIndent.toList ++ (Declaration.start .playwrightBdd).toList

/-- The lines of a text on which a declaration of a block begins. -/
def stepLines (text : String) : List (List Char) :=
  (Text.splitBy (· == '\n') text.toList).filter (stepStart.isPrefixOf ·)

/-- Behind a line feed, lines begin anew. -/
theorem stepLines_append {a : String} (ha : a.toList.getLast? = some '\n') (b : String) :
    stepLines (a ++ b) = stepLines a ++ stepLines b := by
  obtain ⟨first, hfirst⟩ := List.getLast?_eq_some_iff.mp ha
  have hempty : (Text.splitBy (· == '\n') []).filter (stepStart.isPrefixOf ·) = [] := by decide
  rw [stepLines, stepLines, stepLines, String.toList_append, hfirst, List.append_assoc,
    List.singleton_append, Text.splitBy_append_cut _ _ _ rfl, Text.splitBy_append_cut _ _ _ rfl,
    List.filter_append, List.filter_append, hempty, List.append_nil]

/-- No line of a frame begins as a declaration in a block does. -/
theorem IsFrame.stepLines_eq_nil {frame : String} (h : IsFrame frame) : stepLines frame = [] := by
  rw [stepLines, List.filter_eq_nil_iff]
  intro line hline hstart
  exact h.plain line hline ((List.prefix_append _ _).trans (List.isPrefixOf_iff_prefix.mp hstart))

/-- Of a text that is put together, the parts alone have such lines. -/
theorem Framed.stepLines_eq {parts : List String} {text : String} (h : Framed parts text)
    (hparts : ∀ part ∈ parts, part.toList.getLast? = some '\n') :
    stepLines text = parts.flatMap stepLines := by
  induction h with
  | nil => rfl
  | frame hframe hrest ih =>
      rw [stepLines_append hframe.ends, hframe.stepLines_eq_nil, List.nil_append, ih hparts]
  | part part hrest ih =>
      rw [List.forall_mem_cons] at hparts
      rw [stepLines_append hparts.1, ih hparts.2, List.flatMap_cons]

/-- The lines that begin with a mark are the same in a text and behind an indentation, as the
mark is not blank. -/
theorem filter_of_forall₂ {start mark : List Char} (hmark : ∃ c ∈ mark, Text.isBlank c = false)
    {lines inner : List (List Char)} (h : List.Forall₂ (IsIndented start) lines inner) :
    inner.filter ((start ++ mark).isPrefixOf ·)
      = (lines.filter (mark.isPrefixOf ·)).map (start ++ ·) := by
  obtain ⟨c, hc, hnot⟩ := hmark
  induction h with
  | nil => rfl
  | @cons line result lines inner hindented hrest ih =>
      cases hindented with
      -- Neither a blank line nor the empty one begins with the mark.
      | blank hblank =>
          have hline : ¬ mark.isPrefixOf line = true := by
            rw [List.isPrefixOf_iff_prefix]
            intro hbegins
            rw [hblank c (hbegins.subset hc)] at hnot
            cases hnot
          have hresult : ¬ (start ++ mark).isPrefixOf [] = true := by
            rw [List.isPrefixOf_iff_prefix, List.prefix_nil, List.append_eq_nil_iff]
            rintro ⟨-, rfl⟩
            cases hc
          rw [List.filter_cons_of_neg hresult, List.filter_cons_of_neg hline, ih]
      | kept hkept =>
          have hsame : (start ++ mark).isPrefixOf (start ++ line) = mark.isPrefixOf line := by
            rw [Bool.eq_iff_iff, List.isPrefixOf_iff_prefix, List.isPrefixOf_iff_prefix,
              List.prefix_append_right_inj]
          rw [List.filter_cons, List.filter_cons, hsame, ih]
          split <;> rfl

/-- Of the lines of a declaration, the first one alone names a step. The lines of the body are
indented or empty. -/
theorem Declaration.filter_lines_format (kind : StepKind) (sentence body : String) :
    (Text.lines (Declaration.format .playwrightBdd kind sentence body).toList).filter
        ((Declaration.start .playwrightBdd).toList.isPrefixOf ·)
      = [Declaration.firstLine .playwrightBdd kind sentence] := by
  obtain ⟨inner, hparts, hinner⟩ :=
    Declaration.splitBy_format .playwrightBdd kind sentence body
  have hopening : Declaration.openingLines .playwrightBdd kind sentence
      = [Declaration.firstLine .playwrightBdd kind sentence] := rfl
  have hfirst : (Declaration.start .playwrightBdd).toList.isPrefixOf
      (Declaration.firstLine .playwrightBdd kind sentence) = true :=
    List.isPrefixOf_iff_prefix.mpr (List.prefix_append _ _)
  -- A declaration starts with a letter, and a line of the body with a blank, if it is not empty.
  have hbody : (inner.map Text.dropReturn).filter
      ((Declaration.start .playwrightBdd).toList.isPrefixOf ·) = [] := by
    rw [List.filter_eq_nil_iff, List.forall_mem_map]
    intro result hresult hstart
    have hprefix := (List.isPrefixOf_iff_prefix.mp hstart).trans (Text.dropReturn_prefix result)
    obtain ⟨line, -, hindented⟩ := exists_of_mem_forall₂ hinner result hresult
    cases hindented with
    | blank hblank => exact absurd hprefix (by decide)
    | kept hkept => exact not_begins (List.prefix_append _ line) (by decide) hprefix
  have hclosing : (Text.ofParts [(Declaration.closing .playwrightBdd).toList]).filter
      ((Declaration.start .playwrightBdd).toList.isPrefixOf ·) = [] := by decide
  rw [Text.lines_eq_ofParts, hparts, hopening, Text.ofParts_append _ (List.cons_ne_nil _ _),
    List.filter_append, hclosing, List.append_nil, List.map_append, List.filter_append, hbody,
    List.append_nil, List.map_singleton, Declaration.dropReturn_firstLine,
    List.filter_cons_of_pos hfirst, List.filter_nil]

namespace Registry

variable (r : Registry) (execution : ExecutionTarget) (step : ScriptStep)

/-- A declaration in a block has one such line, the one that names its step. -/
theorem stepLines_declareInBlock :
    stepLines (r.declareInBlock execution step)
      = [bodyIndent.toList ++ Declaration.firstLine .playwrightBdd step.kind step.text] := by
  have hindent : '\n' ∉ bodyIndent.toList := by decide
  obtain ⟨inner, hparts, hinner⟩ :=
    splitBy_indent hindent (r.declareStep ⟨.playwrightBdd, execution⟩ step)
  have hempty : [[]].filter (stepStart.isPrefixOf ·) = [] := by decide
  rw [stepLines, declareInBlock, hparts, List.filter_append, hempty, List.append_nil,
    stepStart, filter_of_forall₂ ⟨'a', by decide, by decide⟩ hinner]
  exact congrArg (List.map _) (Declaration.filter_lines_format _ _ _)

/-- The last line of a declaration in a block is ended. -/
theorem getLast?_declareInBlock :
    (r.declareInBlock execution step).toList.getLast? = some '\n' := by
  obtain ⟨inner, htext, -⟩ :=
    exists_indent bodyIndent (r.declareStep ⟨.playwrightBdd, execution⟩ step)
  have hlines := stepLines_declareInBlock r execution step
  rw [stepLines, declareInBlock, htext] at hlines
  rw [declareInBlock, htext]
  refine Text.getLast?_flatMap_newline ?_
  -- There is the line that names the step.
  rintro rfl
  cases hlines

/-- Each step is declared once. The blocks of any steps are the one way to split them into runs
of one heading that are not empty and as long as possible, and hold all steps in their order. So a
file for `playwright-bdd` that neither groups steps nor leaves any out is put together of the
indented declarations of all steps, each once and in the order of the script, and of lines around
them that are not indented. Of all its lines, those that begin as a declaration in a block does
are the lines that name the steps, in this order. -/
theorem assemble_each_once :
    (∀ steps blocks, Block.ofSteps steps = blocks ↔ Block.Splits blocks steps)
      ∧ ∀ (r : Registry) (policy : ConjunctionPolicy) (execution : ExecutionTarget)
          (filename text : String),
        let layout : Layout :=
          { groupByKind := false, deduplicate := false, conjunctions := policy }
        let options : Options := ⟨.playwrightBdd, execution⟩
        let steps := (Script.extract policy text).steps
        let file := r.assemble layout options filename text
        Framed (steps.map fun step => indent bodyIndent (r.declareStep options step)) file
          ∧ stepLines file = steps.map fun step =>
              bodyIndent.toList ++ Declaration.firstLine .playwrightBdd step.kind step.text := by
  refine ⟨Block.ofSteps_eq_iff, fun r policy execution filename text => ?_⟩
  have hfile := r.framed_assemble policy execution filename text
  refine ⟨hfile, ?_⟩
  -- The lines around the declarations name no steps, so those of the declarations are left.
  rw [hfile.stepLines_eq, List.flatMap_map]
  · simp only [stepLines_declareInBlock, ← List.map_eq_flatMap]
  · exact List.forall_mem_map.mpr fun step _ => getLast?_declareInBlock r execution step

end Registry

end ScenarioSteps
