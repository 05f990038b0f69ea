import ScenarioSteps.Declaration.Step
import ScenarioSteps.Proofs.Literal.Escape
import ScenarioSteps.Proofs.Script.OnePass
import ScenarioSteps.Proofs.Text.Lines

/-!
# `ScenarioSteps.Proofs.Declaration.Context`: what is attached stays in comments

What is attached to a step stands in front of its body as comments. A comment
ends with its line, and JavaScript ends a line at four characters
(`Literal.lineEnds`). So text of a script stays in comments if each line of
the context is empty or begins with two slashes (`Literal.IsSilent`).

The lines of a doc string and the cells of a table are escaped and stay in
comments whatever they hold. The media type of a doc string is not escaped.
`declareStep_silent_iff` says that it alone decides, and how: what
follows a line end in it must be silent again.
`media_type_leaves_comment` is a script whose media type gets out.
-/

set_option autoImplicit false

namespace ScenarioSteps

namespace Literal

/-- The lines of a text, as JavaScript ends them. -/
def sourceLines (text : List Char) : List (List Char) :=
  Text.splitBy (lineEnds.contains ·) text

/-- A line that holds nothing but perhaps a comment. -/
def IsSilent (line : List Char) : Prop :=
  line = [] ∨ ['/', '/'] <+: line

instance (line : List Char) : Decidable (IsSilent line) :=
  inferInstanceAs (Decidable (line = [] ∨ ['/', '/'] <+: line))

/-- A text whose lines all are silent. -/
def AllSilent (text : List Char) : Prop :=
  ∀ line ∈ sourceLines text, IsSilent line

instance (text : List Char) : Decidable (AllSilent text) :=
  inferInstanceAs (Decidable (∀ line ∈ sourceLines text, IsSilent line))

/-- The test for a line end and the statement that there is none agree. -/
theorem contains_lineEnds_eq_false {c : Char} (hc : c ∉ lineEnds) :
    lineEnds.contains c = false := by
  simpa using hc

/-- A text without line ends is one line. -/
theorem sourceLines_of_forall {text : List Char} (h : ∀ c ∈ text, c ∉ lineEnds) :
    sourceLines text = [text] :=
  Text.splitBy_of_forall _ _ fun c hc => contains_lineEnds_eq_false (h c hc)

/-- A text has no line ends if it has none of the characters. -/
theorem countP_lineEnds_eq_zero_iff {text : List Char} :
    text.countP (lineEnds.contains ·) = 0 ↔ ∀ c ∈ text, c ∉ lineEnds := by
  rw [List.countP_eq_zero]
  exact forall₂_congr fun c _ => not_congr List.contains_iff_mem

/-- Nothing at all is silent. -/
theorem allSilent_nil : AllSilent [] := by
  decide

/-- A text can be cut at a line feed, since a line of JavaScript ends there. -/
theorem allSilent_append_newline (text rest : List Char) :
    AllSilent (text ++ '\n' :: rest) ↔ AllSilent text ∧ AllSilent rest := by
  rw [AllSilent, sourceLines, Text.splitBy_append_cut _ _ _ (by decide)]
  exact List.forall_mem_append

/-- A comment that begins with text of its own is silent if all further lines are. -/
theorem allSilent_comment_iff {comment : List Char} (hcomment : ['/', '/'] <+: comment)
    (hends : ∀ c ∈ comment, c ∉ lineEnds) (text : List Char) :
    AllSilent (comment ++ text) ↔ ∀ line ∈ (sourceLines text).tail, IsSilent line := by
  obtain ⟨part, hpart⟩ := Text.splitBy_append_of_forall (lineEnds.contains ·) comment text
    fun c hc => contains_lineEnds_eq_false (hends c hc)
  rw [AllSilent, sourceLines, hpart, List.forall_mem_cons]
  exact and_iff_right (.inr (hcomment.trans (List.prefix_append comment part)))

/-- A comment on a line of its own is silent. -/
theorem allSilent_commentLine {comment : List Char} (hcomment : ['/', '/'] <+: comment)
    (hends : ∀ c ∈ comment, c ∉ lineEnds) (rest : List Char) :
    AllSilent (comment ++ '\n' :: rest) ↔ AllSilent rest := by
  rw [allSilent_append_newline, ← List.append_nil comment, allSilent_comment_iff hcomment hends]
  exact and_iff_right (by decide)

end Literal

namespace ScriptStep

open Literal

/-- The comment on a line of a doc string. -/
def docLine (line : List Char) : List Char :=
  "//   ".toList ++ line.flatMap commentChar

/-- The comment on a row of a table. -/
def tableLine (cells : List String) : List Char :=
  "//   | ".toList ++ (" | ".intercalate (cells.map escapeComment)).toList ++ " |".toList

/-- The first line of the comment on a doc string, up to its media type. -/
def docOpening (mediaType? : Option String) : List Char :=
  match mediaType? with
  | some _ => "// Doc string (".toList
  | none => "// Doc string".toList

/-- The rest of that line. -/
def docHeading (mediaType? : Option String) : List Char :=
  match mediaType? with
  | some media => media.toList ++ [')', ':']
  | none => [':']

/-- A doc string becomes a line with its media type and one for each line of it. -/
theorem toList_docComment (doc : DocString) :
    (docComment doc).toList = docOpening doc.mediaType? ++ (docHeading doc.mediaType? ++ '\n' ::
      (Text.lines doc.content.toList).flatMap (fun line => docLine line ++ ['\n'])) := by
  obtain ⟨mediaType?, content⟩ := doc
  unfold docComment docOpening docHeading docLine
  cases mediaType? <;>
    simp only [String.toList_append, String.toList_ofList, String.reduceToList,
      List.append_assoc, List.cons_append, List.nil_append]

/-- A table becomes a line that announces it and one for each row. -/
theorem toList_tableComment (table : Table) :
    (tableComment table).toList = "// Data table:".toList ++ '\n' ::
      table.flatMap (fun cells => tableLine cells ++ ['\n']) := by
  unfold tableComment tableLine
  simp only [String.toList_append, String.toList_join, List.flatMap_map, String.reduceToList,
    List.append_assoc, List.cons_append, List.nil_append]

/-- No line of a doc string ends the comment that it stands in. -/
theorem docLine_not_lineEnd (line : List Char) : ∀ c ∈ docLine line, c ∉ lineEnds := by
  have hslashes : ∀ c ∈ "//   ".toList, c ∉ lineEnds := List.all_iff_forall_prop.mp (by decide)
  rw [docLine, List.forall_mem_append]
  refine ⟨hslashes, fun c hc => ?_⟩
  obtain ⟨d, -, hd⟩ := List.mem_flatMap.mp hc
  exact commentChar_not_lineEnd d c hd

/-- Nor do the cells of a row. -/
theorem tableLine_not_lineEnd (cells : List String) : ∀ c ∈ tableLine cells, c ∉ lineEnds := by
  have hcells : ∀ c ∈ (" | ".intercalate (cells.map escapeComment)).toList, c ∉ lineEnds := by
    rw [String.toList_intercalate, List.map_map]
    refine Text.forall_mem_intercalate (List.all_iff_forall_prop.mp (by decide)) ?_
    intro part hpart
    obtain ⟨cell, -, rfl⟩ := List.mem_map.mp hpart
    exact escapeComment_not_lineEnd cell
  unfold tableLine
  simp only [List.forall_mem_append]
  exact ⟨⟨List.all_iff_forall_prop.mp (by decide), hcells⟩,
    List.all_iff_forall_prop.mp (by decide)⟩

/-- Comments on lines of their own are silent. -/
theorem allSilent_flatMap {α : Type} (comment : α → List Char)
    (hcomment : ∀ a, ['/', '/'] <+: comment a) (hends : ∀ a, ∀ c ∈ comment a, c ∉ lineEnds)
    (list : List α) (rest : List Char) :
    AllSilent (list.flatMap (fun a => comment a ++ ['\n']) ++ rest) ↔ AllSilent rest := by
  induction list with
  | nil => rfl
  | cons a list ih =>
      rw [List.flatMap_cons, List.append_assoc, List.append_assoc, List.singleton_append,
        allSilent_commentLine (hcomment a) (hends a), ih]

/-- Only the media type of a doc string decides whether the context of a step
is silent. -/
theorem allSilent_context_iff (step : ScriptStep) :
    AllSilent step.context.toList
      ↔ ∀ doc ∈ step.docString?, ∀ media ∈ doc.mediaType?,
          ∀ line ∈ (sourceLines (media.toList ++ [')', ':'])).tail, IsSilent line := by
  have htable : AllSilent ((step.table?.map tableComment).getD "").toList := by
    cases step.table? with
    | none => exact allSilent_nil
    | some table =>
        have hends : ∀ c ∈ "// Data table:".toList, c ∉ lineEnds :=
          List.all_iff_forall_prop.mp (by decide)
        rw [Option.map_some, Option.getD_some, toList_tableComment,
          allSilent_commentLine (by decide) hends, ← List.append_nil (List.flatMap _ table),
          allSilent_flatMap tableLine (fun cells => ⟨_, rfl⟩) tableLine_not_lineEnd]
        exact allSilent_nil
  rw [context, String.toList_append]
  cases step.docString? with
  | none => simpa using htable
  | some doc =>
      have hends : ∀ c ∈ docOpening doc.mediaType?, c ∉ lineEnds := by
        unfold docOpening
        split <;> exact List.all_iff_forall_prop.mp (by decide)
      have hcomment : ['/', '/'] <+: docOpening doc.mediaType? := by
        unfold docOpening
        split <;> decide
      -- All lines behind the heading are comments of their own, so only the heading is left.
      rw [Option.map_some, Option.getD_some, toList_docComment, ← List.append_assoc,
        List.append_assoc _ ('\n' :: _), List.cons_append, allSilent_append_newline,
        allSilent_comment_iff hcomment hends, allSilent_flatMap docLine (fun line => ⟨_, rfl⟩)
          docLine_not_lineEnd, and_iff_left htable]
      cases hmedia : doc.mediaType? with
      | none => simp [docHeading, hmedia]; decide
      | some media => simp [docHeading, hmedia]

end ScriptStep

namespace Registry

/-- The declaration of a step puts its context in front of the body. All lines
of the context are silent if and only if those are that line ends in the media
type of the doc string begin. -/
theorem declareStep_silent_iff (r : Registry) (options : Options) (step : ScriptStep) :
    r.declareStep options step
        = Declaration.opening options.output step.kind step.text
          ++ indent bodyIndent (step.context ++ (r.body options step.text).text)
          ++ Declaration.closing options.output
      ∧ (Literal.AllSilent step.context.toList
        ↔ ∀ doc ∈ step.docString?, ∀ media ∈ doc.mediaType?,
            ∀ line ∈ (Literal.sourceLines (media.toList ++ [')', ':'])).tail,
              Literal.IsSilent line) :=
  ⟨rfl, step.allSilent_context_iff⟩

/-- A line separator in a media type ends the comment, and the rest of the media
type stands in the body as code. -/
theorem media_type_leaves_comment :
    let text := "Given x\n\"\"\"a\u2028alert(1)\n\"\"\"\n"
    ∃ step ∈ (Script.extract .inherit text).steps,
      "alert(1)):".toList ∈ Literal.sourceLines step.context.toList
        ∧ ¬ Literal.AllSilent step.context.toList := by
  intro text
  rw [Script.extract_eq_onePass]
  decide

end Registry

end ScenarioSteps
