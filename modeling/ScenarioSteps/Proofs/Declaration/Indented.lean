import Mathlib.Data.List.Forall2
import ScenarioSteps.Proofs.Declaration.ReadBack
import ScenarioSteps.Proofs.Text.Trim

/-!
# `ScenarioSteps.Proofs.Declaration.Indented`: a body is only indented

`indent` goes through a text line by line. It writes a line for each line of the text: an empty
one for a line of blanks, and for any other one the line as it stands behind the indentation
(`IsIndented`).

A declaration has the same lines between those that open it and the one that closes it.
`Declaration.splitBy_format` says so for every body. The body is read by its lines, which end as
lines of a script do, and the declaration is cut at its line feeds.
-/

set_option autoImplicit false

namespace ScenarioSteps

/-- What `indent` makes of a line. -/
def indentedLine (start : String) (line : List Char) : List Char :=
  if (Text.trim line).isEmpty then ['\n'] else start.toList ++ line ++ ['\n']

/-- A text is indented line by line. -/
theorem toList_indent (start text : String) :
    (indent start text).toList = (Text.lines text.toList).flatMap (indentedLine start) := by
  rw [indent, String.toList_ofList]
  rfl

/-- What an indentation makes of a line: an empty line of a blank one, and of any other one the
line as it stands behind the indentation. -/
inductive IsIndented (start : List Char) : List Char → List Char → Prop
  | blank {line : List Char} (hblank : ∀ c ∈ line, Text.isBlank c = true) : IsIndented start line []
  | kept {line : List Char} (hkept : ∃ c ∈ line, Text.isBlank c = false) :
      IsIndented start line (start ++ line)

/-- Indentation puts no line feed into a line. -/
theorem IsIndented.newline_not_mem {start line result : List Char}
    (h : IsIndented start line result) (hstart : '\n' ∉ start) (hline : '\n' ∉ line) :
    '\n' ∉ result := by
  cases h with
  | blank hblank => exact List.not_mem_nil
  | kept hkept => exact List.not_mem_append hstart hline

/-- What is written for a line is that line, indented, and a line feed. -/
theorem exists_isIndented (start : String) (line : List Char) :
    ∃ result, indentedLine start line = result ++ ['\n']
      ∧ IsIndented start.toList line result := by
  unfold indentedLine
  split
  · next hempty =>
      have hblank := Text.isBlank_of_trim_eq_nil (List.isEmpty_iff.mp hempty)
      exact ⟨[], rfl, .blank hblank⟩
  · next hempty =>
      refine ⟨start.toList ++ line, rfl, .kept ?_⟩
      by_contra hnone
      refine hempty (List.isEmpty_iff.mpr (Text.trim_eq_nil fun c hc => ?_))
      by_contra hc'
      exact hnone ⟨c, hc, Bool.eq_false_iff.mpr hc'⟩

/-- Each line behind the indentation is one of the text. -/
theorem exists_of_mem_forall₂ {start : List Char} {lines inner : List (List Char)}
    (h : List.Forall₂ (IsIndented start) lines inner) :
    ∀ result ∈ inner, ∃ line ∈ lines, IsIndented start line result := by
  induction h with
  | nil => exact List.forall_mem_nil _
  | @cons line result lines inner hindented hrest ih =>
      refine List.forall_mem_cons.mpr
        ⟨⟨line, List.mem_cons_self, hindented⟩, fun other hother => ?_⟩
      obtain ⟨line', hline', hindented'⟩ := ih other hother
      exact ⟨line', List.mem_cons_of_mem line hline', hindented'⟩

/-- The lines of an indented text. -/
theorem exists_indent (start text : String) :
    ∃ inner, (indent start text).toList = inner.flatMap (· ++ ['\n'])
      ∧ List.Forall₂ (IsIndented start.toList) (Text.lines text.toList) inner := by
  rw [toList_indent]
  induction Text.lines text.toList with
  | nil => exact ⟨[], rfl, .nil⟩
  | cons line rest ih =>
      obtain ⟨result, hresult, hindented⟩ := exists_isIndented start line
      obtain ⟨inner, hinner, hrest⟩ := ih
      refine ⟨result :: inner, ?_, .cons hindented hrest⟩
      rw [List.flatMap_cons, List.flatMap_cons, hresult, hinner]

/-- So no line feed is in a line of an indented text. -/
theorem newline_not_mem_of_forall₂ {start : List Char} (hstart : '\n' ∉ start) {text : List Char}
    {inner : List (List Char)} (h : List.Forall₂ (IsIndented start) (Text.lines text) inner) :
    ∀ result ∈ inner, '\n' ∉ result := by
  intro result hresult
  obtain ⟨line, hline, hindented⟩ := exists_of_mem_forall₂ h result hresult
  exact hindented.newline_not_mem hstart (Text.newline_not_mem_lines hline)

/-- The parts of an indented text between its line feeds. -/
theorem splitBy_indent {start : String} (hstart : '\n' ∉ start.toList) (text : String) :
    ∃ inner, Text.splitBy (· == '\n') (indent start text).toList = inner ++ [[]]
      ∧ List.Forall₂ (IsIndented start.toList) (Text.lines text.toList) inner := by
  obtain ⟨inner, htext, hinner⟩ := exists_indent start text
  refine ⟨inner, ?_, hinner⟩
  rw [htext, ← List.append_nil (inner.flatMap _),
    Text.splitBy_flatMap_newline (newline_not_mem_of_forall₂ hstart hinner)]
  rfl

namespace Declaration

/-- The lines that open a declaration: the one that names the step, and a bracket for the target
that has no other. -/
def openingLines (target : OutputTarget) (kind : StepKind) (sentence : String) :
    List (List Char) :=
  firstLine target kind sentence :: if target = .generic then [['\x7b']] else []

/-- A declaration is opened by lines that are each ended by a line feed. -/
theorem toList_opening_eq_flatMap (target : OutputTarget) (kind : StepKind) (sentence : String) :
    (opening target kind sentence).toList
      = (openingLines target kind sentence).flatMap (· ++ ['\n']) := by
  rw [toList_opening, openingLines, List.flatMap_cons, List.append_assoc]
  cases target <;> rfl

/-- No other line feed is in these lines, whatever the sentence holds. -/
theorem newline_not_mem_openingLines (target : OutputTarget) (kind : StepKind)
    (sentence : String) : ∀ line ∈ openingLines target kind sentence, '\n' ∉ line := by
  refine List.forall_mem_cons.mpr ⟨fun h => firstLine_not_newline target kind sentence _ h rfl, ?_⟩
  split
  · decide
  · exact List.forall_mem_nil _

/-- The parts of a declaration between its line feeds. -/
theorem splitBy_format (target : OutputTarget) (kind : StepKind) (sentence body : String) :
    ∃ inner, Text.splitBy (· == '\n') (format target kind sentence body).toList
        = openingLines target kind sentence ++ inner ++ [(closing target).toList]
      ∧ List.Forall₂ (IsIndented bodyIndent.toList) (Text.lines body.toList) inner := by
  have hindent : '\n' ∉ bodyIndent.toList := by decide
  have hclosing : Text.splitBy (· == '\n') (closing target).toList = [(closing target).toList] := by
    cases target <;> rfl
  obtain ⟨inner, hbody, hinner⟩ := exists_indent bodyIndent body
  refine ⟨inner, ?_, hinner⟩
  have hlines := List.forall_mem_append.mpr ⟨newline_not_mem_openingLines target kind sentence,
    newline_not_mem_of_forall₂ hindent hinner⟩
  rw [format, String.toList_append, String.toList_append, toList_opening_eq_flatMap, hbody,
    ← List.flatMap_append, Text.splitBy_flatMap_newline hlines, hclosing]

/-- Indentation changes nothing but the indentation. Cut at its line feeds, an indented text has
as many lines as the text, with nothing behind the last one. Each is empty where the line of the
text is blank, and else that line as it stands behind the indentation. So are the lines of a body
in each declaration, between the lines that open it and the one that closes it. -/
theorem body_only_indented :
    (∀ start text : String, '\n' ∉ start.toList →
        ∃ inner, Text.splitBy (· == '\n') (indent start text).toList = inner ++ [[]]
          ∧ List.Forall₂ (IsIndented start.toList) (Text.lines text.toList) inner)
      ∧ ∀ (target : OutputTarget) (kind : StepKind) (sentence body : String),
        ∃ inner, Text.splitBy (· == '\n') (format target kind sentence body).toList
            = openingLines target kind sentence ++ inner ++ [(closing target).toList]
          ∧ List.Forall₂ (IsIndented bodyIndent.toList) (Text.lines body.toList) inner :=
  ⟨fun _ text hstart => splitBy_indent hstart text, splitBy_format⟩

/-- A text with all ends of lines, a line of wide blanks and one that looks like the end of a
declaration. -/
theorem indent_of_lone_return :
    let start := "\t// "
    let text := "a\r\n\u2003 \n\x7d);\r"
    '\n' ∉ start.toList
      ∧ Text.lines text.toList = ["a".toList, "\u2003 ".toList, "\x7d);\r".toList]
      ∧ indent start text = "\t// a\n\n\t// \x7d);\r\n"
      ∧ ∃ inner, Text.splitBy (· == '\n') (indent start text).toList = inner ++ [[]]
        ∧ List.Forall₂ (IsIndented start.toList) (Text.lines text.toList) inner := by
  intro start text
  have hstart : '\n' ∉ start.toList := by decide
  exact ⟨hstart, by decide, by decide, body_only_indented.1 start text hstart⟩

end Declaration

end ScenarioSteps
