import ScenarioSteps.Proofs.Declaration.Context
import ScenarioSteps.Proofs.Literal.Delimited

/-!
# `ScenarioSteps.Proofs.Declaration.Placeholder`: the lines of a placeholder

A placeholder is a comment and a statement that throws. The statement is the last line of
its source, and nothing in a sentence ends the literal in it (`sourceLines_placeholder`).

The comment on a failed generator names the key of the pattern and the reason. The reason
is escaped and stays on its line, but the key is put there as it is. So the placeholder has
one more line for each line end in the key (`failed_in_two_lines_iff`), and what follows a
line end is code. `key_leaves_comment` is such a key.
-/

set_option autoImplicit false

namespace ScenarioSteps.Body

open Literal

/-- A statement that throws what a literal stands for. -/
def throwLine (literal : List Char) : List Char :=
  "throw new Error('".toList ++ literal ++ "');".toList

/-- A body of two lines: a comment that begins with a given text, and a statement that throws
a message. -/
def CommentsAndThrows (body beginning message : String) : Prop :=
  ∃ comment literal, sourceLines body.toList = [comment, throwLine literal]
    ∧ beginning.toList <+: comment ∧ (inQuotes '\'').Closes literal message.toList

/-! ### Any placeholder -/

/-- A placeholder is a comment, a line feed, and the statement that throws. -/
theorem toList_placeholder (comment message : String) :
    (placeholder comment message).toList
      = ("// " ++ comment).toList ++ '\n' :: throwLine (escapeString '\'' message).toList := by
  have hquoted : (quoted message).toList
      = "'".toList ++ (escapeString '\'' message).toList ++ "'".toList := by
    rw [quoted, String.toList_append, String.toList_append]
  have hthrow : "\nthrow new Error(".toList ++ "'".toList = '\n' :: "throw new Error('".toList := by
    decide
  have hend : "'".toList ++ ");".toList = "');".toList := by decide
  -- The two quotes go over to the fixed text on both sides.
  calc (placeholder comment message).toList
      = ("// " ++ comment).toList ++ "\nthrow new Error(".toList
          ++ ("'".toList ++ (escapeString '\'' message).toList ++ "'".toList) ++ ");".toList := by
        rw [placeholder, String.toList_append, String.toList_append, String.toList_append, hquoted]
    _ = ("// " ++ comment).toList ++ (("\nthrow new Error(".toList ++ "'".toList)
          ++ (escapeString '\'' message).toList ++ ("'".toList ++ ");".toList)) := by
        simp only [List.append_assoc]
    _ = ("// " ++ comment).toList ++ '\n' :: throwLine (escapeString '\'' message).toList := by
        rw [hthrow, hend]
        rfl

/-- Nothing in a message ends the literal in the statement. -/
theorem closes_message (message : String) :
    (inQuotes '\'').Closes (escapeString '\'' message).toList message.toList := by
  have hquote : '\'' ∈ ['\'', '"'] := by decide
  exact closes_escapeString hquote message

/-- The statement is a line of its own. -/
theorem throwLine_not_lineEnd (message : String) :
    ∀ c ∈ throwLine (escapeString '\'' message).toList, c ∉ lineEnds := by
  have hbefore : ∀ c ∈ "throw new Error('".toList, c ∉ lineEnds :=
    List.all_iff_forall_prop.mp (by decide)
  have hbehind : ∀ c ∈ "');".toList, c ∉ lineEnds := List.all_iff_forall_prop.mp (by decide)
  obtain ⟨-, hliteral⟩ := closes_message message
  intro c hc
  rcases List.mem_append.mp hc with hc | hc
  · rcases List.mem_append.mp hc with hc | hc
    · exact hbefore c hc
    · exact hliteral c hc
  · exact hbehind c hc

/-- The lines of a placeholder are those of its comment and the statement. -/
theorem sourceLines_placeholder (comment message : String) :
    sourceLines (placeholder comment message).toList
      = sourceLines ("// " ++ comment).toList
        ++ [throwLine (escapeString '\'' message).toList] := by
  have hstatement : sourceLines (throwLine (escapeString '\'' message).toList)
      = [throwLine (escapeString '\'' message).toList] :=
    sourceLines_of_forall (throwLine_not_lineEnd message)
  rw [toList_placeholder, ← hstatement]
  exact Text.splitBy_append_cut _ _ _ (by decide)

/-! ### The placeholder of a failed generator -/

/-- What the comment says. -/
def failure (key reason : String) : String :=
  "Generator " ++ key ++ " failed: " ++ escapeComment reason

/-- Only the key can end the line of the comment. -/
theorem failure_not_lineEnd {key : String} (hkey : ∀ c ∈ key.toList, c ∉ lineEnds)
    (reason : String) : ∀ c ∈ (failure key reason).toList, c ∉ lineEnds := by
  have hbefore : ∀ c ∈ "Generator ".toList, c ∉ lineEnds := List.all_iff_forall_prop.mp (by decide)
  have hbehind : ∀ c ∈ " failed: ".toList, c ∉ lineEnds := List.all_iff_forall_prop.mp (by decide)
  simp only [failure, String.toList_append, List.forall_mem_append]
  exact ⟨⟨⟨hbefore, hkey⟩, hbehind⟩, escapeComment_not_lineEnd reason⟩

/-- Each line end in the key begins one more line. -/
theorem length_sourceLines_failure (key reason : String) :
    (sourceLines ("// " ++ failure key reason).toList).length
      = key.toList.countP (lineEnds.contains ·) + 1 := by
  have hreason : (escapeComment reason).toList.countP (lineEnds.contains ·) = 0 :=
    countP_lineEnds_eq_zero_iff.mpr (escapeComment_not_lineEnd reason)
  have hfixed : "// ".toList.countP (lineEnds.contains ·) = 0
      ∧ "Generator ".toList.countP (lineEnds.contains ·) = 0
      ∧ " failed: ".toList.countP (lineEnds.contains ·) = 0 := by decide
  obtain ⟨hslashes, hbefore, hbehind⟩ := hfixed
  rw [sourceLines, Text.length_splitBy]
  simp only [failure, String.toList_append, List.countP_append, hreason, hslashes, hbefore,
    hbehind, Nat.zero_add, Nat.add_zero]

/-- Without line ends in the key, the comment is one line. -/
theorem sourceLines_failure {key : String} (hkey : ∀ c ∈ key.toList, c ∉ lineEnds)
    (reason : String) :
    sourceLines ("// " ++ failure key reason).toList = [("// " ++ failure key reason).toList] := by
  have hslashes : ∀ c ∈ "// ".toList, c ∉ lineEnds := List.all_iff_forall_prop.mp (by decide)
  refine sourceLines_of_forall ?_
  rw [String.toList_append, List.forall_mem_append]
  exact ⟨hslashes, failure_not_lineEnd hkey reason⟩

/-- The placeholder of a failed generator is a comment and a statement that throws, each on
one line, if and only if no line end stands in the key. Whatever stands in the sentence and
the reason, the statement is the last line and throws the message, and the comment has one
line more than there are line ends in the key. -/
theorem failed_in_two_lines_iff (key sentence reason : String) :
    (CommentsAndThrows (failed key sentence reason) "// Generator "
        ("Step generation failed: " ++ sentence) ↔ ∀ c ∈ key.toList, c ∉ lineEnds)
      ∧ ∃ comment literal,
        sourceLines (failed key sentence reason).toList = comment ++ [throwLine literal]
          ∧ comment.length = key.toList.countP (lineEnds.contains ·) + 1
          ∧ (inQuotes '\'').Closes literal ("Step generation failed: " ++ sentence).toList := by
  have hlines : sourceLines (failed key sentence reason).toList
      = sourceLines ("// " ++ failure key reason).toList
        ++ [throwLine (escapeString '\'' ("Step generation failed: " ++ sentence)).toList] :=
    sourceLines_placeholder (failure key reason) _
  have hliteral := closes_message ("Step generation failed: " ++ sentence)
  have hlength := length_sourceLines_failure key reason
  refine ⟨⟨?_, fun hkey => ?_⟩, _, _, hlines, hlength, hliteral⟩
  · -- Two lines leave one for the comment, so the key has no line end.
    rintro ⟨comment, literal, htwo, -⟩
    have htotal := congrArg List.length (hlines.symm.trans htwo)
    rw [List.length_append, hlength] at htotal
    exact countP_lineEnds_eq_zero_iff.mp (by simpa using htotal)
  · refine ⟨("// " ++ failure key reason).toList, _, ?_, ?_, hliteral⟩
    · rw [hlines, sourceLines_failure hkey]
      rfl
    · have hbegins : "// Generator ".toList = "// ".toList ++ "Generator ".toList := by decide
      simp only [failure, hbegins, String.toList_append, List.append_assoc]
      exact (List.prefix_append_right_inj _).mpr (List.prefix_append _ _)

/-- What follows a line feed in a key stands in the body as code. -/
theorem key_leaves_comment :
    sourceLines (failed "a\nalert(1)" "x" "r").toList
        = ["// Generator a".toList, "alert(1) failed: r".toList,
            "throw new Error('Step generation failed: x');".toList]
      ∧ ¬ CommentsAndThrows (failed "a\nalert(1)" "x" "r") "// Generator "
          ("Step generation failed: " ++ "x") := by
  have hlines : sourceLines (failed "a\nalert(1)" "x" "r").toList
      = ["// Generator a".toList, "alert(1) failed: r".toList,
          "throw new Error('Step generation failed: x');".toList] := by
    decide
  refine ⟨hlines, ?_⟩
  -- Three lines are not two.
  rintro ⟨comment, literal, htwo, -⟩
  have hlength := congrArg List.length (hlines.symm.trans htwo)
  cases hlength

end ScenarioSteps.Body
