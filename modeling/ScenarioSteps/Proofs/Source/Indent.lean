import ScenarioSteps.Proofs.Declaration.Indented
import ScenarioSteps.Proofs.Source.Lexer

/-!
# `ScenarioSteps.Proofs.Source.Indent`: indentation keeps code together

`indent` goes through a text line by line. It changes the ends of lines and
leaves out lines of blanks, and both could matter inside a literal. They do not
matter here: a literal cannot go over the end of a line, so a reader that gets
through the text begins each line in code. Before a line feed, a carriage return
is then one more line end, and blanks in code mean nothing.

* `run_indentedLine`: a line leads to the same place with its indentation.
* `Steady.indent`: so indented code is steady if the code is.
-/

set_option autoImplicit false

namespace ScenarioSteps

namespace Lexer

open Literal (lineEnds)

/-! ### Ends of lines -/

/-- At the end of a line, no literal may be open. The next line begins in code. -/
theorem step_lineEnd {c : Char} (hc : c ∈ lineEnds) (s : State) :
    step s c = if s.mode.isClosed then some ⟨.code, s.closers⟩ else none := by
  -- The end of a line is no special character of code, and literals take none of them.
  have hends : ∀ d ∈ lineEnds, d ∉ specials ∧ d ≠ '/' := List.all_iff_forall_prop.mp (by decide)
  have hplain := hends c hc
  obtain ⟨mode, closers⟩ := s
  cases mode with
  | code => exact readCode_of_not_special hplain.1 closers
  | opened | slash =>
      simp only [step, if_neg hplain.2]
      exact readCode_of_not_special hplain.1 closers
  | openedSlash =>
      simp only [step, if_neg hplain.2, readLiteral, if_pos hc]
      rfl
  | comment =>
      simp only [step, if_pos hc]
      rfl
  | literal quote =>
      simp only [step, readLiteral, if_pos hc]
      rfl
  | escape quote =>
      simp only [step, if_pos hc]
      rfl

/-- What is read before the end of a line, and what is known behind it. -/
theorem run_append_newline_eq_some {s s' : State} {line : List Char}
    (h : run s (line ++ ['\n']) = some s') :
    ∃ inner, run s line = some inner ∧ inner.mode.isClosed = true
      ∧ s' = ⟨.code, inner.closers⟩ := by
  rw [run_append] at h
  obtain ⟨inner, hline, hend⟩ := Option.bind_eq_some_iff.mp h
  rw [run, step_lineEnd (by decide)] at hend
  split at hend
  · next hclosed => exact ⟨inner, hline, hclosed, (Option.some.inj hend).symm⟩
  · cases hend

/-- A line feed behind a line leads back to code, over the brackets that the line leaves open.
-/
theorem run_append_newline {s inner : State} {line : List Char} (hline : run s line = some inner)
    (hclosed : inner.mode.isClosed = true) :
    run s (line ++ ['\n']) = some ⟨.code, inner.closers⟩ := by
  rw [run_append_of hline, run, step_lineEnd (by decide), if_pos hclosed]
  rfl

/-- A carriage return before a line feed makes no difference. -/
theorem run_dropReturn {s s' : State} {line : List Char}
    (h : run s (line ++ ['\n']) = some s') :
    run s (Text.dropReturn line ++ ['\n']) = some s' := by
  rcases Text.dropReturn_cases line with hsame | hreturn
  · rwa [hsame]
  · obtain ⟨inner, hline, -, rfl⟩ := run_append_newline_eq_some h
    rw [hreturn, run_append] at hline
    -- The return ends a line as the line feed behind it does.
    obtain ⟨outer, hdropped, hend⟩ := Option.bind_eq_some_iff.mp hline
    rw [run, step_lineEnd (by decide)] at hend
    split at hend
    · next hclosed =>
        obtain rfl : (⟨.code, outer.closers⟩ : State) = inner := Option.some.inj hend
        have hjoined := run_append_newline hdropped hclosed
        exact hjoined
    · cases hend

/-! ### Lines with an indentation -/

/-- The code points of the special characters are not among those of blanks. -/
theorem not_special_of_isBlank {c : Char} (hc : Text.isBlank c = true) : c ∉ specials := by
  have hspecials : ∀ d ∈ specials, Text.isBlank d = false :=
    List.all_iff_forall_prop.mp (by decide)
  intro hmem
  rw [hspecials c hmem] at hc
  cases hc

section

variable {start : String} (hstart : ∀ c ∈ start.toList, c ∉ specials)

include hstart

/-- With its indentation, a line that begins in code leads to the same place. -/
theorem run_indentedLine {closers line : List Char} {s : State}
    (h : run ⟨.code, closers⟩ (line ++ ['\n']) = some s) :
    run ⟨.code, closers⟩ (indentedLine start line) = some s := by
  unfold indentedLine
  split
  -- The line is left out, and its blanks would have been read without effect.
  · next hempty =>
      have hblank := Text.isBlank_of_trim_eq_nil (List.isEmpty_iff.mp hempty)
      have hsteady := steady_code fun c hc => not_special_of_isBlank (hblank c hc)
      rwa [run_append_of (hsteady closers)] at h
  · rwa [List.append_assoc, run_append_of (steady_code hstart closers)]

/-- The lines of a text, one after another. The induction is on the parts between
its line feeds, each of which begins in code. -/
theorem run_indentedLines {first closers : List Char} {rest : List (List Char)} {s : State}
    (h : run ⟨.code, closers⟩ (first ++ rest.flatMap ('\n' :: ·)) = some s)
    (hclosed : s.mode.isClosed = true) :
    run ⟨.code, closers⟩ ((Text.ofParts (first :: rest)).flatMap (indentedLine start))
      = some ⟨.code, s.closers⟩ := by
  induction rest generalizing first closers with
  | nil =>
      rw [List.flatMap_nil, List.append_nil] at h
      cases first with
      | nil =>
          cases h
          rfl
      | cons c first =>
          show run _ ((indentedLine start (c :: first)) ++ []) = _
          rw [List.append_nil]
          exact run_indentedLine hstart (run_append_newline h hclosed)
  | cons next rest ih =>
      -- The first line is read up to its line feed, where no literal is open.
      have hsplit : first ++ (next :: rest).flatMap ('\n' :: ·)
          = (first ++ ['\n']) ++ (next ++ rest.flatMap ('\n' :: ·)) := by simp
      rw [hsplit, run_append] at h
      obtain ⟨behind, hfirst, hrest⟩ := Option.bind_eq_some_iff.mp h
      obtain ⟨inner, -, -, rfl⟩ := run_append_newline_eq_some hfirst
      rw [Text.ofParts, List.flatMap_cons,
        run_append_of (run_indentedLine hstart (run_dropReturn hfirst))]
      exact ih hrest

end

/-- Indentation keeps code steady. -/
theorem Steady.indent {text : String} (h : Steady .code text.toList) :
    Steady .code (indent bodyIndent text).toList := by
  intro closers
  rw [toList_indent, Text.lines_eq_ofParts]
  cases hparts : Text.splitBy (· == '\n') text.toList with
  | nil => exact absurd hparts (Text.splitBy_ne_nil _ _)
  | cons first rest =>
      have htext := h closers
      rw [Text.eq_of_splitBy_eq hparts] at htext
      have hblanks : ∀ c ∈ bodyIndent.toList, c ∉ specials :=
        List.all_iff_forall_prop.mp (by decide)
      exact run_indentedLines hblanks htext rfl

end Lexer

end ScenarioSteps
