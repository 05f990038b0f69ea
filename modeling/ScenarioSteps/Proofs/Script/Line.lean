import Mathlib.Data.List.Infix
import ScenarioSteps.Script.Line

/-!
# `ScenarioSteps.Proofs.Script.Line`: the classes of lines do not overlap

`ScriptLine.of` asks for one class after the other. The order of its
questions does not matter for steps, headers, fences and rows:

* `of_eq_step_iff`: a line is a step exactly when `stepLine?` reads it.
* `of_eq_header_iff`: a line is a header exactly when `headerLine?` reads it.
* `of_eq_fence_iff`: a line is a fence exactly when it begins with one.
* `of_eq_row_iff`: a line is a row exactly when it begins with a bar.

Each class begins with a mark of its own: a keyword, the word of a
header, a fence, a bar, `#` or `@`. No mark begins another one, so no
line begins with two of them (`not_begins`). `of_eq_of_isWord` uses this
for the marks that are words, which headers and steps have.
-/

set_option autoImplicit false

namespace ScenarioSteps

/-- A text that begins with one mark does not begin with another, unless one of
the two begins the other. -/
theorem not_begins {mark other cs : List Char} (hmark : mark <+: cs)
    (h : ¬ mark <+: other ∧ ¬ other <+: mark) : ¬ other <+: cs := by
  intro hother
  rcases List.prefix_or_prefix_of_prefix hmark hother with h' | h'
  · exact h.1 h'
  · exact h.2 h'

/-- What stands behind a start. -/
theorem Text.after?_eq_some_iff {start cs rest : List Char} :
    Text.after? start cs = some rest ↔ cs = start ++ rest := by
  unfold Text.after?
  split
  · rename_i h
    obtain ⟨tail, rfl⟩ := List.isPrefixOf_iff_prefix.mp h
    simp
  · rename_i h
    simp only [reduceCtorEq, false_iff]
    rintro rfl
    exact h (List.isPrefixOf_iff_prefix.mpr (List.prefix_append _ _))

/-- A text without the start has nothing behind it. -/
theorem Text.after?_eq_none_iff {start cs : List Char} :
    Text.after? start cs = none ↔ ¬ start <+: cs := by
  unfold Text.after?
  rw [← List.isPrefixOf_iff_prefix]
  split <;> simp_all

/-- A start is compared character by character. -/
theorem Text.after?_cons (c d : Char) (text cs : List Char) :
    Text.after? (c :: text) (d :: cs) = if d = c then Text.after? text cs else none := by
  unfold Text.after?
  rw [List.isPrefixOf]
  by_cases hsame : d = c
  · simp [hsame]
  · simp [hsame, Ne.symm hsame]

/-! ### The mark of each class -/

/-- A step is its keyword and what stands behind it up to the sentence, which is not
empty. -/
theorem parts_of_stepLine? {line sentence : List Char} {keyword : Keyword}
    (h : stepLine? line = some (keyword, sentence)) :
    ∃ rest, Text.trim line = keyword.text.toList ++ rest ∧ sentence = Text.trimStart rest
      ∧ sentence ≠ [] := by
  obtain ⟨k, -, hk⟩ := List.exists_of_findSome?_eq_some h
  cases hrest : Text.after? k.text.toList (Text.trim line) with
  | none => simp [hrest] at hk
  | some rest =>
      simp only [hrest, Option.bind_eq_bind, Option.bind_some, Option.ite_none_right_eq_some,
        Option.some.injEq, Prod.mk.injEq] at hk
      obtain ⟨hreads, rfl, rfl⟩ := hk
      refine ⟨rest, Text.after?_eq_some_iff.mp hrest, rfl, fun hempty => ?_⟩
      simp [hempty] at hreads

/-- A step begins with its keyword. -/
theorem begins_of_stepLine? {line sentence : List Char} {keyword : Keyword}
    (h : stepLine? line = some (keyword, sentence)) :
    keyword.text.toList <+: Text.trim line := by
  obtain ⟨rest, hline, -, -⟩ := parts_of_stepLine? h
  exact ⟨rest, hline.symm⟩

/-- A header begins with its word. -/
theorem begins_of_headerLine? {line title : List Char} {word : Header}
    (h : headerLine? line = some (word, title)) :
    word.text.toList <+: Text.trim line := by
  obtain ⟨w, -, hw⟩ := List.exists_of_findSome?_eq_some h
  cases hrest : Text.after? w.text.toList (Text.trim line) with
  | none => simp [hrest] at hw
  | some rest =>
      simp only [hrest, Option.bind_eq_bind, Option.bind_some] at hw
      split at hw <;> cases hw
      exact ⟨rest, (Text.after?_eq_some_iff.mp hrest).symm⟩

/-- Where a text begins with a fence. -/
theorem Fence.split?_eq_none_iff {cs : List Char} :
    Fence.split? cs = none ↔ ∀ f : Fence, ¬ f.text <+: cs := by
  unfold Fence.split?
  simp only [List.findSome?_eq_none_iff, Option.map_eq_none_iff, Text.after?_eq_none_iff]
  constructor
  · intro h f
    exact h f (by cases f <;> simp)
  · intro h f _
    exact h f

/-- A fence and what follows it make up the text. -/
theorem Fence.split?_eq_some_iff {cs rest : List Char} {f : Fence} :
    Fence.split? cs = some (f, rest) ↔ cs = f.text ++ rest := by
  constructor
  · intro h
    obtain ⟨g, -, hg⟩ := List.exists_of_findSome?_eq_some h
    obtain ⟨tail, htail, heq⟩ := Option.map_eq_some_iff.mp hg
    cases heq
    exact Text.after?_eq_some_iff.mp htail
  · rintro rfl
    cases f <;> rfl

/-! ### The class that a mark leaves -/

/-- A line with a mark of another class is neither blank nor a comment nor a
tag. -/
theorem not_silent {mark cs : List Char} (hbegins : mark <+: cs)
    (hmark : mark.isEmpty = false ∧ mark.head? ≠ some '#' ∧ mark.head? ≠ some '@') :
    (cs.isEmpty || cs.head? == some '#' || cs.head? == some '@') = false := by
  obtain ⟨rest, rfl⟩ := hbegins
  cases mark with
  | nil => simp at hmark
  | cons c mark => simpa using hmark.2

/-- A mark of a header or a step: it is not, begins not and is not begun by a
mark of the classes that come first. -/
structure IsWord (mark : List Char) : Prop where
  not_silent : mark.isEmpty = false ∧ mark.head? ≠ some '#' ∧ mark.head? ≠ some '@'
  not_fence : ∀ f : Fence, ¬ mark <+: f.text ∧ ¬ f.text <+: mark
  not_row : ¬ mark <+: ['|'] ∧ ¬ ['|'] <+: mark

/-- Keywords are words that a line can begin with. -/
theorem Keyword.isWord_text (keyword : Keyword) : IsWord keyword.text.toList where
  not_silent := by cases keyword <;> decide
  not_fence f := by cases keyword <;> cases f <;> decide
  not_row := by cases keyword <;> decide

/-- So are the words of headers. -/
theorem Header.isWord_text (word : Header) : IsWord word.text.toList where
  not_silent := by cases word <;> decide
  not_fence f := by cases word <;> cases f <;> decide
  not_row := by cases word <;> decide

namespace ScriptLine

/-- A line that begins with a word is a header, a step or prose. -/
theorem of_eq_of_isWord {mark line : List Char} (hbegins : mark <+: Text.trim line)
    (hmark : IsWord mark) :
    ScriptLine.of line
      = match headerLine? line with
        | some (word, title) => .header word title
        | none =>
          match stepLine? line with
          | some (keyword, sentence) => .step keyword sentence
          | none => .prose := by
  have hsilent := ScenarioSteps.not_silent hbegins hmark.not_silent
  have hfence : Fence.split? (Text.trim line) = none :=
    Fence.split?_eq_none_iff.mpr fun f => not_begins hbegins (hmark.not_fence f)
  have hrow : row? (Text.trim line) = none := by
    rw [row?, Option.map_eq_none_iff, Text.after?_eq_none_iff]
    exact not_begins hbegins hmark.not_row
  simp only [ScriptLine.of, hsilent, hfence, hrow]
  rfl

/-- A line is a step exactly when it reads as one. -/
theorem of_eq_step_iff {line sentence : List Char} {keyword : Keyword} :
    ScriptLine.of line = .step keyword sentence
      ↔ stepLine? line = some (keyword, sentence) := by
  constructor
  · intro h
    simp only [ScriptLine.of] at h
    repeat' split at h
    all_goals cases h
    assumption
  · intro h
    have hbegins := begins_of_stepLine? h
    -- No keyword begins with the word of a header, or the other way round.
    have hheader : headerLine? line = none := by
      rw [Option.eq_none_iff_forall_ne_some]
      rintro ⟨word, title⟩ hword
      exact not_begins hbegins (by cases keyword <;> cases word <;> decide)
        (begins_of_headerLine? hword)
    rw [of_eq_of_isWord hbegins keyword.isWord_text, hheader, h]

/-- A line is a header exactly when it reads as one. -/
theorem of_eq_header_iff {line title : List Char} {word : Header} :
    ScriptLine.of line = .header word title ↔ headerLine? line = some (word, title) := by
  constructor
  · intro h
    simp only [ScriptLine.of] at h
    repeat' split at h
    all_goals cases h
    assumption
  · intro h
    rw [of_eq_of_isWord (begins_of_headerLine? h) word.isWord_text, h]

/-- A line is a fence exactly when it begins with one. -/
theorem of_eq_fence_iff {line mediaType : List Char} {f : Fence} :
    ScriptLine.of line = .fence f mediaType
      ↔ ∃ rest, Text.trim line = f.text ++ rest ∧ mediaType = Text.trim rest := by
  constructor
  · intro h
    simp only [ScriptLine.of] at h
    repeat' split at h
    all_goals cases h
    rename_i rest hsplit
    exact ⟨rest, Fence.split?_eq_some_iff.mp hsplit, rfl⟩
  · rintro ⟨rest, hline, rfl⟩
    -- No fence begins with a mark that makes a line silent.
    have hsilent : ((Text.trim line).isEmpty || (Text.trim line).head? == some '#'
        || (Text.trim line).head? == some '@') = false :=
      not_silent (hline ▸ List.prefix_append f.text rest) (by cases f <;> decide)
    simp only [ScriptLine.of, hsilent, Fence.split?_eq_some_iff.mpr hline]
    rfl

/-- A line is a row exactly when it begins with a bar. -/
theorem of_eq_row_iff {line : List Char} {cells : List (List Char)} :
    ScriptLine.of line = .row cells ↔ row? (Text.trim line) = some cells := by
  constructor
  · intro h
    simp only [ScriptLine.of] at h
    repeat' split at h
    all_goals cases h
    assumption
  · intro h
    obtain ⟨rest, hrest, -⟩ := Option.map_eq_some_iff.mp h
    have hbegins : ['|'] <+: Text.trim line := ⟨rest, (Text.after?_eq_some_iff.mp hrest).symm⟩
    -- A bar is none of the marks that are asked for before it.
    have hsilent := ScenarioSteps.not_silent hbegins (by decide)
    have hfence : Fence.split? (Text.trim line) = none :=
      Fence.split?_eq_none_iff.mpr fun f => not_begins hbegins (by cases f <;> decide)
    simp only [ScriptLine.of, hsilent, hfence, h]
    rfl

/-- A line of another class does not read as a step. -/
theorem stepLine?_eq_none {line : List Char}
    (h : ∀ keyword sentence, ScriptLine.of line ≠ .step keyword sentence) :
    stepLine? line = none := by
  rw [Option.eq_none_iff_forall_ne_some]
  rintro ⟨keyword, sentence⟩ hread
  exact h keyword sentence (of_eq_step_iff.mpr hread)

/-- A line of another class does not read as a row. -/
theorem row?_eq_none {line : List Char} (h : ∀ cells, ScriptLine.of line ≠ .row cells) :
    row? (Text.trim line) = none := by
  rw [Option.eq_none_iff_forall_ne_some]
  exact fun cells hread => h cells (of_eq_row_iff.mpr hread)

/-- A line of another class does not read as a header. -/
theorem headerLine?_eq_none {line : List Char}
    (h : ∀ word title, ScriptLine.of line ≠ .header word title) :
    headerLine? line = none := by
  rw [Option.eq_none_iff_forall_ne_some]
  rintro ⟨word, title⟩ hread
  exact h word title (of_eq_header_iff.mpr hread)

end ScriptLine

end ScenarioSteps
