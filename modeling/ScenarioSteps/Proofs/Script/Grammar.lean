import ScenarioSteps.Proofs.Script.LinePattern

/-!
# `ScenarioSteps.Proofs.Script.Grammar`: a grammar for single lines

What a step and what a header is, said without a search: `IsStepLine` and `IsHeaderLine` say
how the trimmed line is put together. A line is put together in one way only. For steps this
is because no keyword begins another one. Words of headers do begin one another, but all that
stands in front of the colon is the word and blanks (`IsHeaderLine.unique`). So the readers
answer exactly what the grammar says.

A class of lines is known by how a trimmed line begins (`LineClass.marks`). No two classes
share a line (`LineClass.eq_of_reads`), so they can be asked for in any order
(`ScriptLine.line_grammar`).
-/

set_option autoImplicit false

namespace ScenarioSteps

/-! ### Steps -/

/-- A line of a keyword, blanks and a sentence, up to the blanks at its ends. -/
structure IsStepLine (keyword : Keyword) (sentence line : List Char) : Prop where
  parts : ∃ blanks, blanks ≠ [] ∧ (∀ c ∈ blanks, Text.isBlank c = true)
    ∧ Text.trim line = keyword.text.toList ++ (blanks ++ sentence)
  ne_nil : sentence ≠ []
  trimmed : Text.trim sentence = sentence
  single : '\n' ∉ sentence

/-- What is read as a step is put together as one. -/
theorem isStepLine_of_stepLine? {line sentence : List Char} {keyword : Keyword}
    (h : stepLine? line = some (keyword, sentence)) : IsStepLine keyword sentence line := by
  obtain ⟨k, -, hk⟩ := List.exists_of_findSome?_eq_some h
  obtain ⟨rest, hrest, hk⟩ := Option.bind_eq_some_iff.mp hk
  rw [Option.ite_none_right_eq_some] at hk
  obtain ⟨hreads, hk⟩ := hk
  cases hk
  rw [Text.after?_eq_some_iff] at hrest
  rw [Bool.and_eq_true, Bool.and_eq_true] at hreads
  obtain ⟨⟨hblank, hne⟩, hsingle⟩ := hreads
  -- The blanks behind the keyword are all that the reader drops there.
  refine ⟨⟨rest.takeWhile Text.isBlank, ?_, fun c hc => List.mem_takeWhile_imp hc, ?_⟩, ?_, ?_, ?_⟩
  · cases rest with
    | nil => cases hblank
    | cons c rest =>
        have hc : Text.isBlank c = true := hblank
        rw [List.takeWhile_cons_of_pos hc]
        exact List.cons_ne_nil _ _
  · rw [Text.takeWhile_append_trimStart, hrest]
  · simpa using hne
  · exact Text.trim_trimStart_of_suffix ⟨keyword.text.toList, hrest.symm⟩
  · simpa using hsingle

/-- A line is a step in one way only. -/
theorem IsStepLine.unique {keyword keyword' : Keyword} {sentence sentence' line : List Char}
    (h : IsStepLine keyword sentence line) (h' : IsStepLine keyword' sentence' line) :
    keyword = keyword' ∧ sentence = sentence' := by
  obtain ⟨⟨blanks, -, hblanks, hline⟩, -, htrim, -⟩ := h
  obtain ⟨⟨blanks', -, hblanks', hline'⟩, -, htrim', -⟩ := h'
  -- No keyword is the beginning of another one.
  have hkeyword : keyword = keyword' := by
    by_contra hne
    have hapart : ¬ keyword.text.toList <+: keyword'.text.toList
        ∧ ¬ keyword'.text.toList <+: keyword.text.toList := by
      revert hne
      cases keyword <;> cases keyword' <;> decide
    exact not_begins ⟨_, hline.symm⟩ hapart ⟨_, hline'.symm⟩
  subst hkeyword
  rw [hline, List.append_cancel_left_eq] at hline'
  refine ⟨rfl, ?_⟩
  rw [← Text.trimStart_append hblanks htrim, hline', Text.trimStart_append hblanks' htrim']

/-- What is put together as a step is read as one. -/
theorem IsStepLine.isSome_stepLine? {keyword : Keyword} {sentence line : List Char}
    (h : IsStepLine keyword sentence line) : (stepLine? line).isSome = true := by
  obtain ⟨⟨blanks, hne, hblanks, hline⟩, hsentence, htrim, hsingle⟩ := h
  refine List.findSome?_isSome_iff.mpr ⟨keyword, by cases keyword <;> decide, ?_⟩
  have hstart := Text.trimStart_append hblanks htrim
  have hfirst : (blanks ++ sentence).head?.any Text.isBlank = true := by
    cases blanks with
    | nil => contradiction
    | cons c blanks => exact hblanks c List.mem_cons_self
  rw [Text.after?_eq_some_iff.mpr hline, Option.bind_eq_bind, Option.bind_some]
  simp only [hstart, hfirst]
  simp [hsentence, hsingle]

/-- The reader of steps reads what is a step. -/
theorem stepLine?_eq_some_iff {keyword : Keyword} {sentence line : List Char} :
    stepLine? line = some (keyword, sentence) ↔ IsStepLine keyword sentence line := by
  refine ⟨isStepLine_of_stepLine?, fun h => ?_⟩
  obtain ⟨⟨other, sentence'⟩, hother⟩ := Option.isSome_iff_exists.mp h.isSome_stepLine?
  obtain ⟨rfl, rfl⟩ := (isStepLine_of_stepLine? hother).unique h
  exact hother

/-! ### Headers -/

/-- A line of the word of a header, a colon with or without blanks before it, and a title, up
to the blanks at its ends and around the title. -/
def IsHeaderLine (word : Header) (title line : List Char) : Prop :=
  ∃ blanks rest, (∀ c ∈ blanks, Text.isBlank c = true)
    ∧ Text.trim line = word.text.toList ++ blanks ++ ':' :: rest ∧ Text.trim rest = title

/-- A line is a header in one way only, although words of headers begin one another. -/
theorem IsHeaderLine.unique {word word' : Header} {title title' line : List Char}
    (h : IsHeaderLine word title line) (h' : IsHeaderLine word' title' line) :
    word = word' ∧ title = title' := by
  obtain ⟨blanks, rest, hblanks, hline, rfl⟩ := h
  obtain ⟨blanks', rest', hblanks', hline', rfl⟩ := h'
  have hcolon (word : Header) (blanks : List Char) (hblanks : ∀ c ∈ blanks, Text.isBlank c = true) :
      ∀ c ∈ word.text.toList ++ blanks, (c != ':') = true := by
    rw [List.forall_mem_append]
    refine ⟨?_, fun c hc => ?_⟩
    · exact List.all_eq_true.mp (by cases word <;> decide)
    · rw [bne_iff_ne]
      rintro rfl
      cases hblanks _ hc
  have hword (word : Header) : Text.trimEnd word.text.toList = word.text.toList := by
    cases word <;> decide
  -- In front of the first colon stands the word, and blanks behind it.
  have hfront : word.text.toList ++ blanks = word'.text.toList ++ blanks' := by
    have hsame := congrArg (List.takeWhile (· != ':')) (hline.symm.trans hline')
    rw [List.takeWhile_append_of_pos (hcolon word blanks hblanks),
      List.takeWhile_append_of_pos (hcolon word' blanks' hblanks')] at hsame
    simpa using hsame
  have hbehind : rest = rest' := by
    rw [hline, hfront, List.append_cancel_left_eq] at hline'
    exact (List.cons_inj_right _).mp hline'
  have htext : word.text.toList = word'.text.toList := by
    rw [← hword word, ← Text.trimEnd_append_blanks _ blanks hblanks, hfront,
      Text.trimEnd_append_blanks _ blanks' hblanks', hword word']
  refine ⟨?_, by rw [hbehind]⟩
  revert htext
  cases word <;> cases word' <;> decide

/-- What is read as a header is put together as one. -/
theorem isHeaderLine_of_headerLine? {line title : List Char} {word : Header}
    (h : headerLine? line = some (word, title)) : IsHeaderLine word title line := by
  obtain ⟨w, -, hw⟩ := List.exists_of_findSome?_eq_some h
  obtain ⟨rest, hrest, hw⟩ := Option.bind_eq_some_iff.mp hw
  rw [Text.after?_eq_some_iff] at hrest
  split at hw
  · next behind hbehind =>
      cases hw
      refine ⟨rest.takeWhile Text.isBlank, behind, fun c hc => List.mem_takeWhile_imp hc, ?_, rfl⟩
      rw [List.append_assoc, ← hbehind, Text.takeWhile_append_trimStart, hrest]
  · cases hw

/-- What is put together as a header is read as one. -/
theorem IsHeaderLine.isSome_headerLine? {word : Header} {title line : List Char}
    (h : IsHeaderLine word title line) : (headerLine? line).isSome = true := by
  obtain ⟨blanks, rest, hblanks, hline, rfl⟩ := h
  rw [List.append_assoc] at hline
  refine List.findSome?_isSome_iff.mpr ⟨word, by cases word <;> decide, ?_⟩
  have hstart : Text.trimStart (blanks ++ ':' :: rest) = ':' :: rest := by
    rw [Text.trimStart, List.dropWhile_append_of_pos hblanks]
    rfl
  rw [Text.after?_eq_some_iff.mpr hline, Option.bind_eq_bind, Option.bind_some, hstart]
  rfl

/-- The reader of headers reads what is a header. -/
theorem headerLine?_eq_some_iff {word : Header} {title line : List Char} :
    headerLine? line = some (word, title) ↔ IsHeaderLine word title line := by
  refine ⟨isHeaderLine_of_headerLine?, fun h => ?_⟩
  obtain ⟨⟨other, title'⟩, hother⟩ := Option.isSome_iff_exists.mp h.isSome_headerLine?
  obtain ⟨rfl, rfl⟩ := (isHeaderLine_of_headerLine? hother).unique h
  exact hother

/-! ### Classes -/

/-- The classes of lines that are not prose. -/
inductive LineClass where
  | blank
  | comment
  | tag
  | fence
  | row
  | header
  | step
deriving Repr, DecidableEq

namespace LineClass

/-- All classes. -/
def all : List LineClass :=
  [.blank, .comment, .tag, .fence, .row, .header, .step]

/-- Reads a line as one of a class. -/
def read? (c : LineClass) (line : List Char) : Option ScriptLine :=
  let text := Text.trim line
  match c with
  | blank => if text.isEmpty then some .silent else none
  | comment => (Text.after? ['#'] text).map fun _ => .silent
  | tag => (Text.after? ['@'] text).map fun _ => .silent
  | fence => (Fence.split? text).map fun (mark, rest) => .fence mark (Text.trim rest)
  | row => (row? text).map .row
  | header => (headerLine? line).map fun (word, title) => .header word title
  | step => (stepLine? line).map fun (keyword, sentence) => .step keyword sentence

/-- What a trimmed line of a class begins with. -/
def marks : LineClass → List (List Char)
  | blank => []
  | comment => [['#']]
  | tag => [['@']]
  | fence => [Fence.quotes.text, Fence.backticks.text]
  | row => [['|']]
  | header => Header.all.map (·.text.toList)
  | step => Keyword.all.map (·.text.toList)

/-- A line of a class is blank, or begins with a mark of the class. -/
theorem begins_of_read? {c : LineClass} {line : List Char} {read : ScriptLine}
    (h : c.read? line = some read) :
    c = blank ∧ Text.trim line = [] ∨ ∃ mark ∈ c.marks, mark <+: Text.trim line := by
  -- Each reader but the one of blank lines asks for a mark first.
  cases c with
  | blank =>
      rw [read?, Option.ite_none_right_eq_some, List.isEmpty_iff] at h
      exact .inl ⟨rfl, h.1⟩
  | comment =>
      obtain ⟨rest, hrest, -⟩ := Option.map_eq_some_iff.mp h
      exact .inr ⟨_, List.mem_cons_self, rest, (Text.after?_eq_some_iff.mp hrest).symm⟩
  | tag =>
      obtain ⟨rest, hrest, -⟩ := Option.map_eq_some_iff.mp h
      exact .inr ⟨_, List.mem_cons_self, rest, (Text.after?_eq_some_iff.mp hrest).symm⟩
  | fence =>
      obtain ⟨⟨mark, rest⟩, hrest, -⟩ := Option.map_eq_some_iff.mp h
      refine .inr ⟨mark.text, by cases mark <;> decide, rest, ?_⟩
      exact (Fence.split?_eq_some_iff.mp hrest).symm
  | row =>
      obtain ⟨cells, hcells, -⟩ := Option.map_eq_some_iff.mp h
      obtain ⟨rest, hrest, -⟩ := Option.map_eq_some_iff.mp hcells
      exact .inr ⟨_, List.mem_cons_self, rest, (Text.after?_eq_some_iff.mp hrest).symm⟩
  | header =>
      obtain ⟨⟨word, title⟩, hword, -⟩ := Option.map_eq_some_iff.mp h
      refine .inr ⟨word.text.toList, ?_, begins_of_headerLine? hword⟩
      exact List.mem_map_of_mem (by cases word <;> decide)
  | step =>
      obtain ⟨⟨keyword, sentence⟩, hkeyword, -⟩ := Option.map_eq_some_iff.mp h
      refine .inr ⟨keyword.text.toList, ?_, begins_of_stepLine? hkeyword⟩
      exact List.mem_map_of_mem (by cases keyword <;> decide)

/-- Marks are not empty, and marks of different classes do not begin one another. -/
theorem marks_apart :
    (∀ c ∈ all, [] ∉ c.marks)
      ∧ ∀ c ∈ all, ∀ c' ∈ all, c ≠ c' → ∀ mark ∈ c.marks, ∀ mark' ∈ c'.marks,
        ¬ mark <+: mark' ∧ ¬ mark' <+: mark := by
  decide

/-- No class of lines is left out. -/
theorem mem_all (c : LineClass) : c ∈ all := by
  cases c <;> decide

/-- No line is of two classes. -/
theorem eq_of_reads {c c' : LineClass} {line : List Char} {read read' : ScriptLine}
    (h : c.read? line = some read) (h' : c'.read? line = some read') : c = c' := by
  obtain ⟨hnil, hapart⟩ := marks_apart
  rcases begins_of_read? h with ⟨rfl, hblank⟩ | ⟨mark, hmark, hbegins⟩
  · rcases begins_of_read? h' with ⟨rfl, -⟩ | ⟨mark', hmark', hbegins'⟩
    · rfl
    · rw [hblank, List.prefix_nil] at hbegins'
      exact absurd (hbegins' ▸ hmark') (hnil c' (mem_all c'))
  · rcases begins_of_read? h' with ⟨rfl, hblank⟩ | ⟨mark', hmark', hbegins'⟩
    · rw [hblank, List.prefix_nil] at hbegins
      exact absurd (hbegins ▸ hmark) (hnil c (mem_all c))
    · by_contra hne
      exact not_begins hbegins (hapart c (mem_all c) c' (mem_all c') hne mark hmark mark' hmark')
        hbegins'

/-- The class of a line is found wherever it stands among the classes. -/
theorem findSome?_read? {classes : List LineClass} {c : LineClass} {line : List Char}
    {read : ScriptLine} (hc : c ∈ classes) (h : c.read? line = some read) :
    classes.findSome? (·.read? line) = some read := by
  have hsome : (classes.findSome? (·.read? line)).isSome = true :=
    List.findSome?_isSome_iff.mpr ⟨c, hc, by rw [h]; rfl⟩
  obtain ⟨other, hother⟩ := Option.isSome_iff_exists.mp hsome
  obtain ⟨c', -, hc'⟩ := List.exists_of_findSome?_eq_some hother
  rw [hother, ← hc', ← eq_of_reads h hc', h]

end LineClass

namespace ScriptLine

/-- A line is asked for the classes one after another. -/
theorem of_eq_findSome? (line : List Char) :
    ScriptLine.of line = (LineClass.all.findSome? (·.read? line)).getD .prose := by
  have hfirst (mark c : Char) (rest : List Char) :
      Text.after? [mark] (c :: rest) = if c = mark then some rest else none :=
    Text.after?_cons mark c [] rest
  cases htext : Text.trim line with
  | nil => simp [ScriptLine.of, LineClass.all, LineClass.read?, htext]
  | cons c rest =>
      simp only [ScriptLine.of, LineClass.all, List.findSome?_cons, LineClass.read?, htext, hfirst]
      by_cases hcomment : c = '#'
      · simp [hcomment]
      · by_cases htag : c = '@'
        · simp [htag]
        · have hsilent : ((c :: rest).isEmpty || (c :: rest).head? == some '#'
              || (c :: rest).head? == some '@') = false := by
            simp [hcomment, htag]
          rw [hsilent]
          simp only [hcomment, htag, List.isEmpty_cons, Bool.false_eq_true, if_false,
            Option.map_none, List.findSome?_nil]
          -- From here on, both sides ask for the same classes in the same order.
          cases Fence.split? (c :: rest) with
          | some mark => rfl
          | none =>
              cases row? (c :: rest) with
              | some cells => rfl
              | none =>
                  cases headerLine? line with
                  | some word => rfl
                  | none => cases stepLine? line <;> rfl

/-- It does not matter in which order a line is asked for the classes. -/
theorem of_eq_of_forall_mem {classes : List LineClass} (hall : ∀ c, c ∈ classes)
    (line : List Char) :
    (classes.findSome? (·.read? line)).getD .prose = ScriptLine.of line := by
  rw [of_eq_findSome?]
  by_cases h : ∃ c : LineClass, ∃ read, c.read? line = some read
  · obtain ⟨c, read, hread⟩ := h
    rw [LineClass.findSome?_read? (hall c) hread, LineClass.findSome?_read? c.mem_all hread]
  · have hnone (c : LineClass) : c.read? line = none :=
      Option.eq_none_iff_forall_ne_some.mpr fun read hread => h ⟨c, read, hread⟩
    rw [List.findSome?_eq_none_iff.mpr fun c _ => hnone c,
      List.findSome?_eq_none_iff.mpr fun c _ => hnone c]

/-- The grammar of lines. The reader of steps gives, for any text, what the expression for
steps captures in it, and reads exactly the steps. The reader of headers gives what the
expression for headers captures in a line, and reads exactly the headers. No line is of two
classes that are not prose, so these can be asked for in any order. -/
theorem line_grammar (line : List Char) :
    (∃ regex, Regex.parse stepPattern = .ok regex
        ∧ regex.captures? (String.ofList line)
          = (stepLine? line).map fun step => [some step.1.text, some (String.ofList step.2)])
      ∧ (∀ keyword sentence,
        stepLine? line = some (keyword, sentence) ↔ IsStepLine keyword sentence line)
      ∧ ('\n' ∉ line → ∃ regex, Regex.parse headerPattern = .ok regex
        ∧ regex.captures? (String.ofList line)
          = (headerLine? line).map fun header =>
              [some header.1.text, some (String.ofList header.2)])
      ∧ (∀ word title, headerLine? line = some (word, title) ↔ IsHeaderLine word title line)
      ∧ (∀ c c' : LineClass, (c.read? line).isSome = true → (c'.read? line).isSome = true → c = c')
      ∧ ∀ classes : List LineClass, (∀ c, c ∈ classes) →
        (classes.findSome? (·.read? line)).getD .prose = ScriptLine.of line := by
  refine ⟨⟨stepRegex, parse_stepPattern, captures?_stepRegex line⟩,
    fun _ _ => stepLine?_eq_some_iff,
    fun hline => ⟨headerRegex, parse_headerPattern, captures?_headerRegex hline⟩,
    fun _ _ => headerLine?_eq_some_iff, fun c c' h h' => ?_,
    fun _ hall => of_eq_of_forall_mem hall line⟩
  obtain ⟨read, hread⟩ := Option.isSome_iff_exists.mp h
  obtain ⟨read', hread'⟩ := Option.isSome_iff_exists.mp h'
  exact LineClass.eq_of_reads hread hread'

/-- The line of an outline is not taken for a line of its first word. -/
theorem outline_line_in_reverse_order :
    '\n' ∉ "Scenario Outline : a".toList
      ∧ (∃ regex, Regex.parse headerPattern = .ok regex
        ∧ regex.captures? (String.ofList "Scenario Outline : a".toList)
          = (headerLine? "Scenario Outline : a".toList).map fun header =>
              [some header.1.text, some (String.ofList header.2)])
      ∧ headerLine? "Scenario Outline : a".toList = some (.scenarioOutline, ['a'])
      ∧ (LineClass.all.reverse.findSome? (·.read? "Scenario Outline : a".toList)).getD .prose
        = ScriptLine.of "Scenario Outline : a".toList := by
  obtain ⟨-, -, hheader, -, -, horder⟩ := line_grammar "Scenario Outline : a".toList
  have hline : '\n' ∉ "Scenario Outline : a".toList := by decide
  exact ⟨hline, hheader hline, by decide,
    horder _ fun c => List.mem_reverse.mpr c.mem_all⟩

end ScriptLine

end ScenarioSteps
