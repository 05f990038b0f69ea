import ScenarioSteps.Declaration.Format
import ScenarioSteps.Proofs.Literal.Escape
import ScenarioSteps.Proofs.Text.Lines

/-!
# `ScenarioSteps.Proofs.Declaration.ReadBack`: a declaration names its step

`read_format` proves that `Declaration.read` takes kind and sentence off
every declaration that `Declaration.format` writes, for each output target
and whatever sentence and body hold.

The reader cuts the first line at fixed marks, which a sentence may
imitate. Two facts keep the cuts where they belong. The mark in front of
the sentence is looked for from the left, where only the word of the kind
stands before it (`splitAt?_append`), and the mark behind it is taken off
at the end of the line (`before?_append`). What is left between the two is
the escaped sentence, which reads back whatever it is.

The first line ends where it should, since no escape writes a character that
ends a line (`firstLine_not_lineEnd`).
-/

set_option autoImplicit false

namespace ScenarioSteps.Declaration

/-! ### The cuts of the reader -/

/-- The first place where a mark occurs is behind a text without the first
character of the mark. -/
theorem splitAt?_append (c : Char) (mark before rest : List Char) (hbefore : c ∉ before) :
    splitAt? (c :: mark) (before ++ (c :: mark) ++ rest) = some (before, rest) := by
  induction before with
  | nil =>
      simp [splitAt?, Text.after?]
  | cons d before ih =>
      rw [List.mem_cons, not_or] at hbefore
      have hnot : Text.after? (c :: mark) (d :: (before ++ (c :: mark) ++ rest)) = none := by
        simp [Text.after?, hbefore.1]
      rw [List.cons_append, List.cons_append, splitAt?, hnot, ih hbefore.2]
      rfl

/-- The text before an ending. -/
theorem before?_append (ending cs : List Char) : before? ending (cs ++ ending) = some cs := by
  simp [before?]

/-- The text behind a start. -/
theorem after?_append (start cs : List Char) : Text.after? start (start ++ cs) = some cs := by
  simp [Text.after?]

/-- The word of a kind and an escaped sentence. -/
theorem readParts_eq (kind : StepKind) (sentence : String) {escape : Char → List Char}
    (hescape : Literal.ReadsBack escape) :
    readParts kind.word.toList (sentence.toList.flatMap escape) = some (kind, sentence) := by
  have hword : StepKind.ofWord? kind.word = some kind := by cases kind <;> rfl
  rw [readParts, String.ofList_toList, hword, hescape.unescapeChars_flatMap,
    String.ofList_toList]
  rfl

/-! ### The first line -/

/-- What stands before the word of the kind. -/
def start : OutputTarget → String
  | .cucumber => ""
  | .playwrightBdd => "await test.step(\""
  | .generic => "// "

/-- What stands between the word of the kind and the sentence. -/
def between : OutputTarget → String
  | .cucumber => "(/^"
  | .playwrightBdd | .generic => " "

/-- The escape of the sentence. -/
def escape : OutputTarget → Char → List Char
  | .cucumber => Literal.regexChar
  | .playwrightBdd => Literal.stringChar '"'
  | .generic => Literal.commentChar

/-- What stands behind the sentence. -/
def ending : OutputTarget → String
  | .cucumber => "$/, async function () \x7b"
  | .playwrightBdd => "\", async () => \x7b"
  | .generic => ""

/-- The first line of a declaration, without its end. -/
def firstLine (target : OutputTarget) (kind : StepKind) (sentence : String) : List Char :=
  (start target).toList
    ++ (kind.word.toList ++ (between target).toList
      ++ (sentence.toList.flatMap (escape target) ++ (ending target).toList))

/-- The escape of each target reads back. -/
theorem readsBack_escape (target : OutputTarget) : Literal.ReadsBack (escape target) := by
  cases target with
  | cucumber => exact Literal.readsBack_regexChar
  | playwrightBdd => exact Literal.readsBack_stringChar (by decide)
  | generic => exact Literal.readsBack_commentChar

/-- No escape of a target ends a line. -/
theorem escape_not_lineEnd (target : OutputTarget) (c : Char) :
    ∀ d ∈ escape target c, d ∉ Literal.lineEnds := by
  cases target with
  | cucumber => exact Literal.regexChar_not_lineEnd c
  | playwrightBdd => exact Literal.stringChar_not_lineEnd (by decide) c
  | generic => exact Literal.commentChar_not_lineEnd c

/-- What a declaration opens with. Only the generic form has a line with a bracket before the
body. -/
theorem toList_opening (target : OutputTarget) (kind : StepKind) (sentence : String) :
    (opening target kind sentence).toList
      = firstLine target kind sentence
        ++ '\n' :: if target = .generic then ['\x7b', '\n'] else [] := by
  cases target with
  | cucumber =>
      have hend : "$/, async function () \x7b\n".toList
          = (ending .cucumber).toList ++ ['\n'] := by decide
      unfold opening
      simp only [String.toList_append, hend, Literal.escapeRegex, Literal.escapeWith,
        String.toList_ofList, firstLine, List.append_assoc]
      rfl
  | playwrightBdd =>
      have hend : "\", async () => \x7b\n".toList
          = (ending .playwrightBdd).toList ++ ['\n'] := by decide
      unfold opening
      simp only [String.toList_append, hend, Literal.escapeString, Literal.escapeWith,
        String.toList_ofList, firstLine, List.append_assoc]
      rfl
  | generic =>
      have hend : "\n\x7b\n".toList = (ending .generic).toList ++ ['\n', '\x7b', '\n'] := by
        decide
      unfold opening
      simp only [String.toList_append, hend, Literal.escapeComment, Literal.escapeWith,
        String.toList_ofList, firstLine, List.append_assoc]
      rfl

/-- A declaration begins with its first line. -/
theorem toList_format (target : OutputTarget) (kind : StepKind) (sentence body : String) :
    ∃ rest, (format target kind sentence body).toList
      = firstLine target kind sentence ++ '\n' :: rest := by
  refine ⟨(if target = .generic then ['\x7b', '\n'] else [])
    ++ (indent bodyIndent body ++ closing target).toList, ?_⟩
  simp only [format, String.append_assoc, String.toList_append (s := opening _ _ _), toList_opening,
    List.append_assoc, List.cons_append]

/-- No character of the first line ends a line of JavaScript. -/
theorem firstLine_not_lineEnd (target : OutputTarget) (kind : StepKind) (sentence : String) :
    ∀ c ∈ firstLine target kind sentence, c ∉ Literal.lineEnds := by
  have hstart : ∀ c ∈ (start target).toList, c ∉ Literal.lineEnds := by
    cases target <;> exact List.all_iff_forall_prop.mp (by decide)
  have hword : ∀ c ∈ kind.word.toList, c ∉ Literal.lineEnds := by
    cases kind <;> exact List.all_iff_forall_prop.mp (by decide)
  have hbetween : ∀ c ∈ (between target).toList, c ∉ Literal.lineEnds := by
    cases target <;> exact List.all_iff_forall_prop.mp (by decide)
  have hending : ∀ c ∈ (ending target).toList, c ∉ Literal.lineEnds := by
    cases target <;> exact List.all_iff_forall_prop.mp (by decide)
  have hsentence : ∀ d ∈ sentence.toList.flatMap (escape target), d ∉ Literal.lineEnds := by
    intro d hd
    obtain ⟨c, -, hdc⟩ := List.mem_flatMap.mp hd
    exact escape_not_lineEnd target c d hdc
  simp only [firstLine, List.forall_mem_append]
  exact ⟨hstart, ⟨hword, hbetween⟩, hsentence, hending⟩

/-! ### Reading the first line -/

/-- For Cucumber, two cuts leave the word of the kind and the escaped sentence. -/
theorem readLine_cucumber {line word rest escaped : List Char}
    (hcut : splitAt? (between .cucumber).toList line = some (word, rest))
    (hend : before? (ending .cucumber).toList rest = some escaped) :
    readLine .cucumber line = readParts word escaped := by
  show (splitAt? (between .cucumber).toList line >>= _) = _
  rw [hcut]
  show (before? (ending .cucumber).toList rest >>= _) = _
  rw [hend]
  rfl

/-- For `playwright-bdd`, three cuts do, the first of them behind the indentation. -/
theorem readLine_playwrightBdd {line inner outer word escaped : List Char}
    (hstart : Text.after? (start .playwrightBdd).toList line = some inner)
    (hend : before? (ending .playwrightBdd).toList inner = some outer)
    (hcut : splitAt? (between .playwrightBdd).toList outer = some (word, escaped)) :
    readLine .playwrightBdd line = readParts word escaped := by
  show (Text.after? (start .playwrightBdd).toList line >>= _) = _
  rw [hstart]
  show (before? (ending .playwrightBdd).toList inner >>= _) = _
  rw [hend]
  show (splitAt? (between .playwrightBdd).toList outer >>= _) = _
  rw [hcut]
  rfl

/-- For the generic target there is nothing to be cut off at the end. -/
theorem readLine_generic {line inner word escaped : List Char}
    (hstart : Text.after? (start .generic).toList line = some inner)
    (hcut : splitAt? (between .generic).toList inner = some (word, escaped)) :
    readLine .generic line = readParts word escaped := by
  show (Text.after? (start .generic).toList line >>= _) = _
  rw [hstart]
  show (splitAt? (between .generic).toList inner >>= _) = _
  rw [hcut]
  rfl

/-- The mark between word and sentence is first found behind the word, whatever
the sentence holds. -/
theorem splitAt?_between (target : OutputTarget) (kind : StepKind) (rest : List Char) :
    splitAt? (between target).toList (kind.word.toList ++ (between target).toList ++ rest)
      = some (kind.word.toList, rest) := by
  cases target with
  | cucumber => exact splitAt?_append '(' ['/', '^'] _ rest (by cases kind <;> decide)
  | playwrightBdd => exact splitAt?_append ' ' [] _ rest (by cases kind <;> decide)
  | generic => exact splitAt?_append ' ' [] _ rest (by cases kind <;> decide)

/-- The first line reads as the kind and the sentence. -/
theorem readLine_firstLine (target : OutputTarget) (kind : StepKind) (sentence : String) :
    readLine target (firstLine target kind sentence) = some (kind, sentence) := by
  have hparts := readParts_eq kind sentence (readsBack_escape target)
  rw [← hparts]
  cases target with
  | cucumber =>
      have hcut := splitAt?_between .cucumber kind
        (sentence.toList.flatMap (escape .cucumber) ++ (ending .cucumber).toList)
      exact readLine_cucumber hcut (before?_append _ _)
  | playwrightBdd =>
      have hcut := splitAt?_between .playwrightBdd kind
        (sentence.toList.flatMap (escape .playwrightBdd))
      -- The ending is taken off before the line is cut, so a sentence may hold it as well.
      refine readLine_playwrightBdd (after?_append _ _) ?_ hcut
      rw [← List.append_assoc]
      exact before?_append _ _
  | generic =>
      have hcut := splitAt?_between .generic kind
        (sentence.toList.flatMap (escape .generic))
      refine readLine_generic (after?_append _ _) ?_
      rw [show (ending .generic).toList = [] from rfl, List.append_nil]
      exact hcut

/-- The first line of a declaration has no line feed before its end. -/
theorem firstLine_not_newline (target : OutputTarget) (kind : StepKind) (sentence : String) :
    ∀ c ∈ firstLine target kind sentence, c ≠ '\n' := by
  rintro c hc rfl
  exact firstLine_not_lineEnd target kind sentence _ hc (by decide)

/-- The first line has no carriage return that could get lost. -/
theorem dropReturn_firstLine (target : OutputTarget) (kind : StepKind) (sentence : String) :
    Text.dropReturn (firstLine target kind sentence) = firstLine target kind sentence :=
  Text.dropReturn_of_not_mem fun h => firstLine_not_lineEnd target kind sentence _ h (by decide)

/-- A declaration reads back as the kind and the sentence it was written for. -/
theorem read_eq_some (target : OutputTarget) (kind : StepKind) (sentence body : String) :
    read target (format target kind sentence body) = some (kind, sentence) := by
  obtain ⟨rest, htext⟩ := toList_format target kind sentence body
  obtain ⟨others, hlines⟩ := Text.lines_append_newline (firstLine target kind sentence) rest
    fun h => firstLine_not_newline target kind sentence '\n' h rfl
  rw [read, htext, hlines, dropReturn_firstLine]
  exact readLine_firstLine target kind sentence

/-- Every declaration reads back as the kind and the sentence it was written
for, and its first line is one line of JavaScript. -/
theorem read_format (target : OutputTarget) (kind : StepKind) (sentence body : String) :
    read target (format target kind sentence body) = some (kind, sentence)
      ∧ ∀ c ∈ (format target kind sentence body).toList.takeWhile (· != '\n'),
          c ≠ '\r' ∧ c ≠ '\u2028' ∧ c ≠ '\u2029' := by
  refine ⟨read_eq_some target kind sentence body, fun c hc => ?_⟩
  obtain ⟨rest, htext⟩ := toList_format target kind sentence body
  have hnewline := firstLine_not_newline target kind sentence
  rw [htext, List.takeWhile_append_of_pos (by simpa using hnewline),
    List.takeWhile_cons_of_neg (by simp), List.append_nil] at hc
  have hend := firstLine_not_lineEnd target kind sentence c hc
  simp only [Literal.lineEnds, List.mem_cons, List.not_mem_nil, or_false, not_or] at hend
  exact hend.2

end ScenarioSteps.Declaration
