import ScenarioSteps.Proofs.Regex.Runs
import ScenarioSteps.Proofs.Text.LetterCase
import ScenarioSteps.Regex.Parse

/-!
# `ScenarioSteps.Proofs.Script.LinePattern`: steps and headers as regular expressions

`stepLine?` and `headerLine?` read a line without regular expressions. Here stand the
expressions that they are the readers of (`stepPattern`, `headerPattern`). Both have blanks at
the ends, one of several words in front, and a text behind it that ends before the last
blanks of the line.

Such an expression leaves little to choose. Greedy loops over blanks take all of them, since
nothing that may follow begins with one or since the rest can be done there. The lazy loop
over the text goes on to the last blanks (`allRounds_upToBlanks`). So what is captured can be
computed, and it is what the readers give: `captures?_stepRegex` for all texts, and
`captures?_headerRegex` for texts that are a line.
-/

set_option autoImplicit false

namespace ScenarioSteps

namespace Text

/-- What stands behind a word in a text that is trimmed at the end is trimmed there. -/
theorem after?_trimEnd {word : List Char} (hword : trimEnd word = word) (cs : List Char) :
    after? word (trimEnd cs) = (after? word cs).map trimEnd := by
  cases hafter : after? word cs with
  | some rest =>
      rw [after?_eq_some_iff] at hafter
      rw [hafter, trimEnd_append hword, Option.map_some, after?_eq_some_iff]
  | none =>
      rw [after?_eq_none_iff] at hafter
      rw [Option.map_none, after?_eq_none_iff]
      exact fun h => hafter (h.trans (List.rdropWhile_prefix isBlank cs))

/-- What stands behind a word at the start of a trimmed line is trimmed at the end. -/
theorem after?_trim {word : List Char} (hword : trimEnd word = word) (cs : List Char) :
    after? word (trim cs) = (after? word (trimStart cs)).map trimEnd :=
  after?_trimEnd hword (trimStart cs)

end Text

/-! ### Sets of the expressions -/

namespace CharSet

/-- The characters that a dot stands for. -/
def noNewline : CharSet :=
  (single '\n').compl

/-- The characters that are no blanks. -/
def noBlank : CharSet :=
  blank.compl

/-- The set of blanks is what trimming drops. -/
theorem mem_blank (c : Char) : blank.mem c = Text.isBlank c :=
  rfl

/-- Its complement is all else. -/
theorem mem_noBlank (c : Char) : noBlank.mem c = !Text.isBlank c := by
  have hintervals : noBlank.intervals
      = [(0, 8), (14, 31), (33, 132), (134, 159), (161, 5759), (5761, 8191), (8203, 8231),
          (8234, 8238), (8240, 8286), (8288, 12287), (12289, 0xd7ff), (0xe000, 0x10ffff)] := by
    decide
  have hvalid : c.toNat < 0xd800 ∨ (0xdfff < c.toNat ∧ c.toNat < 0x110000) := c.valid
  rw [Bool.eq_iff_iff]
  simp only [mem, hintervals, Text.isBlank, Text.within, Text.blankRanges]
  simp
  omega

/-- A line feed is the one character that is not in the set of the dot. -/
theorem mem_noNewline (c : Char) : noNewline.mem c = true ↔ c ≠ '\n' := by
  have hintervals : noNewline.intervals = [(0, 9), (11, 0xd7ff), (0xe000, 0x10ffff)] := by
    decide
  have hvalid : c.toNat < 0xd800 ∨ (0xdfff < c.toNat ∧ c.toNat < 0x110000) := c.valid
  have hnewline : c = '\n' ↔ c.toNat = 10 := Char.toNat_inj.symm
  rw [ne_eq, hnewline]
  simp only [mem, hintervals, Text.within]
  simp
  omega

end CharSet

namespace Regex

/-! ### Up to the last blanks -/

/-- Blanks, as many as there are. -/
def blanks (least : Nat) : Regex :=
  .repeat ⟨least, none, true⟩ (set .blank)

/-- Blanks up to the end. -/
def lastBlanks : Regex :=
  seq (blanks 0) (anchor .textEnd)

/-- The blanks at the end match where nothing but blanks is left. -/
theorem attempt_lastBlanks (s : Spot) (trail : Trail) :
    lastBlanks.attempt .accept s trail
      = if s.rest.all Text.isBlank then some trail else none := by
  -- The text does not end in front of a blank, so the loop takes all of them.
  have hleave : ∀ (s : Spot) (trail : Trail) (c : Char) (rest : List Char),
      s.rest = c :: rest → CharSet.blank.mem c = true →
        Goal.check .textEnd .accept s trail = none := by
    intro s trail c rest hrest _
    rw [Goal.check, hrest]
    rfl
  refine (allRounds_eq_skip hleave s trail).trans ?_
  rw [Goal.check]
  refine if_congr ?_ rfl rfl
  rw [List.all_eq_true, ← List.dropWhile_eq_nil_iff]
  exact Option.isNone_iff_eq_none.trans List.head?_eq_none_iff

/-- The lazy loop over a text in front of the last blanks goes on up to these, if the text has
no line feed. -/
theorem allRounds_upToBlanks (mark : Mark) (s : Spot) (trail : Trail) :
    Goal.allRounds false (Goal.eat .noNewline) (.save mark (lastBlanks.attempt .accept)) s trail
      = if '\n' ∈ Text.trimEnd s.rest then none
        else some ((mark, s.position + (Text.trimEnd s.rest).length) :: trail) := by
  obtain ⟨before, position, cs⟩ := s
  induction cs generalizing before position with
  | nil =>
      have htrim : Text.trimEnd [] = [] := rfl
      rw [allRounds_nil, Goal.save, attempt_lastBlanks, htrim, if_pos (by simp), if_neg (by simp)]
      rfl
  | cons c rest ih =>
      -- The loop is left as soon as all that follows is blank, and goes on otherwise.
      rw [allRounds_lazy_cons, Goal.save, attempt_lastBlanks]
      by_cases hblank : ∀ d ∈ c :: rest, Text.isBlank d = true
      · have htrim : Text.trimEnd (c :: rest) = [] :=
          (Text.trimEnd_append_blanks [] (c :: rest) hblank).trans rfl
        rw [if_pos (List.all_eq_true.mpr hblank), Option.some_or, htrim]
        rfl
      · rw [if_neg (hblank ∘ List.all_eq_true.mp), Option.none_or,
          Text.trimEnd_cons_of_not_blank hblank]
        by_cases hc : c = '\n'
        · subst hc
          rw [if_neg (by simp [CharSet.mem_noNewline]), if_pos List.mem_cons_self]
        · rw [if_pos ((CharSet.mem_noNewline c).mpr hc), ih]
          refine if_congr (by simp [Ne.symm hc]) rfl ?_
          rw [List.length_cons, Nat.add_right_comm, Nat.add_assoc]

/-! ### A word in front -/

/-- A line that begins with one of several words, up to blanks in front. -/
def wordLine (words : List (List Char)) (behind : Regex) : Regex :=
  seq (anchor .textStart) (seq (blanks 0) (seq (group 1 (ofBranches (words.map literal))) behind))

/-- The spot behind a word that stands behind the blanks in front of a text. -/
def Spot.behindWord (text word rest : List Char) : Spot :=
  ((Spot.start text).skip .blank).after word rest

/-- The places of a word that stands behind the blanks in front of a text. -/
def Trail.ofWord (text word : List Char) : Trail :=
  [(⟨1, true⟩, Text.lead text + word.length), (⟨1, false⟩, Text.lead text)]

/-- The spot behind a word is as far in as the blanks in front and the word are long. -/
theorem position_behindWord (text word rest : List Char) :
    (Spot.behindWord text word rest).position = Text.lead text + word.length :=
  congrArg (· + word.length) (Nat.zero_add _)

/-- What is left there is what stands behind the word. -/
theorem rest_behindWord (text word rest : List Char) :
    (Spot.behindWord text word rest).rest = rest :=
  rfl

/-- The first word behind which the rest can be read is found. -/
theorem search?_wordLine {words : List (List Char)} {behind : Regex}
    (hwords : ∀ word ∈ words, word.head?.any (!Text.isBlank ·) = true)
    (hloops : (wordLine words behind).loopsConsume = true) (text : List Char) :
    (wordLine words behind).search? text
      = words.findSome? fun word =>
          (Text.after? word (Text.trimStart text)).bind fun rest =>
            behind.attempt .accept (.behindWord text word rest) (.ofWord text word) := by
  have hstart : 0 + (text.takeWhile CharSet.blank.mem).length = Text.lead text := Nat.zero_add _
  -- No word begins with a blank, so all blanks in front are taken.
  have hleave : ∀ (s : Spot) (trail : Trail) (c : Char) (rest : List Char),
      s.rest = c :: rest → CharSet.blank.mem c = true →
        (seq (group 1 (ofBranches (words.map literal))) behind).attempt .accept s trail = none := by
    intro s trail c rest hrest hc
    refine (attempt_ofBranches_literal words _ s _).trans (List.findSome?_eq_none_iff.mpr ?_)
    intro word hword
    have hblank := hwords word hword
    cases word with
    | nil => cases hblank
    | cons d word =>
        rw [hrest, Text.after?_cons, if_neg, Option.bind_none]
        rintro rfl
        rw [CharSet.mem_blank] at hc
        rw [List.head?_cons, Option.any_some, hc] at hblank
        cases hblank
  have hloops' : (seq (blanks 0)
      (seq (group 1 (ofBranches (words.map literal))) behind)).loopsConsume = true :=
    hloops
  refine (search?_anchored hloops' text).trans ?_
  refine (allRounds_eq_skip hleave (Spot.start text) []).trans ?_
  refine (attempt_ofBranches_literal words _ _ _).trans ?_
  refine congrArg (List.findSome? · words) (funext fun word => Option.bind_congr fun rest _ => ?_)
  show behind.attempt .accept (.behindWord text word rest)
    [(⟨1, true⟩, 0 + (text.takeWhile CharSet.blank.mem).length + word.length),
      (⟨1, false⟩, 0 + (text.takeWhile CharSet.blank.mem).length)] = _
  rw [hstart]
  rfl

/-! ### The text behind it -/

/-- The places of the text of a line. -/
def Trail.ofText (start : Nat) (text : List Char) (trail : Trail) : Trail :=
  (⟨2, true⟩, start + text.length) :: (⟨2, false⟩, start) :: trail

/-- A text on one line that begins with no blank, up to the last blanks. -/
def sentenceText : Regex :=
  seq (group 2 (seq (set .noBlank) (.repeat ⟨0, none, false⟩ (set .noNewline)))) lastBlanks

/-- The text is a character that is no blank, as few others as possible, and the last blanks.
-/
theorem attempt_sentenceText_eq : sentenceText.attempt .accept
    = .save ⟨2, false⟩ (.eat .noBlank (.allRounds false (.eat .noNewline)
        (.save ⟨2, true⟩ (lastBlanks.attempt .accept)))) :=
  rfl

/-- No text begins with a blank. -/
theorem attempt_sentenceText_of_blank (s : Spot) (trail : Trail) (c : Char) (rest : List Char)
    (hrest : s.rest = c :: rest) (hc : CharSet.blank.mem c = true) :
    sentenceText.attempt .accept s trail = none := by
  obtain ⟨before, position, _⟩ := s
  subst hrest
  rw [attempt_sentenceText_eq, Goal.save, eat_cons, CharSet.mem_noBlank, ← CharSet.mem_blank, hc]
  rfl

/-- The text goes on to the last blanks, if it is not empty and stands on one line. -/
theorem attempt_sentenceText {s : Spot} (hfirst : ∀ c ∈ s.rest.head?, Text.isBlank c = false)
    (trail : Trail) :
    sentenceText.attempt .accept s trail
      = if Text.trimEnd s.rest ≠ [] ∧ '\n' ∉ Text.trimEnd s.rest then
          some (.ofText s.position (Text.trimEnd s.rest) trail)
        else none := by
  obtain ⟨before, position, cs⟩ := s
  rw [attempt_sentenceText_eq, Goal.save]
  cases cs with
  | nil => rfl
  | cons c rest =>
      have hc : Text.isBlank c = false := hfirst c rfl
      have hnewline : '\n' ≠ c := by
        rintro rfl
        cases hc
      have htrim : Text.trimEnd (c :: rest) = c :: Text.trimEnd rest :=
        Text.trimEnd_cons_of_not_blank fun hblank => by simp [hc] at hblank
      -- The first character is no blank, and from the second on blanks may follow up to the end.
      rw [eat_cons, CharSet.mem_noBlank, hc, Bool.not_false, if_pos rfl, allRounds_upToBlanks,
        htrim, Trail.ofText, List.length_cons, ← ite_not]
      refine if_congr (by simp [hnewline]) ?_ rfl
      rw [Nat.add_right_comm, Nat.add_assoc]

/-- A sentence behind blanks. -/
def sentence : Regex :=
  seq (blanks 1) sentenceText

/-- A sentence is not empty, stands behind a blank, and has no line feed. -/
theorem attempt_sentence (s : Spot) (trail : Trail) :
    sentence.attempt .accept s trail
      = if s.rest.head?.any Text.isBlank = true ∧ Text.trim s.rest ≠ []
            ∧ '\n' ∉ Text.trim s.rest then
          some (.ofText (s.position + Text.lead s.rest) (Text.trim s.rest) trail)
        else none := by
  have hattempt : sentence.attempt .accept
      = .eat .blank (.allRounds true (.eat .blank) (sentenceText.attempt .accept)) := rfl
  obtain ⟨before, position, cs⟩ := s
  cases cs with
  | nil => rfl
  | cons c rest =>
      rw [hattempt, eat_cons, allRounds_eq_skip attempt_sentenceText_of_blank]
      by_cases hc : CharSet.blank.mem c = true
      · -- The first blank is one of those that are skipped.
        have hany : (some c).any Text.isBlank = true := hc
        rw [if_pos hc, ← Spot.skip_of_mem before hc,
          attempt_sentenceText (Text.isBlank_head?_trimStart (c :: rest))]
        exact if_congr (by simp [hany]; rfl) rfl rfl
      · have hany : (some c).any Text.isBlank ≠ true := hc
        rw [if_neg hc, List.head?_cons, if_neg fun h => hany h.1]

/-- A title behind a colon, with or without blanks around this. -/
def title : Regex :=
  seq (blanks 0) (seq (literal [':']) (seq (blanks 0)
    (seq (group 2 (.repeat ⟨0, none, false⟩ (set .noNewline))) lastBlanks)))

/-- The title of a line is all that stands behind its first colon. -/
theorem attempt_title {s : Spot} (hline : '\n' ∉ s.rest) (trail : Trail) :
    title.attempt .accept s trail
      = (Text.after? [':'] (Text.trimStart s.rest)).bind fun rest =>
          some (.ofText (s.position + Text.lead s.rest + 1 + Text.lead rest) (Text.trim rest)
            trail) := by
  have hattempt : title.attempt .accept
      = .allRounds true (.eat .blank) (.eatAll [':'] (.allRounds true (.eat .blank)
          (.save ⟨2, false⟩ (.allRounds false (.eat .noNewline)
            (.save ⟨2, true⟩ (lastBlanks.attempt .accept)))))) := rfl
  -- A colon is no blank, so the blanks in front of it are all taken.
  have hleave : ∀ (leave : Goal) (s : Spot) (trail : Trail) (c : Char) (rest : List Char),
      s.rest = c :: rest → CharSet.blank.mem c = true → Goal.eatAll [':'] leave s trail = none := by
    intro leave s trail c rest hrest hc
    rw [eatAll_eq, hrest, Text.after?_cons, if_neg, Option.bind_none]
    rintro rfl
    cases hc
  rw [hattempt, allRounds_eq_skip (hleave _), eatAll_eq]
  refine Option.bind_congr fun rest hrest => ?_
  -- A title may begin with a blank, but the loop takes all it can if the title can be read
  -- behind them, and that it can without a line feed.
  refine allRounds_eq_some ?_
  rw [Goal.save, allRounds_upToBlanks, if_neg]
  · rfl
  · intro hmem
    have hrest : Text.trimStart s.rest = [':'] ++ rest := Text.after?_eq_some_iff.mp hrest
    have hbehind : '\n' ∈ Text.trimStart s.rest :=
      hrest ▸ List.mem_append_right _ (Text.mem_of_mem_trim hmem)
    exact hline ((List.dropWhile_suffix _).subset hbehind)

/-! ### What is captured -/

/-- What a group captures is what stands between its places. -/
theorem group?_of_lookup {trail : Trail} {index : Nat} {text before inside behind : List Char}
    (htext : text = before ++ (inside ++ behind))
    (hstart : trail.lookup ⟨index, false⟩ = some before.length)
    (hstop : trail.lookup ⟨index, true⟩ = some (before.length + inside.length)) :
    trail.group? text index = some (String.ofList inside) := by
  simp [Trail.group?, hstart, hstop, htext]

/-- A text that begins with a word, up to blanks, has the word at its places. -/
theorem group?_ofWord {text word rest : List Char} (htext : Text.trimStart text = word ++ rest)
    (start : Nat) (inside : List Char) :
    (Trail.ofText start inside (.ofWord text word)).group? text 1 = some (String.ofList word) := by
  have hsplit : text = text.takeWhile Text.isBlank ++ (word ++ rest) := by
    rw [← htext, Text.takeWhile_append_trimStart]
  exact group?_of_lookup hsplit rfl rfl

/-- What stands between the last places of a line is its text. -/
theorem group?_ofText {text before inside behind : List Char} {start : Nat}
    (htext : text = before ++ (inside ++ behind)) (hstart : start = before.length)
    (trail : Trail) :
    (Trail.ofText start inside trail).group? text 2 = some (String.ofList inside) := by
  subst hstart
  exact group?_of_lookup htext rfl rfl

/-- What the two groups of a line capture, for the first word behind which the rest can be
read. -/
theorem captures?_wordLine {α : Type} {all : List α} {spell : α → List Char} {behind : Regex}
    (hwords : ∀ word ∈ all.map spell, word.head?.any (!Text.isBlank ·) = true)
    (hloops : (wordLine (all.map spell) behind).loopsConsume = true)
    (hcount : (wordLine (all.map spell) behind).groupCount = 2) (text : List Char) :
    (wordLine (all.map spell) behind).captures? (String.ofList text)
      = all.findSome? fun word =>
          (Text.after? (spell word) (Text.trimStart text)).bind fun rest =>
            (behind.attempt .accept (.behindWord text (spell word) rest)
              (.ofWord text (spell word))).map fun trail =>
                [trail.group? text 1, trail.group? text 2] := by
  have hgroups : (wordLine (all.map spell) behind).captures? (String.ofList text)
      = ((wordLine (all.map spell) behind).search? text).map fun trail =>
          [trail.group? text 1, trail.group? text 2] := by
    rw [captures?, hcount, String.toList_ofList]
    rfl
  rw [hgroups, search?_wordLine hwords hloops, List.findSome?_map, List.map_findSome?]
  exact congrArg (List.findSome? · all) (funext fun word => Option.map_bind ..)

end Regex

/-! ### Steps and headers -/

/-- A step, as a regular expression. Patterns ignore case unless they say otherwise, and words
of lines do not. -/
def stepPattern : String :=
  "(?-i)^\\s*(Given|When|Then|And|But|\\*)\\s+(\\S.*?)\\s*$"

/-- A header, as a regular expression. -/
def headerPattern : String :=
  "(?-i)^\\s*(Feature|Rule|Background|Scenario Outline|Scenario Template|Scenario|Examples|Example"
    ++ "|Scenarios)\\s*:\\s*(.*?)\\s*$"

/-- The expression for lines of steps. -/
def stepRegex : Regex :=
  .wordLine (Keyword.all.map (·.text.toList)) .sentence

/-- The expression for lines of headers. -/
def headerRegex : Regex :=
  .wordLine (Header.all.map (·.text.toList)) .title

/-- The source for steps reads as its expression. -/
theorem parse_stepPattern : Regex.parse stepPattern = .ok stepRegex := by
  decide

/-- So does the source for headers. -/
theorem parse_headerPattern : Regex.parse headerPattern = .ok headerRegex := by
  decide +kernel

/-- The reader of steps need not trim the end of a text before it looks for the keyword. -/
theorem stepLine?_eq (text : List Char) :
    stepLine? text = Keyword.all.findSome? fun keyword =>
      (Text.after? keyword.text.toList (Text.trimStart text)).bind fun rest =>
        if rest.head?.any Text.isBlank = true ∧ Text.trim rest ≠ [] ∧ '\n' ∉ Text.trim rest then
          some (keyword, Text.trim rest)
        else none := by
  rw [stepLine?]
  refine congrArg (List.findSome? · Keyword.all) (funext fun keyword => ?_)
  have hword : Text.trimEnd keyword.text.toList = keyword.text.toList := by
    cases keyword <;> decide
  rw [Text.after?_trim hword, Option.bind_eq_bind, Option.bind_map]
  refine Option.bind_congr fun rest _ => ?_
  rw [Function.comp_apply, ← Text.trim_eq_trimStart_trimEnd]
  refine if_congr ?_ rfl rfl
  rw [Bool.and_eq_true, Bool.and_eq_true, and_assoc]
  have hsentence : (!(Text.trim rest).isEmpty) = true ∧ (!(Text.trim rest).contains '\n') = true
      ↔ Text.trim rest ≠ [] ∧ '\n' ∉ Text.trim rest := by
    simp
  rw [hsentence]
  -- The first character behind the keyword is the same before the end is trimmed and after,
  -- unless there is nothing but blanks.
  refine and_congr_left fun h => ?_
  have hne : Text.trimEnd rest ≠ [] := by
    intro hnil
    exact h.1 (by rw [Text.trim_eq_trimStart_trimEnd, hnil]; rfl)
  rw [Text.head?_trimEnd hne]

/-- The reader of headers need not trim the end of a text before it looks for the word. -/
theorem headerLine?_eq (line : List Char) :
    headerLine? line = Header.all.findSome? fun word =>
      (Text.after? word.text.toList (Text.trimStart line)).bind fun rest =>
        (Text.after? [':'] (Text.trimStart rest)).map fun title => (word, Text.trim title) := by
  rw [headerLine?]
  refine congrArg (List.findSome? · Header.all) (funext fun word => ?_)
  have hword : Text.trimEnd word.text.toList = word.text.toList := by
    cases word <;> decide
  rw [Text.after?_trim hword, Option.bind_eq_bind, Option.bind_map]
  refine Option.bind_congr fun rest _ => ?_
  have hcolon := Text.after?_trim (by decide : Text.trimEnd [':'] = [':']) rest
  rw [Function.comp_apply, ← Text.trim_eq_trimStart_trimEnd]
  split
  -- What is left behind the colon is trimmed in any case, so trimming before changes nothing.
  · next title htitle =>
      have hread : Text.after? [':'] (Text.trim rest) = some title :=
        Text.after?_eq_some_iff.mpr htitle
      obtain ⟨behind, hbehind, rfl⟩ := Option.map_eq_some_iff.mp (hcolon.symm.trans hread)
      rw [hbehind, Option.map_some, Text.trim_eq_trimStart_trimEnd (Text.trimEnd behind),
        Text.trimEnd_trimEnd, ← Text.trim_eq_trimStart_trimEnd]
  · next htitle =>
      have hread : Text.after? [':'] (Text.trim rest) = none := by
        rw [Text.after?_eq_none_iff]
        rintro ⟨title, hprefix⟩
        exact htitle title hprefix.symm
      rw [Option.map_eq_none_iff.mp (hcolon.symm.trans hread)]
      rfl

/-- What the expression for steps captures in a text is what the reader of steps gives. -/
theorem captures?_stepRegex (text : List Char) :
    stepRegex.captures? (String.ofList text)
      = (stepLine? text).map fun step =>
          [some step.1.text, some (String.ofList step.2)] := by
  rw [stepRegex, Regex.captures?_wordLine (by decide) (by decide) (by decide), stepLine?_eq,
    List.map_findSome?]
  refine congrArg (List.findSome? · Keyword.all) (funext fun keyword => ?_)
  rw [Function.comp_apply, Option.map_bind]
  refine Option.bind_congr fun rest hrest => ?_
  rw [Text.after?_eq_some_iff] at hrest
  rw [Function.comp_apply, Regex.attempt_sentence, apply_ite (Option.map _),
    apply_ite (Option.map _)]
  refine if_congr Iff.rfl ?_ rfl
  -- The places are those of the keyword and of the sentence in the text.
  obtain ⟨before, behind, hsplit, hlead⟩ := Text.exists_eq_trim_append rest
  have htext : text = (text.takeWhile Text.isBlank ++ keyword.text.toList ++ before)
      ++ (Text.trim rest ++ behind) := by
    rw [List.append_assoc, ← hsplit, List.append_assoc, ← hrest, Text.takeWhile_append_trimStart]
  rw [Option.map_some, Option.map_some, Regex.group?_ofWord hrest, String.ofList_toList,
    Regex.rest_behindWord, Regex.group?_ofText htext]
  simp only [List.length_append, hlead, Regex.position_behindWord]
  rfl

/-- What the expression for headers captures in a line is what the reader of headers gives. -/
theorem captures?_headerRegex {line : List Char} (hline : '\n' ∉ line) :
    headerRegex.captures? (String.ofList line)
      = (headerLine? line).map fun header =>
          [some header.1.text, some (String.ofList header.2)] := by
  rw [headerRegex, Regex.captures?_wordLine (by decide) (by decide) (by decide), headerLine?_eq,
    List.map_findSome?]
  refine congrArg (List.findSome? · Header.all) (funext fun word => ?_)
  rw [Function.comp_apply, Option.map_bind]
  refine Option.bind_congr fun rest hrest => ?_
  rw [Text.after?_eq_some_iff] at hrest
  have hrestLine : '\n' ∉ rest := fun hmem => hline <|
    (List.dropWhile_suffix _).subset (hrest ▸ List.mem_append_right _ hmem)
  rw [Function.comp_apply, Regex.attempt_title hrestLine, Option.map_bind, Option.map_map,
    Option.map_eq_bind]
  refine Option.bind_congr fun title htitle => ?_
  have htitle : Text.trimStart rest = [':'] ++ title := Text.after?_eq_some_iff.mp htitle
  -- The title is a part of the line, at the place where the group has captured it.
  obtain ⟨before, behind, hsplit, hlead⟩ := Text.exists_eq_trim_append title
  have hsplitLine : line = (line.takeWhile Text.isBlank ++ word.text.toList
      ++ rest.takeWhile Text.isBlank ++ [':'] ++ before) ++ (Text.trim title ++ behind) := by
    rw [List.append_assoc, ← hsplit, List.append_assoc, ← htitle, List.append_assoc,
      Text.takeWhile_append_trimStart, List.append_assoc, ← hrest, Text.takeWhile_append_trimStart]
  simp only [Function.comp_apply, Option.map_some]
  rw [Regex.group?_ofWord hrest, String.ofList_toList, Regex.group?_ofText hsplitLine]
  simp only [List.length_append, hlead, Regex.position_behindWord]
  rfl

end ScenarioSteps
