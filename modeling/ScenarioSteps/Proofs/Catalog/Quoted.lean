import ScenarioSteps.Proofs.Catalog.Standard
import ScenarioSteps.Proofs.Pattern.Dispatch
import ScenarioSteps.Proofs.Text.Lines
import ScenarioSteps.Proofs.Text.Trim

/-!
# `ScenarioSteps.Proofs.Catalog.Quoted`: quoted texts and dispatch

The sample of a pattern is a sentence with texts in quotation marks. `Quoted`
takes it apart, so that other texts can be put between the marks.

With other texts, a sample still goes to its pattern, and the groups between
quotation marks hold these texts, if and only if no pattern before it occurs in
the part of the sentence from the first to the last quotation mark
(`Registry.resolve?_quoted_iff`). Whatever stands between the marks, an earlier
pattern cannot use the words around them. For each pattern this is settled once
for all texts, on a template with gaps (`checkQuoted`).
-/

set_option autoImplicit false

namespace ScenarioSteps

/-- A sentence with texts in quotation marks. Two neighbours of these have a text
of `between` between them. -/
structure Quoted where
  front : List Char
  texts : List (List Char)
  between : List (List Char)
  back : List Char
deriving DecidableEq

namespace Quoted

/-- The text between the first and the last quotation mark. -/
def innerOf : List (List Char) → List (List Char) → List Char
  | text :: texts, part :: between => text ++ '"' :: part ++ '"' :: innerOf texts between
  | text :: _, [] => text
  | [], _ => []

/-- The text between the first and the last quotation mark. -/
def inner (q : Quoted) : List Char :=
  innerOf q.texts q.between

/-- The whole sentence. -/
def sentence (q : Quoted) : List Char :=
  q.front ++ '"' :: q.inner ++ '"' :: q.back

/-- Quoted texts, the parts between them, and the text behind the last quotation
mark, from the parts that the quotation marks cut a text into. -/
def readBehind : List (List Char) → Option (List (List Char) × List (List Char) × List Char)
  | [text, back] => some ([text], [], back)
  | text :: part :: rest => (readBehind rest).map fun (texts, between, back) =>
      (text :: texts, part :: between, back)
  | _ => none

/-- Takes a sentence apart, if it has quotation marks and all are paired. -/
def read? (sentence : List Char) : Option Quoted :=
  match Text.splitBy (· == '"') sentence with
  | front :: rest => (readBehind rest).map fun (texts, between, back) =>
      ⟨front, texts, between, back⟩
  | [] => none

/-- The same sentence with other quoted texts. -/
def withTexts (q : Quoted) (texts : List (List Char)) : Quoted :=
  { q with texts }

/-- The parts are one more than what stands between them, and together they are the text
again. -/
theorem of_readBehind {parts texts between : List (List Char)} {back : List Char}
    (h : readBehind parts = some (texts, between, back)) :
    texts.length = between.length + 1
      ∧ parts.flatMap ('"' :: ·) = '"' :: innerOf texts between ++ '"' :: back := by
  induction parts using readBehind.induct generalizing texts between back with
  | case1 text last =>
      cases h
      exact ⟨rfl, by simp [innerOf]⟩
  | case2 text part rest _ ih =>
      rw [readBehind] at h
      · obtain ⟨⟨texts', between', back'⟩, hrest, heq⟩ := Option.map_eq_some_iff.mp h
        cases heq
        obtain ⟨hlength, hjoin⟩ := ih hrest
        exact ⟨by simp [hlength], by simp [innerOf, hjoin]⟩
      · assumption
  | case3 parts hpair hmore =>
      rw [readBehind] at h
      · cases h
      · exact hpair
      · exact hmore

/-- A sentence that is taken apart has a text between any two quoted texts. -/
theorem length_of_read? {sentence : List Char} {q : Quoted} (h : read? sentence = some q) :
    q.texts.length = q.between.length + 1 := by
  unfold read? at h
  split at h
  · obtain ⟨⟨texts, between, back⟩, hrest, rfl⟩ := Option.map_eq_some_iff.mp h
    exact (of_readBehind hrest).1
  · cases h

/-- Putting a sentence together again undoes taking it apart. -/
theorem sentence_of_read? {sentence : List Char} {q : Quoted} (h : read? sentence = some q) :
    q.sentence = sentence := by
  unfold read? at h
  split at h
  · next front rest hsplit =>
      obtain ⟨⟨texts, between, back⟩, hrest, rfl⟩ := Option.map_eq_some_iff.mp h
      rw [Text.eq_of_splitBy_eq hsplit, (of_readBehind hrest).2]
      simp [Quoted.sentence, inner]
  · cases h

/-! ### The sentence as a template -/

section
variable (start : List Char) (avoid : List (List CharSet))

/-- The template of what stands between the first and the last quotation mark.
Quoted texts have a beginning in common, and behind it some words are excluded. -/
def gaps : Nat → List (List Char) → Template
  | index, [] => start.map .char ++ [.gap index avoid]
  | index, part :: between =>
    start.map .char ++ .gap index avoid :: (('"' :: part ++ ['"']).map .char
      ++ gaps (index + 1) between)

/-- The sentence with gaps for its quoted texts. -/
def template (q : Quoted) : Template :=
  (q.front ++ ['"']).map .char ++ gaps start avoid 0 q.between ++ ('"' :: q.back).map .char

variable {start avoid}

/-- Gaps that are filled with the rests of the texts are what stands between the outer marks.
-/
theorem fill_gaps {inside : Nat → List Char} {texts between : List (List Char)} {index : Nat}
    (hlength : texts.length = between.length + 1)
    (htexts : ∀ i text, texts[i]? = some text → text = start ++ inside (index + i)) :
    (gaps start avoid index between).fill inside = innerOf texts between := by
  induction between generalizing texts index with
  | nil =>
      obtain ⟨text, rfl⟩ := List.length_eq_one_iff.mp hlength
      rw [htexts 0 text rfl, innerOf, gaps, Template.fill_append, Template.fill_chars]
      simp [Template.fill]
  | cons part between ih =>
      obtain ⟨text, texts, rfl⟩ := List.exists_cons_of_length_eq_add_one hlength
      -- Behind the first gap, all indices are one more.
      have hrest : ∀ i text, texts[i]? = some text → text = start ++ inside (index + 1 + i) := by
        intro i text htext
        rw [Nat.add_assoc, Nat.add_comm 1 i]
        exact htexts (i + 1) text htext
      rw [gaps, innerOf, Template.fill_append, Template.fill_chars, Template.fill,
        Template.fill_append, Template.fill_chars, ih (Nat.succ.inj hlength) hrest,
        htexts 0 text rfl]
      simp

/-- All gaps of a sentence exclude the same words. -/
theorem eq_of_mem_gaps {index i : Nat} {between : List (List Char)} {words : List (List CharSet)}
    (h : Piece.gap i words ∈ gaps start avoid index between) : words = avoid := by
  induction between generalizing index with
  | nil => exact (by simpa [gaps] using h : i = index ∧ words = avoid).2
  | cons part between ih =>
      simp only [gaps, List.mem_append, List.mem_cons, List.mem_map, reduceCtorEq, and_false,
        exists_false, false_or] at h
      rcases h with hgap | h
      · cases hgap
        rfl
      · exact ih h

/-- Texts that can stand in the gaps of a template. -/
def Fill (start : List Char) (avoid : List (List CharSet)) (texts : List (List Char)) : Prop :=
  ∀ text ∈ texts, ∃ rest, text = start ++ rest ∧ Text.FillsGap avoid rest

/-- The texts that are put into the gaps of a sentence. -/
theorem Fill.exists_inside {q : Quoted} {texts : List (List Char)} (h : Fill start avoid texts)
    (hlength : texts.length = q.between.length + 1) :
    ∃ inside : Nat → List Char, (∀ i, Text.FillsGap avoid (inside i))
      ∧ (∀ (i : Nat) text, texts[i]? = some text → text = start ++ inside i)
      ∧ (gaps start avoid 0 q.between).fill inside = (q.withTexts texts).inner := by
  obtain ⟨first, more, rfl⟩ := List.exists_cons_of_length_eq_add_one hlength
  -- Gaps are numbered without end. Those that do not occur get the first text.
  choose! rest htext hfills using h
  have hmem (i : Nat) : ((first :: more)[i]?).getD first ∈ first :: more := by
    cases hi : (first :: more)[i]? with
    | none => exact List.mem_cons_self
    | some text => exact List.mem_of_getElem? hi
  have heach (i : Nat) (text : List Char) (hi : (first :: more)[i]? = some text) :
      text = start ++ rest (((first :: more)[i]?).getD first) := by
    rw [hi]
    exact htext text (List.mem_of_getElem? hi)
  refine ⟨fun i => rest (((first :: more)[i]?).getD first), fun i => hfills _ (hmem i), heach, ?_⟩
  exact fill_gaps hlength fun i text hi => by
    rw [Nat.zero_add]
    exact heach i text hi

end

/-! ### What is settled on the template -/

/-- The groups of a source that open behind a quotation mark, by their places
among its capturing groups. -/
def quotedGroups (index : Nat) : List Char → List Nat
  | '"' :: '(' :: '?' :: source => quotedGroups index source
  | '"' :: '(' :: source => index :: quotedGroups (index + 1) source
  | '(' :: '?' :: source => quotedGroups index source
  | '(' :: source => quotedGroups (index + 1) source
  | _ :: source => quotedGroups index source
  | [] => []

section
variable (q : Quoted) (start : List Char) (avoid : List (List CharSet))

/-- Whether a pattern is found on the template with the quoted texts in its
groups behind quotation marks. -/
def findsTexts (source : List Char) (regex : Regex) : Bool :=
  match regex.follow .accept (q.template start avoid) [] with
  | .finds found => (List.range q.texts.length).all fun i =>
      match (quotedGroups 0 source)[i]? with
      | some group => group < regex.groupCount
          && found.segment? (q.template start avoid) (group + 1)
            == some (start.map .char ++ [.gap i avoid])
      | none => false
  | .fails | .unclear => false

/-- Whether an expression can match between the first and the last quotation mark
only. -/
def keepsInside (regex : Regex) : Bool :=
  regex.staysBetween (q.front ++ ['"']) (gaps start avoid 0 q.between) ('"' :: q.back)

variable {q start avoid} {texts : List (List Char)}

/-- A sentence with other texts is its template with filled gaps. -/
theorem sentence_eq_fill {inside : Nat → List Char}
    (h : (gaps start avoid 0 q.between).fill inside = (q.withTexts texts).inner) :
    (q.withTexts texts).sentence = (q.template start avoid).fill inside := by
  rw [template, Template.fill_append, Template.fill_append, Template.fill_chars,
    Template.fill_chars, h]
  simp [sentence, withTexts]

/-- If the match is found on the template, it is found with any texts that fill the gaps, and
the groups behind quotation marks hold these texts. -/
theorem exists_captures?_of_findsTexts (hfill : Fill start avoid texts)
    (hlength : texts.length = q.between.length + 1) (hread : q.texts.length = texts.length)
    {source : List Char} {regex : Regex} (hloops : regex.loopsConsume = true)
    (h : q.findsTexts start avoid source regex = true) :
    ∃ captures, regex.captures? (String.ofList (q.withTexts texts).sentence) = some captures
      ∧ ∀ (i : Nat) text, texts[i]? = some text →
          ∃ group, (quotedGroups 0 source)[i]? = some group
            ∧ captures[group]? = some (some (String.ofList text)) := by
  obtain ⟨inside, hfills, htexts, hinner⟩ := hfill.exists_inside hlength
  rw [sentence_eq_fill hinner]
  unfold findsTexts at h
  split at h
  · next found hfound =>
      obtain ⟨captures, hcaptures, hgroups⟩ :=
        Regex.exists_captures?_of_follow (fun i => (hfills i).1) hloops hfound
      refine ⟨captures, hcaptures, fun i text hi => ?_⟩
      obtain ⟨hlt, -⟩ := List.getElem?_eq_some_iff.mp hi
      -- The check has gone through as many groups as the sample has texts.
      have hgroup := List.all_eq_true.mp h i (List.mem_range.mpr (hread ▸ hlt))
      split at hgroup
      · next group hquoted =>
          rw [Bool.and_eq_true, decide_eq_true_iff, beq_iff_eq] at hgroup
          refine ⟨group, hquoted, ?_⟩
          rw [hgroups group _ hgroup.1 hgroup.2, htexts i text hi, Template.fill_append,
            Template.fill_chars]
          simp [Template.fill]
      · cases hgroup
  all_goals cases h

/-- A pattern that keeps inside occurs in the sentence only if it does so between
the first and the last quotation mark. -/
theorem occursIn_sentence_iff (hfill : Fill start avoid texts)
    (hlength : texts.length = q.between.length + 1) {regex : Regex}
    (hloops : regex.loopsConsume = true) (hplain : regex.isUnconditional = true)
    (h : q.keepsInside start avoid regex = true) :
    regex.occursIn (String.ofList (q.withTexts texts).sentence) = true
      ↔ regex.occursIn (String.ofList (q.withTexts texts).inner) = true := by
  obtain ⟨inside, hfills, -, hinner⟩ := hfill.exists_inside hlength
  have hshows : (gaps start avoid 0 q.between).Shows (q.withTexts texts).inner := by
    rw [← hinner]
    refine Template.shows_fill fun i words hgap => ?_
    rw [eq_of_mem_gaps hgap]
    exact hfills i
  rw [← Regex.occursIn_between_iff hloops hplain h hshows]
  simp [sentence, withTexts]

end

/-- Whether trimming leaves a sentence as it is, whatever is quoted in it. -/
def isTrimmed (q : Quoted) : Bool :=
  (q.front ++ ['"']).head?.all (!Text.isBlank ·) && ('"' :: q.back).getLast?.all (!Text.isBlank ·)

/-- No text within the marks makes a blank at an end of the sentence. -/
theorem trimmed_sentence {q : Quoted} (h : q.isTrimmed = true)
    (texts : List (List Char)) :
    Text.trimmed (String.ofList (q.withTexts texts).sentence)
      = String.ofList (q.withTexts texts).sentence := by
  rw [isTrimmed, Bool.and_eq_true, Option.all_eq_true, Option.all_eq_true] at h
  rw [Text.trimmed, String.toList_ofList, Text.trim_eq_self]
  · intro c hc
    have hhead : (q.withTexts texts).sentence.head? = (q.front ++ ['"']).head? := by
      cases hfront : q.front <;> simp [sentence, withTexts, hfront]
    simpa using h.1 c (hhead ▸ hc)
  · intro c hc
    have hlast : (q.withTexts texts).sentence.getLast? = ('"' :: q.back).getLast? := by
      simp [sentence, withTexts, List.getLast?_append, List.getLast?_cons]
    simpa using h.2 c (hlast ▸ hc)

end Quoted

/-! ### The catalog -/

/-- A word in any case, as the expressions of the catalog have it. -/
def caseless (word : String) : List CharSet :=
  word.toList.map fun c => (CharSet.single c).anyCase

/-- How a quoted argument of a pattern can begin. -/
def argumentStarts (key : String) : List (List Char) :=
  if key = "navigation/visit-url" then ["/".toList, "http://".toList] else [[]]

/-- How a quoted argument of a pattern must not begin. -/
def avoidedWords (key : String) : List (List CharSet) :=
  if key = "navigation/visit-page" then ["/", "http://", "https://"].map caseless else []

/-- Which texts the quoted arguments of a pattern can be exchanged for: any text
without quotation marks. Pages are addressed by paths and addresses in one
pattern, and by names in another. -/
structure Admits (key : String) (text : List Char) : Prop where
  unquoted : '"' ∉ text
  address : key = "navigation/visit-url" → "/".toList <+: text ∨ "http://".toList <+: text
  name : key = "navigation/visit-page" →
    ∀ word ∈ ["/", "http://", "https://"], ¬ Text.Begins (caseless word) text

/-- Texts that a pattern admits fill the gaps behind one of its starts. -/
theorem exists_fill_of_admits {key : String} {texts : List (List Char)}
    (hadmits : ∀ text ∈ texts, Admits key text)
    (hsingle : (argumentStarts key).length = 1 ∨ texts.length = 1) :
    ∃ start ∈ argumentStarts key, Quoted.Fill start (avoidedWords key) texts := by
  by_cases haddress : key = "navigation/visit-url"
  · subst haddress
    obtain ⟨text, rfl⟩ : ∃ text, texts = [text] :=
      List.length_eq_one_iff.mp (hsingle.resolve_left (by decide))
    have htext := hadmits text (List.mem_singleton_self text)
    have hfill (start rest : List Char) (hrest : start ++ rest = text) :
        Quoted.Fill start (avoidedWords "navigation/visit-url") [text] := by
      intro other hother
      obtain rfl := List.mem_singleton.mp hother
      refine ⟨rest, hrest.symm, fun hquote => htext.unquoted ?_, ?_⟩
      · exact hrest ▸ List.mem_append_right _ hquote
      · intro word hword
        cases hword
    -- An address is a path or begins with a protocol, and each of the two is a start of its own.
    rcases htext.address rfl with ⟨rest, hrest⟩ | ⟨rest, hrest⟩
    · exact ⟨_, List.mem_cons_self, hfill _ rest hrest⟩
    · exact ⟨_, List.mem_cons_of_mem _ List.mem_cons_self, hfill _ rest hrest⟩
  · refine ⟨[], by simp [argumentStarts, haddress], fun text htext => ⟨text, rfl, ?_, ?_⟩⟩
    · exact (hadmits text htext).unquoted
    · intro word hword
      unfold avoidedWords at hword
      split at hword
      · next hname =>
          obtain ⟨w, hw, rfl⟩ := List.mem_map.mp hword
          exact (hadmits text htext).name hname w hw
      · cases hword

/-- Checks that a pattern with quoted arguments has a sample with quoted texts, and
that the sample goes to the pattern with all quoted texts in which the patterns
before it do not occur. -/
def checkQuoted (earlier : List Regex) (key : String) (source : List Char)
    (sample? : Option (List Char)) (regex : Regex) : Bool :=
  match sample?.bind Quoted.read? with
  | none => (Quoted.quotedGroups 0 source).isEmpty
  | some q => q.isTrimmed && ((argumentStarts key).length == 1 || q.between.isEmpty)
      && (argumentStarts key).all fun start =>
        q.findsTexts start (avoidedWords key) source regex
          && earlier.all (q.keepsInside start (avoidedWords key))

/-- Checks patterns in order of priority. -/
def checkAllQuoted (earlier : List Regex) : List (String × StepPattern) → List Regex → Bool
  | p :: patterns, regex :: regexes =>
    checkQuoted earlier p.1 p.2.source.toList (p.2.sample?.map String.toList) regex
      && checkAllQuoted (earlier ++ [regex]) patterns regexes
  | _, _ => true

/-- What is checked of a list of patterns is checked of each, with all patterns before it as
earlier ones. -/
theorem checkQuoted_of_checkAllQuoted {before behind : List (String × StepPattern)}
    {p : String × StepPattern} {regexesBefore regexesBehind : List Regex} {regex : Regex}
    (hlength : before.length = regexesBefore.length) (earlier : List Regex)
    (h : checkAllQuoted earlier (before ++ p :: behind) (regexesBefore ++ regex :: regexesBehind)
      = true) :
    checkQuoted (earlier ++ regexesBefore) p.1 p.2.source.toList (p.2.sample?.map String.toList)
      regex = true := by
  induction before generalizing earlier regexesBefore with
  | nil =>
      obtain rfl := List.length_eq_zero_iff.mp hlength.symm
      rw [List.nil_append, List.nil_append, checkAllQuoted, Bool.and_eq_true] at h
      rw [List.append_nil]
      exact h.1
  | cons first before ih =>
      obtain ⟨r, regexesBefore, rfl⟩ := List.exists_cons_of_length_eq_add_one hlength.symm
      rw [List.cons_append, List.cons_append, checkAllQuoted, Bool.and_eq_true] at h
      have hrest := ih (Nat.succ.inj hlength) _ h.2
      rwa [List.append_assoc] at hrest

/-- Two lists can be checked one after the other. -/
theorem checkAllQuoted_append {patterns patterns' : List (String × StepPattern)}
    {regexes regexes' : List Regex} (hlength : patterns.length = regexes.length)
    (earlier : List Regex) (hfirst : checkAllQuoted earlier patterns regexes = true)
    (hrest : checkAllQuoted (earlier ++ regexes) patterns' regexes' = true) :
    checkAllQuoted earlier (patterns ++ patterns') (regexes ++ regexes') = true := by
  induction patterns generalizing earlier regexes with
  | nil =>
      obtain rfl := List.length_eq_zero_iff.mp hlength.symm
      rwa [List.append_nil] at hrest
  | cons p patterns ih =>
      obtain ⟨regex, regexes, rfl⟩ := List.exists_cons_of_length_eq_add_one hlength.symm
      rw [checkAllQuoted, Bool.and_eq_true] at hfirst
      rw [List.cons_append, List.cons_append, checkAllQuoted, Bool.and_eq_true]
      refine ⟨hfirst.1, ih (Nat.succ.inj hlength) (earlier ++ [regex]) hfirst.2 ?_⟩
      rwa [List.append_assoc]

/-! The sections are checked one at a time, which takes the kernel less memory than all at
once. -/

/-- The first section passes the check. -/
theorem Interaction.checkAllQuoted_patterns : checkAllQuoted [] patterns regexes = true := by
  simp only [patterns, regexes, checkAllQuoted]
  repeat rewrite [Option.map_some]
  repeat rewrite [String.toList_ofList]
  decide +kernel

/-- So does the second one, behind the first. -/
theorem Navigation.checkAllQuoted_patterns :
    checkAllQuoted Interaction.regexes patterns regexes = true := by
  simp only [patterns, regexes, checkAllQuoted]
  repeat rewrite [Option.map_some]
  repeat rewrite [String.toList_ofList]
  decide +kernel

/-- The section on users passes it behind these two. -/
theorem Auth.checkAllQuoted_patterns :
    checkAllQuoted (Interaction.regexes ++ Navigation.regexes) patterns regexes = true := by
  simp only [patterns, regexes, checkAllQuoted]
  repeat rewrite [Option.map_some]
  repeat rewrite [String.toList_ofList]
  decide +kernel

/-- The section on the store passes it behind these three. -/
theorem Store.checkAllQuoted_patterns :
    checkAllQuoted (Interaction.regexes ++ Navigation.regexes ++ Auth.regexes) patterns regexes
      = true := by
  simp only [patterns, regexes, checkAllQuoted]
  repeat rewrite [Option.map_some]
  repeat rewrite [String.toList_ofList]
  decide +kernel

/-- The last section passes it behind all others. -/
theorem Network.checkAllQuoted_patterns :
    checkAllQuoted (Interaction.regexes ++ Navigation.regexes ++ Auth.regexes ++ Store.regexes)
      patterns regexes = true := by
  simp only [patterns, regexes, checkAllQuoted]
  repeat rewrite [Option.map_some]
  repeat rewrite [String.toList_ofList]
  decide +kernel

/-- So the whole catalog passes the check. -/
theorem checkAllQuoted_catalog : checkAllQuoted [] catalog catalogRegexes = true :=
  checkAllQuoted_append rfl [] Interaction.checkAllQuoted_patterns <|
  checkAllQuoted_append rfl _ Navigation.checkAllQuoted_patterns <|
  checkAllQuoted_append rfl _ Auth.checkAllQuoted_patterns <|
  checkAllQuoted_append rfl _ Store.checkAllQuoted_patterns <|
  checkAllQuoted_append rfl _ Network.checkAllQuoted_patterns rfl

namespace Registry

/-- What is checked of the catalog holds of the standard registry. -/
theorem checkQuoted_of_standard {r : Registry} (hr : standard = .ok r)
    {before behind : List Entry} {entry : Entry}
    (hentries : r.entries = before ++ entry :: behind) :
    checkQuoted (before.map Entry.regex) entry.key entry.pattern.source.toList
      (entry.pattern.sample?.map String.toList) entry.regex = true := by
  obtain ⟨r', hr', hpatterns, hregexes⟩ := standard_entries
  obtain rfl : r = r' := Except.ok.inj (hr.symm.trans hr')
  rw [hentries, List.map_append, List.map_cons] at hpatterns hregexes
  have hcheck := checkAllQuoted_catalog
  rw [← hpatterns, ← hregexes] at hcheck
  exact checkQuoted_of_checkAllQuoted (by simp) [] hcheck

/-- A pattern with quoted arguments has a sample with quoted texts, which is the same
again when it is put together. With other quoted texts the sample goes to the pattern,
and the groups behind quotation marks hold these texts, if and only if no pattern before
it occurs between the first and the last quotation mark. -/
theorem resolve?_quoted_iff {r : Registry} (hr : standard = .ok r) {before behind : List Entry}
    {entry : Entry} (hentries : r.entries = before ++ entry :: behind)
    (hquoted : Quoted.quotedGroups 0 entry.pattern.source.toList ≠ []) :
    ∃ sample q, entry.pattern.sample? = some sample ∧ Quoted.read? sample.toList = some q
      ∧ q.sentence = sample.toList
      ∧ ∀ texts : List (List Char), texts.length = q.texts.length →
        (∀ text ∈ texts, Admits entry.key text) →
        ((∃ m, r.resolve? (String.ofList (q.withTexts texts).sentence) = some m
            ∧ m.entry = entry
            ∧ ∀ (i : Nat) text, texts[i]? = some text → ∃ group,
                (Quoted.quotedGroups 0 entry.pattern.source.toList)[i]? = some group
                  ∧ m.captures[group]? = some (some (String.ofList text)))
          ↔ ∀ earlier ∈ before,
              earlier.regex.occursIn (String.ofList (q.withTexts texts).inner) = false) := by
  have hown := checkQuoted_of_standard hr hentries
  unfold checkQuoted at hown
  split at hown
  · exact absurd (List.isEmpty_iff.mp hown) hquoted
  next q hread =>
  obtain ⟨chars, hchars, hread⟩ := Option.bind_eq_some_iff.mp hread
  obtain ⟨sample, hsample, rfl⟩ := Option.map_eq_some_iff.mp hchars
  refine ⟨sample, q, hsample, hread, Quoted.sentence_of_read? hread,
    fun texts hlength hadmits => ?_⟩
  have hbetween := hlength.trans (Quoted.length_of_read? hread)
  simp only [Bool.and_eq_true, Bool.or_eq_true, beq_iff_eq, List.isEmpty_iff,
    List.all_eq_true] at hown
  -- The check was made on templates, so it can be used with these texts in the gaps.
  obtain ⟨⟨htrimmed, hsingle⟩, hstarts⟩ := hown
  obtain ⟨start, hstart, hfill⟩ := exists_fill_of_admits hadmits
    (hsingle.imp_right fun hnil => by rw [hbetween, hnil, List.length_nil])
  obtain ⟨hfinds, hearlier⟩ := hstarts start hstart
  have hlisted : entry ∈ r.entries := hentries ▸ List.mem_append_right _ List.mem_cons_self
  obtain ⟨hloops, -⟩ := plain_of_mem_standard hr hlisted
  obtain ⟨captures, hcaptures, hgroups⟩ :=
    Quoted.exists_captures?_of_findsTexts hfill hbetween hlength.symm hloops hfinds
  have hstays (earlier : Entry) (hmem : earlier ∈ before) :
      earlier.regex.occursIn (String.ofList (q.withTexts texts).sentence) = false
        ↔ earlier.regex.occursIn (String.ofList (q.withTexts texts).inner) = false := by
    obtain ⟨hloops, hplain⟩ := plain_of_mem_standard hr (hentries ▸ List.mem_append_left _ hmem)
    rw [← Bool.not_eq_true, ← Bool.not_eq_true]
    exact not_congr (Quoted.occursIn_sentence_iff hfill hbetween hloops hplain
      (hearlier _ (List.mem_map_of_mem hmem)))
  -- Dispatch asks the entries in order, and trimming leaves the sentence as it is.
  have hresolve (m : Match) (hm : m.entry = entry) :
      r.resolve? (String.ofList (q.withTexts texts).sentence) = some m
        ↔ entry.recognise? (String.ofList (q.withTexts texts).sentence) = some m
          ∧ ∀ earlier ∈ before,
              earlier.regex.occursIn (String.ofList (q.withTexts texts).sentence) = false := by
    subst hm
    rw [resolve?_eq_some_iff hentries, Quoted.trimmed_sentence htrimmed]
  constructor
  · rintro ⟨m, hm, hentry, -⟩ earlier hmem
    exact (hstays earlier hmem).mp (((hresolve m hentry).mp hm).2 earlier hmem)
  · intro hnone
    refine ⟨⟨entry, captures⟩, (hresolve ⟨entry, captures⟩ rfl).mpr ⟨?_, ?_⟩, rfl, hgroups⟩
    · rw [Entry.recognise?, hcaptures]
      rfl
    · exact fun earlier hmem => (hstays earlier hmem).mpr (hnone earlier hmem)

/-- The first pattern takes any text as its button, even the sentence of another
pattern. -/
theorem click_button_named_go_back :
    ∃ r m, standard = .ok r ∧ r.resolve? "I click the \"I go back\" button" = some m
      ∧ m.key = "interaction/click-button" ∧ m.captures[0]? = some (some "I go back") := by
  obtain ⟨r, hr, hpatterns, -⟩ := standard_entries
  obtain ⟨entry, behind, hentries, hentry, -⟩ := List.map_eq_cons_iff.mp hpatterns
  obtain ⟨hkey, hpattern⟩ := Prod.mk.inj hentry
  have hsplit : r.entries = [] ++ entry :: behind := hentries
  have hgroups : Quoted.quotedGroups 0 entry.pattern.source.toList = [0] := by
    rw [hpattern]
    decide
  obtain ⟨sample, q, hsample, hread, -, hiff⟩ :=
    resolve?_quoted_iff hr hsplit (hgroups ▸ List.cons_ne_nil 0 [])
  obtain rfl : "I click the \"Submit\" button" = sample := by
    rw [hpattern] at hsample
    exact Option.some.inj hsample
  obtain rfl : ⟨"I click the ".toList, ["Submit".toList], [], " button".toList⟩ = q := by
    refine Option.some.inj (Eq.trans ?_ hread)
    decide
  -- The pattern is not one for pages, so any text without quotation marks will do.
  have hadmits : Admits entry.key "I go back".toList := by
    rw [hkey]
    exact ⟨by decide, fun h => absurd h (by decide), fun h => absurd h (by decide)⟩
  obtain ⟨m, hm, rfl, htexts⟩ := (hiff ["I go back".toList] rfl
    -- No pattern stands before the first one, so none can occur in the text.
    (fun text htext => List.mem_singleton.mp htext ▸ hadmits)).mpr
      fun _ h => absurd h List.not_mem_nil
  obtain ⟨group, hgroup, hcapture⟩ := htexts 0 _ rfl
  obtain rfl : 0 = group := by
    rw [hgroups] at hgroup
    exact Option.some.inj hgroup
  refine ⟨r, m, hr, ?_, hkey, hcapture⟩
  rw [← hm]
  rfl

/-- A quoted text takes a sentence to an earlier pattern: with the text `I go back`
the sample of a pattern on users goes to a pattern on navigation. -/
theorem quoted_text_steers_dispatch :
    ∃ (r : Registry) (entry : Entry) (q : Quoted) (text : List Char), standard = .ok r
      ∧ entry ∈ r.entries ∧ entry.key = "auth/user-exists"
      ∧ (entry.pattern.sample?.bind fun sample => Quoted.read? sample.toList) = some q
      ∧ q.texts.length = 1 ∧ Admits entry.key text
      ∧ (r.resolve? (String.ofList (q.withTexts [text]).sentence)).map Match.key
        = some "navigation/go-back" := by
  obtain ⟨r, hr, hpatterns, hregexes⟩ := standard_entries
  have hkeys : r.entries.map (fun e => (e.key, e.regex))
      = (catalog.map Prod.fst).zip catalogRegexes := by
    rw [← hpatterns, ← hregexes, List.map_map]
    exact (List.zip_map' ..).symm
  have hlisted : ∃ p ∈ catalog, p.1 = "auth/user-exists"
      ∧ p.2.sample? = some "a user exists with email \"a@b.com\"" := by
    decide
  obtain ⟨p, hp, hkey, hsample⟩ := hlisted
  rw [← hpatterns] at hp
  obtain ⟨entry, hmem, rfl⟩ := List.mem_map.mp hp
  refine ⟨r, entry, ⟨"a user exists with email ".toList, ["a@b.com".toList], [], []⟩,
    "I go back".toList, hr, hmem, hkey, ?_, rfl, ?_, ?_⟩
  · rw [hsample]
    decide
  · rw [show entry.key = "auth/user-exists" from hkey]
    exact ⟨by decide, fun h => absurd h (by decide), fun h => absurd h (by decide)⟩
  · rw [map_key_resolve?, hkeys]
    decide +kernel

end Registry

end ScenarioSteps
