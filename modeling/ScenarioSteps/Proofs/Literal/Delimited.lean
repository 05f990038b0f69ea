import Mathlib.Data.Bool.AllAny
import ScenarioSteps.Proofs.Literal.Escape

/-!
# `ScenarioSteps.Proofs.Literal.Delimited`: escaped text cannot end its literal

JavaScript reads a literal up to the first character that closes it. `Delimited` holds the
rules: which character closes the literal, and what the others stand for by themselves and
behind a backslash. `Delimited.read?` gives what a literal stands for and the source behind
it. It refuses what JavaScript refuses, and what it reads by rules that no escape here uses,
such as octal escapes, sets and groups. So where it answers, JavaScript reads the same.

* `inQuotes` reads a string literal. What it stands for is its text.
* `inSlashes` reads a regular expression without choices and repetitions, made of `Term`s:
  characters, and the two ends of a subject. `Term.Matches` says what they match.

An escape is met character by character (`Delimited.Reads`). From one character the law goes
over to texts (`Reads.flatMap`), and a text that is read up to its end leaves the closing of
the literal to what stands behind it (`Reads.closes`). `escaped_text_ends_at_delimiter` says
so for both sorts of literals: nothing in a text closes its literal, and nothing in it means
anything but itself.
-/

set_option autoImplicit false

namespace ScenarioSteps.Literal

/-- The rules by which the inside of a literal is read. -/
structure Delimited (α : Type) where
  /-- The character that closes the literal. -/
  closing : Char
  /-- What a character stands for by itself. -/
  plain? : Char → Option α
  /-- What a character behind a backslash stands for. -/
  escaped? : Char → Option α
  /-- What stands for a character that is given by its number. -/
  numbered : Char → α

namespace Delimited

variable {α : Type} {rules : Delimited α}

/-- Puts parts in front of what has been read behind them. -/
def onto (parts : List α) : List α × List Char → List α × List Char :=
  Prod.map (parts ++ ·) id

/-- Reads a literal from behind its first character on: what it stands for, and the source
behind the character that closes it. A literal that does not end on its line is none. -/
def read? (rules : Delimited α) : List Char → Option (List α × List Char)
  | [] => none
  | '\\' :: 'u' :: a :: b :: c :: d :: rest =>
    (hexChar? a b c d).bind fun named => (rules.read? rest).map (onto [rules.numbered named])
  -- What stands behind a backslash cannot close the literal.
  | '\\' :: c :: rest =>
    if c ∈ lineEnds then none
    else (rules.escaped? c).bind fun part => (rules.read? rest).map (onto [part])
  | c :: rest =>
    if c = rules.closing then some ([], rest)
    else if c ∈ lineEnds ∨ c = '\\' then none
    else (rules.plain? c).bind fun part => (rules.read? rest).map (onto [part])

/-- A text is read in a literal as the given parts, whatever stands behind it. -/
def Reads (rules : Delimited α) (text : List Char) (parts : List α) : Prop :=
  ∀ rest, rules.read? (text ++ rest) = (rules.read? rest).map (onto parts)

/-- A text is read as the given parts, and the literal ends with the closing character right
behind it and on the same line, whatever stands further behind. -/
def Closes (rules : Delimited α) (text : List Char) (parts : List α) : Prop :=
  (∀ rest, rules.read? (text ++ rules.closing :: rest) = some (parts, rest))
    ∧ ∀ c ∈ text, c ∉ lineEnds

/-! ### From characters to texts -/

/-- A character that stands for something by itself. -/
theorem reads_plain {c : Char} {part : α} (hclosing : c ≠ rules.closing) (hend : c ∉ lineEnds)
    (hescape : c ≠ '\\') (h : rules.plain? c = some part) : rules.Reads [c] [part] := by
  intro rest
  rw [List.singleton_append, read?]
  · rw [if_neg hclosing, if_neg (not_or.mpr ⟨hend, hescape⟩), h]
    rfl
  -- The two other ways to read begin with a backslash.
  · rintro _ _ _ _ _ rfl
    contradiction
  · rintro _ _ rfl
    contradiction

/-- A character behind a backslash. A `u` there would begin a number. -/
theorem reads_escaped {c : Char} {part : α} (hend : c ∉ lineEnds) (hnumber : c ≠ 'u')
    (h : rules.escaped? c = some part) : rules.Reads ['\\', c] [part] := by
  intro rest
  rw [List.cons_append, List.singleton_append, read?]
  · rw [if_neg hend, h]
    rfl
  · rintro _ _ _ _ _ rfl
    contradiction

/-- A character that is given by its number. -/
theorem reads_numbered {a b c d named : Char} (h : hexChar? a b c d = some named) :
    rules.Reads ['\\', 'u', a, b, c, d] [rules.numbered named] := by
  intro rest
  simp only [List.cons_append, List.nil_append, read?, h]
  rfl

/-- Two pieces of source, one behind the other, are read as the parts of both. -/
theorem Reads.append {first second : List Char} {parts more : List α}
    (hfirst : rules.Reads first parts) (hsecond : rules.Reads second more) :
    rules.Reads (first ++ second) (parts ++ more) := by
  intro rest
  rw [List.append_assoc, hfirst, hsecond, Option.map_map]
  exact congrArg (Option.map · _) (funext fun _ => Prod.ext (List.append_assoc ..).symm rfl)

/-- A text is read as its characters are. -/
theorem Reads.flatMap {escape : Char → List Char} {part : Char → α}
    (h : ∀ c, rules.Reads (escape c) [part c]) (cs : List Char) :
    rules.Reads (cs.flatMap escape) (cs.map part) := by
  induction cs with
  | nil =>
      intro rest
      have hnothing : onto ([] : List α) = id := rfl
      rw [List.map_nil, hnothing, Option.map_id]
      rfl
  | cons c cs ih => exact (h c).append ih

/-- What is read up to its end is closed by the character behind it. -/
theorem Reads.closes {text : List Char} {parts : List α} (h : rules.Reads text parts)
    (hclosing : rules.closing ≠ '\\') (hends : ∀ c ∈ text, c ∉ lineEnds) :
    rules.Closes text parts := by
  refine ⟨fun rest => ?_, hends⟩
  have hend : rules.read? (rules.closing :: rest) = some ([], rest) := by
    rw [read?]
    · rw [if_pos rfl]
    · exact fun _ _ _ _ _ hescape => absurd hescape hclosing
    · exact fun _ _ hescape => absurd hescape hclosing
  rw [h, hend]
  simp [onto]

end Delimited

open Delimited (reads_plain reads_escaped reads_numbered)

/-! ### String literals -/

/-- The letters that name a control behind a backslash. -/
def controls : List (Char × Char) :=
  [('f', '\x0c'), ('n', '\n'), ('r', '\r'), ('t', '\t'), ('v', '\x0b')]

/-- String literals between quotes. A character behind a backslash stands for itself unless
it names a control or begins a number. -/
def inQuotes (quote : Char) : Delimited Char where
  closing := quote
  plain? := some
  escaped? c :=
    if c.isDigit || ['u', 'x'].contains c then none
    else some (((('b', '\x08') :: controls).lookup c).getD c)
  numbered := id

/-- In quotes, an escaped character is read as that character. -/
theorem reads_stringChar {quote : Char} (hquote : quote ∈ ['\'', '"']) (c : Char) :
    (inQuotes quote).Reads (stringChar quote c) [c] := by
  unfold stringChar
  split
  · exact reads_escaped (by decide) (by decide) rfl
  · exact reads_escaped (by decide) (by decide) rfl
  · exact reads_escaped (by decide) (by decide) rfl
  · exact reads_escaped (by decide) (by decide) rfl
  · exact reads_numbered rfl
  · exact reads_numbered rfl
  -- Of the other characters, only the quote needs a backslash to stand for itself.
  · next hescape _ _ _ _ _ =>
      split
      · next heq =>
          rw [beq_iff_eq] at heq
          subst heq
          have hquotes : ∀ q ∈ ['\'', '"'],
              q ∉ lineEnds ∧ q ≠ 'u' ∧ (inQuotes q).escaped? q = some q :=
            List.all_iff_forall_prop.mp (by decide)
          obtain ⟨hend, hnumber, hitself⟩ := hquotes c hquote
          exact reads_escaped hend hnumber hitself
      · next hne =>
          have hclosing : c ≠ (inQuotes quote).closing := by simpa [inQuotes] using hne
          exact reads_plain hclosing (by simp_all [lineEnds]) hescape rfl

/-- A text between two quotes is read as itself, up to the second quote. -/
theorem closes_escapeString {quote : Char} (hquote : quote ∈ ['\'', '"']) (text : String) :
    (inQuotes quote).Closes (escapeString quote text).toList text.toList := by
  have hquotes : ∀ q ∈ ['\'', '"'], q ≠ '\\' ∧ q ∉ lineEnds :=
    List.all_iff_forall_prop.mp (by decide)
  obtain ⟨hescape, hend⟩ := hquotes quote hquote
  have hreads := Delimited.Reads.flatMap (reads_stringChar hquote) text.toList
  have hends := escapeWith_not_lineEnd (stringChar_not_lineEnd hend) text
  rw [escapeWith, String.toList_ofList] at hends
  rw [List.map_id'] at hreads
  rw [escapeString, escapeWith, String.toList_ofList]
  exact hreads.closes hescape hends

/-! ### Regular expressions -/

/-- A part of a regular expression without choices, repetitions and flags. -/
inductive Term where
  /-- The start of the subject. -/
  | start
  /-- The end of the subject. -/
  | finish
  | char (c : Char)
deriving Repr, DecidableEq

namespace Term

/-- Whether terms match what stands behind a place of a subject. `before` stands in front
of the place. -/
def matchAt (before : List Char) : List Term → List Char → Bool
  | [], _ => true
  | start :: terms, behind => before.isEmpty && matchAt before terms behind
  | finish :: terms, behind => behind.isEmpty && matchAt before terms behind
  | char _ :: _, [] => false
  | char c :: terms, d :: behind => c == d && matchAt (before ++ [d]) terms behind

/-- Whether terms match at some place of a subject. -/
def Matches (terms : List Term) (subject : List Char) : Prop :=
  ∃ before behind, subject = before ++ behind ∧ matchAt before terms behind = true

/-- Characters match themselves, and other terms go on behind them. -/
theorem matchAt_chars (cs : List Char) (terms : List Term) (before subject : List Char) :
    matchAt before (cs.map char ++ terms) subject = true
      ↔ ∃ behind, subject = cs ++ behind ∧ matchAt (before ++ cs) terms behind = true := by
  induction cs generalizing before subject with
  | nil => simp
  | cons c cs ih =>
      cases subject with
      | nil => simp [matchAt]
      | cons d subject =>
          simp only [List.map_cons, List.cons_append, matchAt, Bool.and_eq_true, beq_iff_eq, ih,
            List.append_assoc, List.nil_append, List.cons.injEq]
          constructor
          · rintro ⟨rfl, behind, rfl, hmatch⟩
            exact ⟨behind, ⟨rfl, rfl⟩, hmatch⟩
          · rintro ⟨behind, ⟨rfl, rfl⟩, hmatch⟩
            exact ⟨rfl, behind, rfl, hmatch⟩

/-- The characters of a text between the two ends match this text and no other. -/
theorem matches_text_iff (text subject : List Char) :
    Matches (start :: (text.map char ++ [finish])) subject ↔ subject = text := by
  constructor
  · rintro ⟨before, behind, rfl, hmatch⟩
    simp only [matchAt, Bool.and_eq_true, List.isEmpty_iff, matchAt_chars] at hmatch
    obtain ⟨rfl, rest, rfl, rfl, -⟩ := hmatch
    rw [List.nil_append, List.append_nil]
  · rintro rfl
    refine ⟨[], subject, rfl, ?_⟩
    rw [matchAt, List.isEmpty_nil, Bool.true_and, matchAt_chars]
    exact ⟨[], (List.append_nil subject).symm, rfl⟩

end Term

/-- The characters that have a meaning of their own in a regular expression, or close it. -/
def operators : List Char :=
  ['^', '$', '\\', '.', '*', '+', '?', '(', ')', '[', ']', '\x7b', '\x7d', '|', '/']

/-- Regular expressions between slashes, as far as they are made of `Term`s. No other
operator may stand there without a backslash. -/
def inSlashes : Delimited Term where
  closing := '/'
  plain? c :=
    match c with
    | '^' => some .start
    | '$' => some .finish
    | _ => if c ∈ operators then none else some (.char c)
  escaped? c := if c ∈ operators then some (.char c) else (controls.lookup c).map .char
  numbered := .char

/-- A character that is no operator stands for itself. -/
theorem plain?_inSlashes {c : Char} (h : c ∉ operators) : inSlashes.plain? c = some (.char c) := by
  unfold inSlashes
  dsimp only
  split
  · exact absurd (by decide) h
  · exact absurd (by decide) h
  · rw [if_neg h]

/-- Between slashes, it is read as a term that matches that character alone. -/
theorem reads_regexChar (c : Char) : inSlashes.Reads (regexChar c) [.char c] := by
  unfold regexChar
  split
  · exact reads_escaped (by decide) (by decide) rfl
  · exact reads_escaped (by decide) (by decide) rfl
  · exact reads_escaped (by decide) (by decide) rfl
  · exact reads_numbered rfl
  · exact reads_numbered rfl
  · have hend : c ∉ lineEnds := by simp_all [lineEnds]
    split
    · next hmeta =>
        have hmetas : ∀ d ∈ regexMeta, d ≠ 'u' ∧ inSlashes.escaped? d = some (.char d) :=
          List.all_iff_forall_prop.mp (by decide)
        obtain ⟨hnumber, hitself⟩ := hmetas c (by simpa using hmeta)
        exact reads_escaped hend hnumber hitself
    · next hmeta =>
        -- All operators are escaped, the backslash and the slash among them.
        have hoperators : ∀ d ∈ operators, regexMeta.contains d = true :=
          List.all_iff_forall_prop.mp (by decide)
        have hplain : c ∉ operators := fun hmem => hmeta (hoperators c hmem)
        refine reads_plain ?_ hend ?_ (plain?_inSlashes hplain)
        · rintro rfl
          exact hplain (by decide)
        · rintro rfl
          exact hplain (by decide)

/-- A text before the end of a regular expression is read as its characters and then the end
of the subject, up to the closing slash. -/
theorem closes_escapeRegex (text : String) :
    inSlashes.Closes ((escapeRegex text).toList ++ ['$'])
      (text.toList.map .char ++ [.finish]) := by
  have hreads := Delimited.Reads.flatMap reads_regexChar text.toList
  have hfinish : inSlashes.Reads ['$'] [.finish] :=
    reads_plain (by decide) (by decide) (by decide) rfl
  have hends := escapeWith_not_lineEnd regexChar_not_lineEnd text
  rw [escapeWith, String.toList_ofList] at hends
  have hend : ∀ c ∈ ['$'], c ∉ lineEnds := List.forall_mem_singleton.mpr (by decide)
  rw [escapeRegex, escapeWith, String.toList_ofList]
  exact (hreads.append hfinish).closes (by decide) (List.forall_mem_append.mpr ⟨hends, hend⟩)

/-- Escaped text cannot end its literal. Between two single or two double quotes it is read
as the text itself, on one line and up to the second quote, whatever follows. Before the end
of a regular expression it is read as the characters of the text, without any operator, on
one line and up to the slash that closes the expression. With its start in front, the
expression matches the text and nothing else. -/
theorem escaped_text_ends_at_delimiter (text : String) :
    (inQuotes '\'').Closes (escapeString '\'' text).toList text.toList
      ∧ (inQuotes '"').Closes (escapeString '"' text).toList text.toList
      ∧ inSlashes.Closes ((escapeRegex text).toList ++ ['$'])
          (text.toList.map .char ++ [.finish])
      ∧ ∀ subject, Term.Matches (.start :: (text.toList.map .char ++ [.finish])) subject
          ↔ subject = text.toList :=
  ⟨closes_escapeString (by decide) text, closes_escapeString (by decide) text,
    closes_escapeRegex text, Term.matches_text_iff text.toList⟩

/-- Without its escape, a quote in a text closes the literal. -/
example : (inQuotes '\'').read? "it's'".toList = some (['i', 't'], ['s', '\'']) := by decide

end ScenarioSteps.Literal
