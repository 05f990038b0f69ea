import ScenarioSteps.Declaration.Step
import ScenarioSteps.Proofs.Declaration.Placeholder
import ScenarioSteps.Proofs.Declaration.ReadBack
import ScenarioSteps.Proofs.Pattern.Dispatch
import ScenarioSteps.Proofs.Script.Line
import ScenarioSteps.Proofs.Source.Lexer
import ScenarioSteps.Proofs.Text.Trim

/-!
# `ScenarioSteps.Proofs.Declaration.Total`: every sentence gets a declaration

A registry may hold any generators. They may write any text, write nothing but
blanks, or break down for any reason. Whatever they do, a sentence gets a body that
is not blank (`Registry.not_blank_body`), and where there is no code for the sentence the body
ends with a statement that throws (`Body.throws_unmatched`, `Body.throws_ofOutcome`).

`Registry.declareText_total` says which declaration a text gets: its kind, its sentence, and
in which case its body is generated, missing or failed.
-/

set_option autoImplicit false

namespace ScenarioSteps

open Literal (lineEnds)

namespace Body

/-- The last line of a body throws a message. The message stands in one literal,
which ends at the last quote of the line. -/
def Throws (body message : String) : Prop :=
  ∃ before literal : List Char,
    body.toList = before ++ '\n' :: ("throw new Error('".toList ++ literal ++ "');".toList)
      ∧ (∀ c ∈ literal, c ∉ lineEnds)
      ∧ Lexer.Steady (.literal '\'') literal
      ∧ Literal.unescapeChars literal = message.toList

/-- A placeholder throws the message that it is made with. -/
theorem throws_placeholder (comment message : String) :
    Throws (placeholder comment message) message := by
  refine ⟨("// " ++ comment).toList, (Literal.escapeString '\'' message).toList,
    toList_placeholder comment message, ?_, Lexer.steady_escapeString (by decide) message, ?_⟩
  · exact Literal.escapeWith_not_lineEnd (Literal.stringChar_not_lineEnd (by decide)) message
  · rw [Literal.escapeString, Literal.escapeWith, String.toList_ofList]
    exact (Literal.readsBack_stringChar (by decide)).unescapeChars_flatMap _

/-- A sentence without a pattern gets a body that names it. -/
theorem throws_unmatched (sentence : String) :
    Throws (unmatched sentence) ("Step not implemented: " ++ sentence) :=
  throws_placeholder _ _

/-- So does one whose generator broke down. -/
theorem throws_failed (key sentence reason : String) :
    Throws (failed key sentence reason) ("Step generation failed: " ++ sentence) :=
  throws_placeholder _ _

/-- A body that throws is not blank. -/
theorem not_blank_of_throws {body message : String} (h : Throws body message) :
    Text.trim body.toList ≠ [] := by
  obtain ⟨before, literal, hbody, -⟩ := h
  rw [hbody]
  intro hempty
  -- The semicolon at the end would have to be a blank.
  have hlast := Text.isBlank_of_trim_eq_nil hempty ';' (by simp)
  exact absurd hlast (by decide)

end Body

/-! ### The body that a generator leaves -/

/-- The code that a generator leaves, if it leaves any: a text that is not blank. -/
def Outcome.code? : Outcome → Option String
  | .body text => if Text.trim text.toList = [] then none else some text
  | .broken _ => none

namespace Body

/-- Code that a generator comes up with is taken as it is, and it is not blank. -/
theorem ofOutcome_of_code? {outcome : Outcome} {code : String} (key sentence : String)
    (h : outcome.code? = some code) :
    ofOutcome key sentence outcome = code ∧ Text.trim code.toList ≠ [] := by
  cases outcome with
  | broken reason? => cases h
  | body text =>
      by_cases hblank : Text.trim text.toList = []
      · simp only [Outcome.code?, if_pos hblank, reduceCtorEq] at h
      · simp only [Outcome.code?, if_neg hblank, Option.some.injEq] at h
        subst h
        refine ⟨?_, hblank⟩
        simp only [ofOutcome, List.isEmpty_iff, if_neg hblank]

/-- Without code the body is a placeholder, whatever the reason. -/
theorem throws_ofOutcome {outcome : Outcome} (key sentence : String)
    (h : outcome.code? = none) :
    Throws (ofOutcome key sentence outcome) ("Step generation failed: " ++ sentence) := by
  cases outcome with
  | broken reason? => exact throws_failed key sentence _
  | body text =>
      have hblank : Text.trim text.toList = [] := by
        by_contra hne
        simp only [Outcome.code?, if_neg hne, reduceCtorEq] at h
      simp only [ofOutcome, List.isEmpty_iff, if_pos hblank]
      exact throws_failed key sentence _

end Body

namespace Registry

variable (r : Registry) (options : Options)

/-- The body for a trimmed sentence that no pattern recognises. -/
theorem body_of_find?_eq_none {sentence : String} (htrim : Text.trimmed sentence = sentence)
    (h : r.entries.find? (·.regex.occursIn sentence) = none) :
    r.body options sentence = ⟨Body.unmatched sentence, none⟩ := by
  rw [body, resolve?_eq_bind_find?, htrim, h, Option.bind_none]

/-- The body for a trimmed sentence is made from the outcome of the first pattern that
occurs in it. -/
theorem body_of_find?_eq_some {sentence : String} {entry : Entry}
    (htrim : Text.trimmed sentence = sentence)
    (h : r.entries.find? (·.regex.occursIn sentence) = some entry) :
    ∃ captures, entry.regex.captures? sentence = some captures
      ∧ r.body options sentence
        = ⟨Body.ofOutcome entry.key sentence (entry.pattern.generator.run options captures).1,
            some entry⟩ := by
  have hoccurs : entry.regex.occursIn sentence = true :=
    List.find?_some (p := fun e : Entry => e.regex.occursIn sentence) h
  rw [← entry.isSome_recognise?] at hoccurs
  obtain ⟨m, hm⟩ := Option.isSome_iff_exists.mp hoccurs
  obtain ⟨rfl, hcaptures⟩ := Entry.recognise?_eq_some_iff.mp hm
  refine ⟨m.captures, hcaptures, ?_⟩
  rw [body, resolve?_eq_bind_find?, htrim, h, Option.bind_some, hm]
  rfl

/-- No body is blank. -/
theorem not_blank_body (sentence : String) :
    Text.trim (r.body options sentence).text.toList ≠ [] := by
  rw [body]
  cases r.resolve? sentence with
  | none => exact Body.not_blank_of_throws (Body.throws_unmatched sentence)
  | some found =>
      cases hcode : (found.generate options).1.code? with
      | none => exact Body.not_blank_of_throws (Body.throws_ofOutcome _ _ hcode)
      | some code =>
          obtain ⟨htext, hblank⟩ := Body.ofOutcome_of_code? found.key sentence hcode
          show Text.trim (Body.ofOutcome found.key sentence (found.generate options).1).toList ≠ []
          rw [htext]
          exact hblank

end Registry

/-! ### Sentences that stand alone -/

/-- A sentence that stands alone is trimmed, with or without a keyword before it. -/
theorem trimmed_splitSentence (text : String) :
    Text.trimmed (splitSentence text).2 = (splitSentence text).2 := by
  rw [splitSentence]
  cases hline : stepLine? text.toList with
  | none => simp only [Text.trimmed, String.toList_ofList, Text.trim_trim]
  | some line =>
      obtain ⟨rest, htext, hsentence, -⟩ := parts_of_stepLine? hline
      -- The sentence ends where the trimmed text does, so only its beginning is left to trim.
      have hsuffix : rest <:+ Text.trim text.toList := ⟨_, htext.symm⟩
      have htrim : Text.trim line.2 = line.2 := by
        rw [hsentence]
        exact Text.trim_trimStart_of_suffix hsuffix
      simp only [Text.trimmed, String.toList_ofList, htrim]

/-- Every text gets a declaration that names its kind and its sentence, with a body that
is not blank. The body is the code of the first pattern that occurs in the sentence, or
throws if there is no such pattern or its generator leaves no code. -/
theorem Registry.declareText_total (r : Registry) (options : Options) (text : String) :
    let line? := stepLine? text.toList
    let sentence := (line?.map fun line => String.ofList line.2).getD (Text.trimmed text)
    let named? := line?.bind fun line => line.1.kind?
    let first? := r.entries.find? (·.regex.occursIn sentence)
    let kind := (named? <|> first?.map (·.pattern.kind.stepKind)).getD .given
    let body := (r.body options sentence).text
    r.declareText options text = Declaration.format options.output kind sentence body
      ∧ Declaration.read options.output (r.declareText options text) = some (kind, sentence)
      ∧ Text.trim body.toList ≠ []
      ∧ match first? with
        | none => Body.Throws body ("Step not implemented: " ++ sentence)
        | some entry => ∃ captures, entry.regex.captures? sentence = some captures
            ∧ match (entry.pattern.generator.run options captures).1.code? with
              | some code => body = code
              | none => Body.Throws body ("Step generation failed: " ++ sentence) := by
  intro line? sentence named? first? kind body
  have hsplit : splitSentence text = (line?.map Prod.fst, sentence) := by
    show splitSentence text = ((stepLine? text.toList).map Prod.fst,
      ((stepLine? text.toList).map fun line => String.ofList line.2).getD (Text.trimmed text))
    rw [splitSentence]
    cases stepLine? text.toList <;> rfl
  have htrim : Text.trimmed sentence = sentence := by
    have h := trimmed_splitSentence text
    rwa [hsplit] at h
  have hnamed : (line?.map Prod.fst).bind Keyword.kind? = named? := Option.bind_map ..
  -- The entry of a body is the first pattern that occurs, so both give the kind.
  have hentry : Body.entry? (r.body options sentence) = first? := by
    cases hfirst : first? with
    | none => rw [r.body_of_find?_eq_none options htrim hfirst]
    | some entry =>
        obtain ⟨captures, -, hbody⟩ := r.body_of_find?_eq_some options htrim hfirst
        rw [hbody]
  have hdeclare : r.declareText options text
      = Declaration.format options.output kind sentence body := by
    have hkind : ((line?.map Prod.fst).bind Keyword.kind?
        <|> (Body.entry? (r.body options sentence)).map (·.pattern.kind.stepKind)).getD .given
          = kind := by
      rw [hnamed, hentry]
    rw [declareText, hsplit]
    exact congrArg (Declaration.format options.output · sentence body) hkind
  refine ⟨hdeclare, ?_, r.not_blank_body options sentence, ?_⟩
  · rw [hdeclare]
    exact Declaration.read_eq_some options.output kind sentence body
  · cases hfirst : first? with
    | none =>
        have hbody := r.body_of_find?_eq_none options htrim hfirst
        show Body.Throws (r.body options sentence).text _
        rw [hbody]
        exact Body.throws_unmatched sentence
    | some entry =>
        obtain ⟨captures, hcaptures, hbody⟩ := r.body_of_find?_eq_some options htrim hfirst
        refine ⟨captures, hcaptures, ?_⟩
        have htext : body = Body.ofOutcome entry.key sentence
            (entry.pattern.generator.run options captures).1 := congrArg Body.text hbody
        cases hcode : (entry.pattern.generator.run options captures).1.code? with
        | none =>
            show Body.Throws body _
            rw [htext]
            exact Body.throws_ofOutcome _ _ hcode
        | some code => exact htext.trans (Body.ofOutcome_of_code? _ _ hcode).1

end ScenarioSteps
