import ScenarioSteps.Proofs.Catalog.Standard
import ScenarioSteps.Proofs.Declaration.Total
import ScenarioSteps.Proofs.Pattern.Captures
import ScenarioSteps.Proofs.Regex.Groups
import ScenarioSteps.Proofs.Source.Fragment

/-!
# `ScenarioSteps.Proofs.Catalog.Suited`: generators suit their patterns

A pattern declares how many groups its generator reads, and registration compares that
number with the groups of its expression. Nothing compares it with the generator. Here
each generator of the catalog is followed through its readings (`YieldsWithin`): on any
captures with as many groups as its pattern declares, whichever of them took part, it
reads these groups only and answers code (`suited_catalog`).

All code of the catalog begins with a statement, so no body is blank, and none can be
taken for a placeholder, which begins with a comment.

`Registry.standard_suited` puts this together with dispatch: over the standard registry,
a sentence gets what the generator answers if any pattern matches it, and the placeholder
of an unmatched sentence otherwise. The placeholder of a failed generator never occurs.
-/

set_option autoImplicit false

namespace ScenarioSteps

/-! ### Source that begins with code -/

/-- Source that begins neither with a blank nor with a comment. -/
def BeginsWithCode (source : String) : Prop :=
  ∃ c, source.toList.head? = some c ∧ Text.isBlank c = false ∧ c ≠ '/'

/-- Pieces of a fragment that begins with code. Fixed code is given by its characters, and
an empty piece is no beginning. -/
inductive Code.Begins : List CodePiece → Prop
  | fixed {c : Char} {text : List Char} {rest : List CodePiece}
      (hc : (!Text.isBlank c && c != '/') = true) :
      Begins (.fixed (String.ofList (c :: text)) :: rest)
  | empty {rest : List CodePiece} (hrest : Begins rest) :
      Begins (.fixed (String.ofList []) :: rest)

namespace BeginsWithCode

/-- A fragment begins where its pieces do. -/
theorem of_begins {code : Code} (h : Code.Begins code.pieces) : BeginsWithCode code.render := by
  rw [BeginsWithCode, Code.toList_render]
  generalize code.pieces = pieces at h
  induction h with
  | @fixed c text rest hc =>
      refine ⟨c, ?_, by simpa using hc⟩
      rw [List.flatMap_cons, CodePiece.render, String.toList_ofList]
      rfl
  | empty _ ih =>
      rw [List.flatMap_cons, CodePiece.render, String.toList_ofList]
      exact ih

/-- What begins with code is not blank. -/
theorem not_blank {source : String} (h : BeginsWithCode source) :
    Text.trim source.toList ≠ [] := by
  obtain ⟨c, hc, hblank, -⟩ := h
  intro htrim
  have hall := Text.isBlank_of_trim_eq_nil htrim c (List.mem_of_mem_head? hc)
  rw [hblank] at hall
  cases hall

/-- A placeholder begins with a comment. -/
theorem ne_placeholder {source : String} (h : BeginsWithCode source) (comment message : String) :
    source ≠ Body.placeholder comment message := by
  obtain ⟨c, hc, -, hslash⟩ := h
  rintro rfl
  have hfirst : (Body.placeholder comment message).toList.head? = some '/' := by
    simp [Body.placeholder]
  exact hslash (Option.some.inj (hc.symm.trans hfirst))

end BeginsWithCode

/-! ### Generators and groups -/

/-- A generator for patterns with a number of groups: it reads no others, and answers
source that begins with code. -/
def CodeGenerator.Suits (arity : Nat) (generate : CodeGenerator) : Prop :=
  ∀ values : List (Option String), values.length = arity → ∀ target,
    YieldsWithin values (fun code => BeginsWithCode code.render) (generate target)

/-- A pattern whose generator is one for the number of groups that it declares. -/
def StepPattern.Suited (p : StepPattern) : Prop :=
  ∃ generate : CodeGenerator, p.generator = generate.toGenerator ∧ generate.Suits p.arity

section

variable {values : List (Option String)}

/-- The code that a generator leaves behind its last reading. -/
theorem yieldsWithin_of_begins {code : Code} (h : Code.Begins code.pieces) :
    YieldsWithin values (fun code => BeginsWithCode code.render) (pure code) :=
  yieldsWithin_pure (.of_begins h)

/-- Fixed code needs no groups. -/
theorem suits_constant {browser mounted : String} (hbrowser : Code.Begins [.fixed browser])
    (hmounted : Code.Begins [.fixed mounted]) :
    (CodeGenerator.constant browser mounted).Suits 0 := by
  intro values _ target
  cases target with
  | playwright => exact yieldsWithin_of_begins hbrowser
  | componentMount => exact yieldsWithin_of_begins hmounted

/-- One group is all that a generator of this form reads. -/
theorem suits_ofFirst {browser mounted : String → Code}
    (hbrowser : ∀ text, Code.Begins (browser text).pieces)
    (hmounted : ∀ text, Code.Begins (mounted text).pieces) :
    (CodeGenerator.ofFirst browser mounted).Suits 1 := by
  intro values hlength target
  refine (yieldsWithin_text (by omega)).bind fun first => ?_
  cases target with
  | playwright => exact yieldsWithin_of_begins (hbrowser first)
  | componentMount => exact yieldsWithin_of_begins (hmounted first)

end

namespace Interaction

/-- A click on a button reads one group, the name of the button. -/
theorem suits_clickButton : clickButton.Suits 1 := by
  intro values hlength target
  refine (yieldsWithin_text (by omega)).bind fun text => ?_
  cases target <;> refine yieldsWithin_of_begins ?_ <;> repeat' constructor

/-- A click on a link reads one group, the name of the link. -/
theorem suits_clickLink : clickLink.Suits 1 := by
  intro values hlength target
  refine (yieldsWithin_text (by omega)).bind fun text => ?_
  cases target <;> refine yieldsWithin_of_begins ?_ <;> repeat' constructor

/-- A click on any element reads one group, its selector. -/
theorem suits_clickElement : clickElement.Suits 1 := by
  intro values hlength target
  refine (yieldsWithin_text (by omega)).bind fun text => ?_
  cases target <;> refine yieldsWithin_of_begins ?_ <;> repeat' constructor

/-- A field that is filled in reads two groups, its label and its value. -/
theorem suits_fillField : fillField.Suits 2 := by
  intro values hlength target
  refine (yieldsWithin_text (by omega)).bind fun first => ?_
  refine (yieldsWithin_text (by omega)).bind fun second => ?_
  cases target <;> refine yieldsWithin_of_begins ?_ <;> repeat' constructor

/-- The sentence that names the field first has the same two groups. -/
theorem suits_fillFieldWith : fillFieldWith.Suits 2 := by
  intro values hlength target
  refine (yieldsWithin_text (by omega)).bind fun first => ?_
  refine (yieldsWithin_text (by omega)).bind fun second => ?_
  cases target <;> refine yieldsWithin_of_begins ?_ <;> repeat' constructor

/-- An option that is chosen reads two groups, the label of the list and the option. -/
theorem suits_selectOption : selectOption.Suits 2 := by
  intro values hlength target
  refine (yieldsWithin_text (by omega)).bind fun first => ?_
  refine (yieldsWithin_text (by omega)).bind fun second => ?_
  cases target <;> refine yieldsWithin_of_begins ?_ <;> repeat' constructor

/-- A box reads two groups, the verb and its label. -/
theorem suits_toggleCheckbox : toggleCheckbox.Suits 2 := by
  intro values hlength target
  refine (yieldsWithin_text (by omega)).bind fun first => ?_
  refine (yieldsWithin_text (by omega)).bind fun second => ?_
  cases target <;> refine yieldsWithin_of_begins ?_ <;> repeat' constructor

/-- A key that is pressed reads one group, its name. -/
theorem suits_pressKey : pressKey.Suits 1 :=
  suits_ofFirst (fun _ => by repeat' constructor) (fun _ => by repeat' constructor)

/-- The mouse over an element reads one group, the text of the element. -/
theorem suits_hover : hover.Suits 1 := by
  intro values hlength target
  refine (yieldsWithin_text (by omega)).bind fun text => ?_
  cases target <;> refine yieldsWithin_of_begins ?_ <;> repeat' constructor

/-- A text that is looked for reads two groups. The optional word is only looked at, and
chooses the code. -/
theorem suits_seeText : seeText.Suits 2 := by
  intro values hlength target
  refine (yieldsWithin_present (by omega)).bind fun negated => ?_
  refine (yieldsWithin_text (by omega)).bind fun text => ?_
  cases negated <;> cases target <;> refine yieldsWithin_of_begins ?_ <;> repeat' constructor

/-- An element that is looked for reads two groups, of which one is optional again. -/
theorem suits_elementVisible : elementVisible.Suits 2 := by
  intro values hlength target
  refine (yieldsWithin_present (by omega)).bind fun negated => ?_
  refine (yieldsWithin_text (by omega)).bind fun text => ?_
  cases negated <;> cases target <;> refine yieldsWithin_of_begins ?_ <;> repeat' constructor

/-- A field that is compared reads two groups, its label and its value. -/
theorem suits_fieldValue : fieldValue.Suits 2 := by
  intro values hlength target
  refine (yieldsWithin_text (by omega)).bind fun first => ?_
  refine (yieldsWithin_text (by omega)).bind fun second => ?_
  cases target <;> refine yieldsWithin_of_begins ?_ <;> repeat' constructor

/-- The state of a button reads two groups, the name and the word for the state. -/
theorem suits_buttonState : buttonState.Suits 2 := by
  intro values hlength target
  refine (yieldsWithin_text (by omega)).bind fun first => ?_
  refine (yieldsWithin_text (by omega)).bind fun second => ?_
  cases target <;> refine yieldsWithin_of_begins ?_ <;> repeat' constructor

/-- All patterns of the section interaction have generators that suit them. -/
theorem suited_patterns : ∀ p ∈ patterns, p.2.Suited :=
  List.forall_iff_forall_mem.mp
    ⟨⟨_, rfl, suits_clickButton⟩, ⟨_, rfl, suits_clickLink⟩, ⟨_, rfl, suits_clickElement⟩,
      ⟨_, rfl, suits_fillField⟩, ⟨_, rfl, suits_fillFieldWith⟩, ⟨_, rfl, suits_selectOption⟩,
      ⟨_, rfl, suits_toggleCheckbox⟩, ⟨_, rfl, suits_pressKey⟩, ⟨_, rfl, suits_hover⟩,
      ⟨_, rfl, suits_seeText⟩, ⟨_, rfl, suits_elementVisible⟩, ⟨_, rfl, suits_fieldValue⟩,
      ⟨_, rfl, suits_buttonState⟩⟩

end Interaction

namespace Navigation

/-- A page that is opened reads one group, its name. -/
theorem suits_visit : visit.Suits 1 :=
  suits_ofFirst (fun _ => by repeat' constructor) (fun _ => by repeat' constructor)

/-- The step back in history reads no groups. -/
theorem suits_goBack : goBack.Suits 0 :=
  suits_constant (by repeat' constructor) (by repeat' constructor)

/-- To load the page again reads no groups. -/
theorem suits_reload : reload.Suits 0 :=
  suits_constant (by repeat' constructor) (by repeat' constructor)

/-- The page that should be shown reads one group, its name. -/
theorem suits_onPage : onPage.Suits 1 :=
  suits_ofFirst (fun _ => by repeat' constructor) (fun _ => by repeat' constructor)

/-- The page that a redirect should lead to reads one group, its name. -/
theorem suits_redirected : redirected.Suits 1 :=
  suits_ofFirst (fun _ => by repeat' constructor) (fun _ => by repeat' constructor)

/-- The part of an address is the one group that is read for it. -/
theorem suits_urlContains : urlContains.Suits 1 :=
  suits_ofFirst (fun _ => by repeat' constructor) (fun _ => by repeat' constructor)

/-- The title of the document is the one group that is read for it. -/
theorem suits_pageTitle : pageTitle.Suits 1 :=
  suits_ofFirst (fun _ => by repeat' constructor) (fun _ => by repeat' constructor)

/-- All patterns of the section navigation have generators that suit them. -/
theorem suited_patterns : ∀ p ∈ patterns, p.2.Suited :=
  List.forall_iff_forall_mem.mp
    ⟨⟨_, rfl, suits_visit⟩, ⟨_, rfl, suits_visit⟩, ⟨_, rfl, suits_goBack⟩, ⟨_, rfl, suits_reload⟩,
      ⟨_, rfl, suits_onPage⟩, ⟨_, rfl, suits_redirected⟩, ⟨_, rfl, suits_urlContains⟩,
      ⟨_, rfl, suits_pageTitle⟩⟩

end Navigation

namespace Auth

/-- A user reads two groups, of which the password is optional. -/
theorem suits_userExists : userExists.Suits 2 := by
  intro values hlength target
  refine (yieldsWithin_text (by omega)).bind fun email => ?_
  refine (yieldsWithin_get (by omega)).bind fun password? => ?_
  cases target <;> refine yieldsWithin_of_begins ?_ <;> repeat' constructor

/-- A session reads one group, its role. -/
theorem suits_loggedInAs : loggedInAs.Suits 1 :=
  suits_ofFirst (fun _ => by repeat' constructor) (fun _ => by repeat' constructor)

/-- To clear a session reads no groups. -/
theorem suits_notLoggedIn : notLoggedIn.Suits 0 :=
  suits_constant (by repeat' constructor) (by repeat' constructor)

/-- The login form reads two groups, address and password. -/
theorem suits_logInWith : logInWith.Suits 2 := by
  intro values hlength target
  refine (yieldsWithin_text (by omega)).bind fun first => ?_
  refine (yieldsWithin_text (by omega)).bind fun second => ?_
  cases target <;> refine yieldsWithin_of_begins ?_ <;> repeat' constructor

/-- To end a session reads no groups. -/
theorem suits_logOut : logOut.Suits 0 := by
  intro values hlength target
  cases target <;> refine yieldsWithin_of_begins ?_ <;> repeat' constructor

/-- To look for a session reads one group, the optional word. -/
theorem suits_shouldBeLoggedIn : shouldBeLoggedIn.Suits 1 := by
  intro values hlength target
  refine (yieldsWithin_present (by omega)).bind fun negated => ?_
  cases target <;> refine yieldsWithin_of_begins ?_ <;> repeat' constructor

/-- To recognise a page that is refused reads no groups. -/
theorem suits_accessDenied : accessDenied.Suits 0 :=
  suits_constant (by repeat' constructor) (by repeat' constructor)

/-- All patterns of the section auth have generators that suit them. -/
theorem suited_patterns : ∀ p ∈ patterns, p.2.Suited :=
  List.forall_iff_forall_mem.mp
    ⟨⟨_, rfl, suits_userExists⟩, ⟨_, rfl, suits_loggedInAs⟩, ⟨_, rfl, suits_notLoggedIn⟩,
      ⟨_, rfl, suits_logInWith⟩, ⟨_, rfl, suits_logOut⟩, ⟨_, rfl, suits_shouldBeLoggedIn⟩,
      ⟨_, rfl, suits_accessDenied⟩⟩

end Auth

namespace Store

/-- A payload is read within the groups, given or not. -/
theorem yieldsWithin_payload {values : List (Option String)} {index : Nat}
    (h : index < values.length) : YieldsWithin values (fun _ => True) (payload index) := by
  refine (yieldsWithin_get h).bind fun text? => ?_
  cases text? with
  | some text => exact yieldsWithin_pure trivial
  | none => exact yieldsWithin_pure trivial

/-- A value that is written to the store reads two groups, the value and the path. -/
theorem suits_setState : setState.Suits 2 := by
  intro values hlength target
  refine (yieldsWithin_text (by omega)).bind fun first => ?_
  refine (yieldsWithin_text (by omega)).bind fun second => ?_
  cases target <;> refine yieldsWithin_of_begins ?_ <;> repeat' constructor

/-- An action reads two groups, of which the payload is optional. -/
theorem suits_dispatch : dispatch.Suits 2 := by
  intro values hlength target
  refine (yieldsWithin_text (by omega)).bind fun action => ?_
  refine (yieldsWithin_payload (by omega)).bind fun load => ?_
  cases target <;> refine yieldsWithin_of_begins ?_ <;> repeat' constructor

/-- A mutation reads two groups, as an action does. It is not waited for, so its code has an
empty piece in front. -/
theorem suits_commit : commit.Suits 2 := by
  intro values hlength target
  refine (yieldsWithin_text (by omega)).bind fun mutation => ?_
  refine (yieldsWithin_payload (by omega)).bind fun load => ?_
  cases target <;> refine yieldsWithin_of_begins ?_ <;> repeat' constructor

/-- A value that the store should have reads two groups, the value and the path. -/
theorem suits_stateEquals : stateEquals.Suits 2 := by
  intro values hlength target
  refine (yieldsWithin_text (by omega)).bind fun first => ?_
  refine (yieldsWithin_text (by omega)).bind fun second => ?_
  cases target <;> refine yieldsWithin_of_begins ?_ <;> repeat' constructor

/-- A getter reads two groups, its name and the value. -/
theorem suits_getterEquals : getterEquals.Suits 2 := by
  intro values hlength target
  refine (yieldsWithin_text (by omega)).bind fun first => ?_
  refine (yieldsWithin_text (by omega)).bind fun second => ?_
  cases target <;> refine yieldsWithin_of_begins ?_ <;> repeat' constructor

/-- All patterns of the section store have generators that suit them. -/
theorem suited_patterns : ∀ p ∈ patterns, p.2.Suited :=
  List.forall_iff_forall_mem.mp
    ⟨⟨_, rfl, suits_setState⟩, ⟨_, rfl, suits_dispatch⟩, ⟨_, rfl, suits_commit⟩,
      ⟨_, rfl, suits_stateEquals⟩, ⟨_, rfl, suits_getterEquals⟩⟩

end Store

namespace Network

/-- A stubbed endpoint reads three groups, of which the body is optional. -/
theorem suits_mockResponse : mockResponse.Suits 3 := by
  intro values hlength target
  refine (yieldsWithin_text (by omega)).bind fun url => ?_
  refine (yieldsWithin_text (by omega)).bind fun status => ?_
  refine (yieldsWithin_get (by omega)).bind fun body? => ?_
  cases target <;> refine yieldsWithin_of_begins ?_ <;> repeat' constructor

/-- An endpoint that fails reads one group, its address. -/
theorem suits_mockFailure : mockFailure.Suits 1 :=
  suits_ofFirst (fun _ => by repeat' constructor) (fun _ => by repeat' constructor)

/-- A request reads two groups, its method and its address. -/
theorem suits_requestMade : requestMade.Suits 2 := by
  intro values hlength target
  refine (yieldsWithin_text (by omega)).bind fun first => ?_
  refine (yieldsWithin_text (by omega)).bind fun second => ?_
  cases target <;> refine yieldsWithin_of_begins ?_ <;> repeat' constructor

/-- A request that should not have been sent reads two groups, of which the method is optional.
-/
theorem suits_noRequest : noRequest.Suits 2 := by
  intro values hlength target
  refine (yieldsWithin_text (by omega)).bind fun url => ?_
  refine (yieldsWithin_get (by omega)).bind fun method? => ?_
  cases target <;> refine yieldsWithin_of_begins ?_ <;> repeat' constructor

/-- The status of a response is the one group that is read for it. -/
theorem suits_responseStatus : responseStatus.Suits 1 :=
  suits_ofFirst (fun _ => by repeat' constructor) (fun _ => by repeat' constructor)

/-- All patterns of the section network have generators that suit them. -/
theorem suited_patterns : ∀ p ∈ patterns, p.2.Suited :=
  List.forall_iff_forall_mem.mp
    ⟨⟨_, rfl, suits_mockResponse⟩, ⟨_, rfl, suits_mockFailure⟩, ⟨_, rfl, suits_requestMade⟩,
      ⟨_, rfl, suits_noRequest⟩, ⟨_, rfl, suits_responseStatus⟩⟩

end Network

/-- All generators of the catalog suit their patterns. -/
theorem suited_catalog : ∀ p ∈ catalog, p.2.Suited :=
  forall_mem_catalog Interaction.suited_patterns Navigation.suited_patterns Auth.suited_patterns
    Store.suited_patterns Network.suited_patterns

/-- On captures of the declared number, a suited generator leaves code, and no mark of a
reading past the last group. -/
theorem StepPattern.Suited.run {p : StepPattern} (h : p.Suited) (options : Options)
    {values : List (Option String)} (hlength : values.length = p.arity) :
    ∃ code, p.generator.run options values = (.body code, { values }) ∧ BeginsWithCode code := by
  obtain ⟨generate, hgenerator, hsuits⟩ := h
  obtain ⟨hcode, hkept⟩ := hsuits values hlength options.execution { values } rfl
  refine ⟨_, ?_, hcode⟩
  rw [hgenerator]
  show (Outcome.body (generate options.execution { values }).1.render,
    (generate options.execution { values }).2) = _
  rw [hkept]

/-- A match has as many captures as the pattern declares. -/
theorem Entry.length_captures {entry : Entry} {sentence : String} {found : Match}
    (h : entry.recognise? sentence = some found) :
    found.captures.length = entry.pattern.arity :=
  (Regex.length_of_captures? (Entry.recognise?_eq_some_iff.mp h).2).trans entry.arity_eq

/-! ### The standard registry -/

namespace Registry

variable {r : Registry}

/-- The patterns of the standard registry are those of the catalog. -/
theorem mem_catalog_of_mem_standard (hr : standard = .ok r) {entry : Entry}
    (hmem : entry ∈ r.entries) : (entry.key, entry.pattern) ∈ catalog := by
  obtain ⟨r', hr', hcatalog, -⟩ := standard_entries
  obtain rfl : r = r' := Except.ok.inj (hr.symm.trans hr')
  rw [← hcatalog]
  exact List.mem_map_of_mem hmem

/-- The entry that a sentence goes to recognises it. -/
theorem recognise?_of_resolve? {sentence : String} {found : Match}
    (h : r.resolve? sentence = some found) :
    found.entry ∈ r.entries ∧ found.entry.recognise? (Text.trimmed sentence) = some found := by
  obtain ⟨entry, hmem, hfound⟩ := List.exists_of_findSome?_eq_some h
  obtain rfl := Entry.entry_of_recognise? hfound
  exact ⟨hmem, hfound⟩

/-- A sentence goes nowhere exactly if no pattern matches it. -/
theorem resolve?_eq_none_iff (r : Registry) (sentence : String) :
    r.resolve? sentence = none
      ↔ ∀ entry ∈ r.entries, entry.regex.occursIn (Text.trimmed sentence) = false := by
  simp only [resolve?, List.findSome?_eq_none_iff, Entry.recognise?_eq_none_iff]

/-- In the standard registry, what a sentence goes to leaves code for it. -/
theorem generate_standard (hr : standard = .ok r) (options : Options) {sentence : String}
    {found : Match} (h : r.resolve? sentence = some found) :
    ∃ code, found.generate options = (.body code, { values := found.captures })
      ∧ BeginsWithCode code := by
  obtain ⟨hmem, hfound⟩ := recognise?_of_resolve? h
  have hsuited := suited_catalog _ (mem_catalog_of_mem_standard hr hmem)
  exact hsuited.run options (Entry.length_captures hfound)

/-- Generators of the standard registry suit their patterns. On any captures of the
declared number, a generator reads no others, does not break down and leaves a body that
is not blank; and a match of the pattern has this number of captures. So the body for a
sentence is the placeholder of an unmatched sentence exactly if no pattern matches, and
is otherwise what the generator leaves, which is no placeholder. -/
theorem standard_suited (hr : standard = .ok r) :
    (∀ entry ∈ r.entries,
        (∀ (options : Options) (values : List (Option String)),
          values.length = entry.pattern.arity →
            ∃ body, entry.pattern.generator.run options values
                = (.body body, { values, overread := false })
              ∧ Text.trim body.toList ≠ [])
        ∧ ∀ (sentence : String) (found : Match), entry.recognise? sentence = some found →
            found.captures.length = entry.pattern.arity)
      ∧ ∀ (options : Options) (sentence : String),
        (Body.entry? (r.body options sentence) = none
          ↔ ∀ entry ∈ r.entries, entry.regex.occursIn (Text.trimmed sentence) = false)
        ∧ match r.resolve? sentence with
          | none => r.body options sentence = ⟨Body.unmatched sentence, none⟩
          | some found => ∃ body,
              found.generate options = (.body body, { values := found.captures })
                ∧ r.body options sentence = ⟨body, some found.entry⟩
                ∧ body ≠ Body.unmatched sentence
                ∧ ∀ key reason, body ≠ Body.failed key sentence reason := by
  refine ⟨fun entry hmem => ⟨fun options values hlength => ?_, fun sentence found hfound =>
    Entry.length_captures hfound⟩, fun options sentence => ?_⟩
  · have hsuited := suited_catalog _ (mem_catalog_of_mem_standard hr hmem)
    obtain ⟨code, hrun, hcode⟩ := hsuited.run options hlength
    exact ⟨code, hrun, hcode.not_blank⟩
  · rw [← resolve?_eq_none_iff]
    cases hresolve : r.resolve? sentence with
    | none =>
        have hbody : r.body options sentence = ⟨Body.unmatched sentence, none⟩ := by
          rw [body, hresolve]
        exact ⟨by simp [hbody], hbody⟩
    | some found =>
        obtain ⟨code, hgenerate, hcode⟩ := generate_standard hr options hresolve
        -- The code is not blank, so it is the body as it stands.
        have hbody : r.body options sentence = ⟨code, some found.entry⟩ := by
          rw [body, hresolve]
          simp only [hgenerate, Body.ofOutcome, List.isEmpty_iff, if_neg hcode.not_blank]
        refine ⟨by simp [hbody], code, hgenerate, hbody, hcode.ne_placeholder _ _, ?_⟩
        exact fun key reason => hcode.ne_placeholder _ _

/-- A stubbed endpoint: captures of which only one took part, and those of the sample
sentence of its pattern. -/
theorem standard_suited_without_groups :
    ∃ r : Registry, standard = .ok r ∧ ∃ entry ∈ r.entries, entry.key = "network/mock-response"
      ∧ [none, some "\n' \u2028", none].length = entry.pattern.arity
      ∧ (∃ body, entry.pattern.generator.run { execution := .componentMount }
            [none, some "\n' \u2028", none]
          = (.body body, { values := [none, some "\n' \u2028", none], overread := false })
        ∧ Text.trim body.toList ≠ [])
      ∧ ∃ found, entry.recognise? "the API \"/api/users\" returns status 200 with \"[]\""
          = some found ∧ found.captures.length = entry.pattern.arity := by
  obtain ⟨r, hr, hcatalog, -⟩ := standard_entries
  have hlisted : ∃ p ∈ catalog, p.1 = "network/mock-response" ∧ p.2.arity = 3
      ∧ p.2.sample? = some "the API \"/api/users\" returns status 200 with \"[]\"" := by
    decide
  obtain ⟨p, hp, hkey, harity, hsample⟩ := hlisted
  rw [← hcatalog] at hp
  obtain ⟨entry, hmem, rfl⟩ := List.mem_map.mp hp
  obtain ⟨hruns, hmatches⟩ := (standard_suited hr).1 entry hmem
  have hfound : (entry.recognise? _).isSome = true :=
    (entry.isSome_recognise? _).trans (entry.sample_occurs _ hsample)
  obtain ⟨found, hfound⟩ := Option.isSome_iff_exists.mp hfound
  exact ⟨r, hr, entry, hmem, hkey, harity.symm,
    hruns { execution := .componentMount } _ harity.symm, found, hfound, hmatches _ found hfound⟩

end Registry

end ScenarioSteps
