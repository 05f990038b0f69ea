import ScenarioSteps.Catalog.Standard
import ScenarioSteps.Proofs.Pattern.Captures
import ScenarioSteps.Proofs.Regex.Groups
import ScenarioSteps.Proofs.Source.Value

/-!
# `ScenarioSteps.Proofs.Source.Generators`: the code of the catalog hangs together

A pattern `IsSteady` if its generator writes steady code from the captures of any
match. `isSteady_patterns` says so for each section of the catalog.

There is one lemma for each generator. Most generators put captured texts into
literals, and their code passes whatever the texts are (`yields_of_passes`).
Generators for the store also write values, which stand between two fragments
(`yields_around_term`). Two generators of the network section write a captured
status as it stands, but what their patterns capture there has no special
characters (`not_special_of_capturesPlain`).
-/

set_option autoImplicit false

namespace ScenarioSteps

open Lexer (State IsTerm specials)

/-- A generator that writes steady code, from captures with given values. -/
def CodeGenerator.IsSteady (values : List (Option String)) (generate : CodeGenerator) : Prop :=
  ∀ target, Yields values Code.IsSteady (generate target)

/-- A pattern whose generator writes steady code from the captures of any match. -/
def StepPattern.IsSteady (p : StepPattern) : Prop :=
  ∀ (regex : Regex) (sentence : String) (values : List (Option String)),
    Regex.parse p.source = .ok regex → regex.captures? sentence = some values →
      ∃ generate : CodeGenerator,
        p.generator = generate.toGenerator ∧ generate.IsSteady values

/-- Of most generators the code is steady from any captures. -/
theorem StepPattern.IsSteady.of_generator {p : StepPattern} {generate : CodeGenerator}
    (hp : p.generator = generate.toGenerator) (h : ∀ values, generate.IsSteady values) :
    p.IsSteady :=
  fun _ _ values _ _ => ⟨generate, hp, h values⟩

section

variable {values : List (Option String)}

/-- Code that passes, whatever has been captured. -/
theorem yields_of_passes {code : Code} (h : Code.Passes .start code.pieces .start) :
    Yields values Code.IsSteady (pure code) :=
  yields_pure (Code.isSteady_of_passes h)

/-- A term between two fragments that pass. -/
theorem yields_around_term {s : State} {before term behind : Code}
    (hterm : IsTerm term.render.toList) (hmode : s.mode ∈ [.code, .opened])
    (hbefore : Code.Passes .start before.pieces s)
    (hbehind : Code.Passes ⟨.code, s.closers⟩ behind.pieces .start) :
    Yields values Code.IsSteady (pure (before ++ term ++ behind)) :=
  yields_pure (Code.isSteady_around_term (Code.leads_of_passes hbefore) hmode hterm
    (Code.leads_of_passes hbehind))

/-- Fixed code, once for each target. -/
theorem isSteady_constant {browser mounted : String}
    (hbrowser : Code.Passes .start [.fixed browser] .start)
    (hmounted : Code.Passes .start [.fixed mounted] .start) :
    (CodeGenerator.constant browser mounted).IsSteady values := by
  intro target
  cases target with
  | playwright => exact yields_of_passes hbrowser
  | componentMount => exact yields_of_passes hmounted

/-- Code from the first group alone. -/
theorem isSteady_ofFirst {browser mounted : String → Code}
    (hbrowser : ∀ text, Code.Passes .start (browser text).pieces .start)
    (hmounted : ∀ text, Code.Passes .start (mounted text).pieces .start) :
    (CodeGenerator.ofFirst browser mounted).IsSteady values := by
  intro target
  refine (yields_text 0).bind_forall fun first => ?_
  cases target with
  | playwright => exact yields_of_passes (hbrowser first)
  | componentMount => exact yields_of_passes (hmounted first)

end

namespace Interaction

/-- A click on a button is steady code, whatever the button is called. -/
theorem isSteady_clickButton (values : List (Option String)) : clickButton.IsSteady values := by
  intro target
  refine (yields_text 0).bind_forall fun text => ?_
  cases target <;> refine yields_of_passes ?_ <;> repeat' constructor

/-- A click on a link is steady code, whatever the link is called. -/
theorem isSteady_clickLink (values : List (Option String)) : clickLink.IsSteady values := by
  intro target
  refine (yields_text 0).bind_forall fun text => ?_
  cases target <;> refine yields_of_passes ?_ <;> repeat' constructor

/-- A click on any element is steady code, whatever its selector is. -/
theorem isSteady_clickElement (values : List (Option String)) : clickElement.IsSteady values := by
  intro target
  refine (yields_text 0).bind_forall fun text => ?_
  cases target <;> refine yields_of_passes ?_ <;> repeat' constructor

/-- A value that is typed into a field and the label of the field both stand in literals. -/
theorem isSteady_fillField (values : List (Option String)) : fillField.IsSteady values := by
  intro target
  refine (yields_text 1).bind_forall fun first => (yields_text 0).bind_forall fun second => ?_
  cases target <;> refine yields_of_passes ?_ <;> repeat' constructor

/-- They do for the sentence that names the field first as well. -/
theorem isSteady_fillFieldWith (values : List (Option String)) : fillFieldWith.IsSteady values := by
  intro target
  refine (yields_text 0).bind_forall fun first => (yields_text 1).bind_forall fun second => ?_
  cases target <;> refine yields_of_passes ?_ <;> repeat' constructor

/-- An option and the label of its list stand in literals. -/
theorem isSteady_selectOption (values : List (Option String)) : selectOption.IsSteady values := by
  intro target
  refine (yields_text 1).bind_forall fun first => (yields_text 0).bind_forall fun second => ?_
  cases target <;> refine yields_of_passes ?_ <;> repeat' constructor

/-- The label of a box stands in a literal, whether the box is checked or unchecked. -/
theorem isSteady_toggleCheckbox (values : List (Option String)) :
    toggleCheckbox.IsSteady values := by
  intro target
  refine (yields_text 0).bind_forall fun verb => (yields_text 1).bind_forall fun label => ?_
  dsimp only
  -- The verb chooses the code and does not stand in it.
  cases Text.sameAscii verb "uncheck" <;> cases target <;> refine yields_of_passes ?_ <;>
    repeat' constructor

/-- The name of a key stands in a literal, for a mounted component within an object. -/
theorem isSteady_pressKey (values : List (Option String)) : pressKey.IsSteady values :=
  isSteady_ofFirst (fun _ => by repeat' constructor) (fun _ => by repeat' constructor)

/-- The mouse over an element is steady code, whatever the text of the element is. -/
theorem isSteady_hover (values : List (Option String)) : hover.IsSteady values := by
  intro target
  refine (yields_text 0).bind_forall fun text => ?_
  cases target <;> refine yields_of_passes ?_ <;> repeat' constructor

/-- A text stands in a literal, whether it should be on screen or not. -/
theorem isSteady_seeText (values : List (Option String)) : seeText.IsSteady values := by
  intro target
  refine (yields_present 0).bind_forall fun negated => (yields_text 1).bind_forall fun text => ?_
  cases negated <;> cases target <;> refine yields_of_passes ?_ <;> repeat' constructor

/-- A selector stands in a literal, whether its element should be visible or not. -/
theorem isSteady_elementVisible (values : List (Option String)) :
    elementVisible.IsSteady values := by
  intro target
  refine (yields_present 1).bind_forall fun negated => (yields_text 0).bind_forall fun text => ?_
  cases negated <;> cases target <;> refine yields_of_passes ?_ <;> repeat' constructor

/-- The label of a field and the value that it should have stand in literals. -/
theorem isSteady_fieldValue (values : List (Option String)) : fieldValue.IsSteady values := by
  intro target
  refine (yields_text 0).bind_forall fun first => (yields_text 1).bind_forall fun second => ?_
  cases target <;> refine yields_of_passes ?_ <;> repeat' constructor

/-- The name of a button stands in a literal, and its state is fixed code. -/
theorem isSteady_buttonState (values : List (Option String)) : buttonState.IsSteady values := by
  intro target
  refine (yields_text 0).bind_forall fun name => (yields_text 1).bind_forall fun word => ?_
  dsimp only
  -- The word chooses the code as well.
  cases Text.sameAscii word "disabled" <;> cases target <;> refine yields_of_passes ?_ <;>
    repeat' constructor

/-- All patterns of the section interaction write steady code. -/
theorem isSteady_patterns : ∀ p ∈ patterns, p.2.IsSteady :=
  List.forall_iff_forall_mem.mp
    ⟨.of_generator rfl isSteady_clickButton, .of_generator rfl isSteady_clickLink,
      .of_generator rfl isSteady_clickElement, .of_generator rfl isSteady_fillField,
      .of_generator rfl isSteady_fillFieldWith, .of_generator rfl isSteady_selectOption,
      .of_generator rfl isSteady_toggleCheckbox, .of_generator rfl isSteady_pressKey,
      .of_generator rfl isSteady_hover, .of_generator rfl isSteady_seeText,
      .of_generator rfl isSteady_elementVisible, .of_generator rfl isSteady_fieldValue,
      .of_generator rfl isSteady_buttonState⟩

end Interaction

namespace Navigation

/-- A page is opened by steady code, whatever its name or its address is. -/
theorem isSteady_visit (values : List (Option String)) : visit.IsSteady values :=
  isSteady_ofFirst (fun _ => by repeat' constructor) (fun _ => by repeat' constructor)

/-- The step back in history is fixed code. -/
theorem isSteady_goBack (values : List (Option String)) : goBack.IsSteady values :=
  isSteady_constant (by repeat' constructor) (by repeat' constructor)

/-- To load the page again takes fixed code. -/
theorem isSteady_reload (values : List (Option String)) : reload.IsSteady values :=
  isSteady_constant (by repeat' constructor) (by repeat' constructor)

/-- The path of the page that should be shown stands in a literal. -/
theorem isSteady_onPage (values : List (Option String)) : onPage.IsSteady values :=
  isSteady_ofFirst (fun _ => by repeat' constructor) (fun _ => by repeat' constructor)

/-- The path of the page that a redirect should lead to stands in a literal. -/
theorem isSteady_redirected (values : List (Option String)) : redirected.IsSteady values :=
  isSteady_ofFirst (fun _ => by repeat' constructor) (fun _ => by repeat' constructor)

/-- The part that an address should contain stands in a literal. -/
theorem isSteady_urlContains (values : List (Option String)) : urlContains.IsSteady values :=
  isSteady_ofFirst (fun _ => by repeat' constructor) (fun _ => by repeat' constructor)

/-- The title that a document should have stands in a literal. -/
theorem isSteady_pageTitle (values : List (Option String)) : pageTitle.IsSteady values :=
  isSteady_ofFirst (fun _ => by repeat' constructor) (fun _ => by repeat' constructor)

/-- All patterns of the section navigation write steady code. -/
theorem isSteady_patterns : ∀ p ∈ patterns, p.2.IsSteady :=
  List.forall_iff_forall_mem.mp
    ⟨.of_generator rfl isSteady_visit, .of_generator rfl isSteady_visit,
      .of_generator rfl isSteady_goBack, .of_generator rfl isSteady_reload,
      .of_generator rfl isSteady_onPage, .of_generator rfl isSteady_redirected,
      .of_generator rfl isSteady_urlContains, .of_generator rfl isSteady_pageTitle⟩

end Navigation

namespace Auth

/-- The address and the password of a user stand in literals. The password does also where the
sentence gives none. -/
theorem isSteady_userExists (values : List (Option String)) : userExists.IsSteady values := by
  intro target
  refine (yields_text 0).bind_forall fun email => (yields_get 1).bind_forall fun password? => ?_
  cases target <;> refine yields_of_passes ?_ <;> repeat' constructor

/-- A role and the address that is made from it stand in literals. -/
theorem isSteady_loggedInAs (values : List (Option String)) : loggedInAs.IsSteady values :=
  isSteady_ofFirst (fun _ => by repeat' constructor) (fun _ => by repeat' constructor)

/-- A session is cleared by fixed code. -/
theorem isSteady_notLoggedIn (values : List (Option String)) : notLoggedIn.IsSteady values :=
  isSteady_constant (by repeat' constructor) (by repeat' constructor)

/-- An address and a password for the login form stand in literals. -/
theorem isSteady_logInWith (values : List (Option String)) : logInWith.IsSteady values := by
  intro target
  refine (yields_text 0).bind_forall fun first => (yields_text 1).bind_forall fun second => ?_
  cases target <;> refine yields_of_passes ?_ <;> repeat' constructor

/-- A session is ended by fixed code. -/
theorem isSteady_logOut (values : List (Option String)) : logOut.IsSteady values := by
  intro target
  cases target <;> refine yields_of_passes ?_ <;> repeat' constructor

/-- A session is looked for by fixed code, whether there should be one or not. -/
theorem isSteady_shouldBeLoggedIn (values : List (Option String)) :
    shouldBeLoggedIn.IsSteady values := by
  intro target
  refine (yields_present 0).bind_forall fun negated => ?_
  cases negated <;> cases target <;> refine yields_of_passes ?_ <;> repeat' constructor

/-- A page that is refused is recognised by fixed code. -/
theorem isSteady_accessDenied (values : List (Option String)) : accessDenied.IsSteady values :=
  isSteady_constant (by repeat' constructor) (by repeat' constructor)

/-- All patterns of the section auth write steady code. -/
theorem isSteady_patterns : ∀ p ∈ patterns, p.2.IsSteady :=
  List.forall_iff_forall_mem.mp
    ⟨.of_generator rfl isSteady_userExists, .of_generator rfl isSteady_loggedInAs,
      .of_generator rfl isSteady_notLoggedIn, .of_generator rfl isSteady_logInWith,
      .of_generator rfl isSteady_logOut, .of_generator rfl isSteady_shouldBeLoggedIn,
      .of_generator rfl isSteady_accessDenied⟩

end Auth

namespace Store

/-- A payload is a value or `undefined`. -/
theorem yields_payload {values : List (Option String)} (index : Nat) :
    Yields values (fun load => IsTerm load.render.toList) (payload index) := by
  refine (yields_get index).bind_forall fun text? => ?_
  cases text? with
  | some text => exact yields_pure (Code.isTerm_value text)
  | none =>
      have hplain : ∀ c ∈ "undefined".toList, c ∉ specials :=
        List.all_iff_forall_prop.mp (by decide)
      refine yields_pure ?_
      rw [Code.render_fixed]
      exact Lexer.isTerm_of_not_special (by decide) hplain

/-- A value is written to the store as a term, at a path that is a literal or stands in
brackets. -/
theorem isSteady_setState (values : List (Option String)) : setState.IsSteady values := by
  intro target
  refine (yields_text 1).bind_forall fun text => (yields_text 0).bind_forall fun path => ?_
  have hvalue := Code.isTerm_value text
  cases target with
  | playwright =>
      refine yields_around_term (s := ⟨.code, [']', ')']⟩) hvalue (by decide) ?_ ?_ <;>
        repeat' constructor
  | componentMount =>
      -- The path is code here, as long as it has keys, so the pieces are taken one by one.
      have hstate : Code.IsSteady "store.state" := Code.isSteady_of_passes (by repeat' constructor)
      have hequals : Code.IsSteady " = " := Code.isSteady_of_passes (by repeat' constructor)
      have hend : Code.IsSteady ";" := Code.isSteady_of_passes (by repeat' constructor)
      have hpath := Code.isSteady_propertyPath path
      exact yields_pure
        ((((hstate.append hpath).append hequals).append hvalue.steady).append hend)

/-- A message to the store is steady code if its payload is a term. The two methods of the store
differ in what a mounted component waits for. -/
theorem isSteady_send {method waiting : String}
    (hmethod : (method, waiting) ∈ [("dispatch", "await "), ("commit", "")])
    (target : ExecutionTarget) (name : String) {load : Code}
    (hload : IsTerm load.render.toList) : (send target method waiting name load).IsSteady := by
  rcases List.mem_pair.mp hmethod with h | h <;> obtain ⟨rfl, rfl⟩ := Prod.mk.inj h
  all_goals cases target with
    | playwright =>
        refine Code.isSteady_around_term (s := ⟨.code, [']', ')']⟩) (Code.leads_of_passes ?_)
          (by decide) hload (Code.leads_of_passes ?_) <;> repeat' constructor
    | componentMount =>
        refine Code.isSteady_around_term (s := ⟨.code, [')']⟩) (Code.leads_of_passes ?_)
          (by decide) hload (Code.leads_of_passes ?_) <;> repeat' constructor

/-- The payload of an action is a term behind the name of the action. -/
theorem isSteady_dispatch (values : List (Option String)) : dispatch.IsSteady values := by
  intro target
  refine (yields_text 0).bind_forall fun name => (yields_payload 1).bind fun load hload => ?_
  exact yields_pure (isSteady_send (by simp) target name hload)

/-- The payload of a mutation is a term behind the name of the mutation. -/
theorem isSteady_commit (values : List (Option String)) : commit.IsSteady values := by
  intro target
  refine (yields_text 0).bind_forall fun name => (yields_payload 1).bind fun load hload => ?_
  exact yields_pure (isSteady_send (by simp) target name hload)

/-- The value that the state should have is a term behind the path. -/
theorem isSteady_stateEquals (values : List (Option String)) : stateEquals.IsSteady values := by
  intro target
  refine (yields_text 1).bind_forall fun text => (yields_text 0).bind_forall fun path => ?_
  have hvalue := Code.isTerm_value text
  cases target with
  | playwright =>
      refine yields_around_term (s := ⟨.opened, [')']⟩) hvalue (by decide) ?_ ?_ <;>
        repeat' constructor
  | componentMount =>
      have hstate : Code.Leads .start "expect(store.state" ⟨.code, [')']⟩ :=
        Code.leads_of_passes (by repeat' constructor)
      have hpath : (Code.propertyPath path).Leads ⟨.code, [')']⟩ ⟨.code, [')']⟩ :=
        Code.isSteady_propertyPath path [')']
      have hequals : Code.Leads ⟨.code, [')']⟩ ").toEqual(" ⟨.opened, [')']⟩ :=
        Code.leads_of_passes (by repeat' constructor)
      have hend : Code.Leads ⟨.code, [')']⟩ ");" .start :=
        Code.leads_of_passes (by repeat' constructor)
      exact yields_pure
        (Code.isSteady_around_term ((hstate.append hpath).append hequals) (by decide) hvalue hend)

/-- The value that a getter should return is a term behind its name. -/
theorem isSteady_getterEquals (values : List (Option String)) : getterEquals.IsSteady values := by
  intro target
  refine (yields_text 0).bind_forall fun name => (yields_text 1).bind_forall fun text => ?_
  have hvalue := Code.isTerm_value text
  cases target <;> refine yields_around_term (s := ⟨.opened, [')']⟩) hvalue (by decide) ?_ ?_ <;>
    repeat' constructor

/-- All patterns of the section store write steady code. -/
theorem isSteady_patterns : ∀ p ∈ patterns, p.2.IsSteady :=
  List.forall_iff_forall_mem.mp
    ⟨.of_generator rfl isSteady_setState, .of_generator rfl isSteady_dispatch,
      .of_generator rfl isSteady_commit, .of_generator rfl isSteady_stateEquals,
      .of_generator rfl isSteady_getterEquals⟩

end Store

namespace Network

/-- A text without special characters can stand as it is, unless it is empty. -/
theorem eq_empty_or_isTerm {text : String} (h : ∀ c ∈ text.toList, c ∉ specials) :
    text = "" ∨ IsTerm (Code.fixed text).render.toList := by
  by_cases hempty : text = ""
  · exact .inl hempty
  · refine .inr ?_
    rw [Code.render_fixed]
    exact Lexer.isTerm_of_not_special (by simpa using hempty) h

/-- Checks that a group of a pattern captures no special characters. -/
def capturesPlain (source : String) (index : Nat) : Bool :=
  (Regex.parse source).toOption.all fun regex =>
    regex.loopsConsume && regex.groupAvoids specials (index + 1)

/-- What is checked of the source of a pattern holds of all that its group captures. -/
theorem not_special_of_capturesPlain {source sentence : String} {index : Nat} {regex : Regex}
    {values : List (Option String)} (h : capturesPlain source index = true)
    (hparse : Regex.parse source = .ok regex) (hcaptures : regex.captures? sentence = some values) :
    ∀ c ∈ (values[index]?.join.getD "").toList, c ∉ specials := by
  rw [capturesPlain, hparse] at h
  obtain ⟨hloops, havoids⟩ := Bool.and_eq_true_iff.mp h
  have hgroup := Regex.not_mem_of_captures? hloops havoids hcaptures
  cases hvalue : values[index]?.join with
  | none => exact List.forall_mem_nil _
  | some text => exact hgroup text hvalue

/-- The code of a stubbed endpoint in front of its status. -/
def stubBefore (target : ExecutionTarget) (url body : String) : Code :=
  match target with
  | .playwright => route url ++ "\n  route.fulfill(" ++ "\x7b " ++ "status" ++ ": "
  | .componentMount =>
    "vi.spyOn(globalThis, 'fetch').mockImplementation(async (input) =>\n"
      ++ "  String(input).includes(" ++ Code.quoted url ++ ")\n    ? new Response("
      ++ Code.quoted body ++ ", " ++ "\x7b " ++ "status" ++ ": "

/-- The code of a stubbed endpoint behind its status. -/
def stubBehind (target : ExecutionTarget) (body : String) : Code :=
  match target with
  | .playwright =>
    ", " ++ ("contentType" ++ ": " ++ Code.quoted "application/json" ++ ", "
      ++ ("body" ++ ": " ++ Code.quoted body)) ++ " \x7d" ++ "),\n);"
  | .componentMount =>
    ", " ++ ("headers" ++ ": " ++ Code.object [("'Content-Type'", Code.quoted "application/json")])
      ++ " \x7d" ++ ")\n    : new Response(null, " ++ Code.object [("status", "404")] ++ "),\n);"

/-- The status of a stubbed endpoint stands inside an object, between two fragments. -/
theorem yields_stub {values : List (Option String)} {P : Code → Prop} (target : ExecutionTarget)
    (h : ∀ url body, P (stubBefore target url body ++ Code.fixed (values[1]?.join.getD "")
      ++ stubBehind target body)) : Yields values P (mockResponse target) := by
  refine (yields_text 0).bind_forall fun url => (yields_text 1).bind ?_
  rintro _ rfl
  refine (yields_get 2).bind_forall fun body? => ?_
  have hcode := h url (body?.getD "")
  cases target <;> refine yields_pure ?_
  all_goals
    simpa only [stubBefore, stubBehind, Code.object, Code.join, List.map, Code.append_assoc]
      using hcode

/-- A stubbed endpoint is steady code if its status has no special characters. -/
theorem isSteady_mockResponse {values : List (Option String)}
    (hplain : ∀ c ∈ (values[1]?.join.getD "").toList, c ∉ specials) :
    mockResponse.IsSteady values := by
  intro target
  refine yields_stub target fun url body => ?_
  rcases eq_empty_or_isTerm hplain with hempty | hterm
  -- Without a status, the code is that of two texts.
  · rw [hempty]
    cases target <;> refine Code.isSteady_of_passes ?_ <;> repeat' constructor
  · cases target <;>
      refine Code.isSteady_around_term (s := ⟨.code, ['\x7d', ')', ')']⟩)
        (Code.leads_of_passes ?_) (by decide) hterm (Code.leads_of_passes ?_) <;>
      repeat' constructor

/-- The address of an endpoint that fails stands in a literal. -/
theorem isSteady_mockFailure (values : List (Option String)) : mockFailure.IsSteady values :=
  isSteady_ofFirst (fun _ => by repeat' constructor) (fun _ => by repeat' constructor)

/-- The method and the address of a request stand in literals. -/
theorem isSteady_requestMade (values : List (Option String)) : requestMade.IsSteady values := by
  intro target
  refine (yields_text 0).bind_forall fun first => (yields_text 1).bind_forall fun second => ?_
  cases target <;> refine yields_of_passes ?_ <;> repeat' constructor

/-- They do where no request should have been sent as well, with a method or without. -/
theorem isSteady_noRequest (values : List (Option String)) : noRequest.IsSteady values := by
  intro target
  refine (yields_text 1).bind_forall fun url => (yields_get 0).bind_forall fun method? => ?_
  cases method? <;> cases target <;> refine yields_of_passes ?_ <;> repeat' constructor

/-- The status of a response stands in steady code if it has no special characters. -/
theorem isSteady_responseStatus {values : List (Option String)}
    (hplain : ∀ c ∈ (values[0]?.join.getD "").toList, c ∉ specials) :
    responseStatus.IsSteady values := by
  intro target
  refine (yields_text 0).bind fun status hstatus => ?_
  rw [← hstatus] at hplain
  rcases eq_empty_or_isTerm hplain with rfl | hterm
  · cases target <;> refine yields_of_passes ?_ <;> repeat' constructor
  · cases target <;> refine yields_around_term (s := ⟨.opened, [')']⟩) hterm (by decide) ?_ ?_ <;>
      repeat' constructor

/-- All patterns of the section network write steady code. -/
theorem isSteady_patterns : ∀ p ∈ patterns, p.2.IsSteady := by
  refine List.forall_iff_forall_mem.mp
    ⟨fun regex sentence values hparse hcaptures => ⟨mockResponse, rfl, isSteady_mockResponse ?_⟩,
      .of_generator rfl isSteady_mockFailure, .of_generator rfl isSteady_requestMade,
      .of_generator rfl isSteady_noRequest, fun regex sentence values hparse hcaptures =>
        ⟨responseStatus, rfl, isSteady_responseStatus ?_⟩⟩
  · exact not_special_of_capturesPlain (by decide) hparse hcaptures
  · exact not_special_of_capturesPlain (by decide) hparse hcaptures

end Network

end ScenarioSteps
