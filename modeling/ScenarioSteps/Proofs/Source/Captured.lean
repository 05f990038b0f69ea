import ScenarioSteps.Proofs.Catalog.Standard
import ScenarioSteps.Proofs.Source.Blank
import ScenarioSteps.Proofs.Source.Generators
import ScenarioSteps.Proofs.Text.CaseFold

/-!
# `ScenarioSteps.Proofs.Source.Captured`: captured text stays in literals

What a script can put into a body is the text that the groups of a pattern capture.
`catalog_keepsTexts` says where such a text goes: if it is changed, the body changes in
the contents of its literals and nowhere else. This is a law of two runs, on captures
that agree in what the generator asks for apart from text (`AgreeOn`): which groups take
part, the word that a generator looks at, a status, whether a value is written in quotes,
and the number of keys of a path.

A status stands in code as it is captured, so it must leave no literal open. Whatever
the patterns of the catalog capture as a status does not (`read_status_of_captures`).

Each generator has a lemma that follows it through both runs at once (`YieldsAlike`).
Most of them only quote what they read, so the two fragments are the same piece by piece
but for the texts that are quoted.
-/

set_option autoImplicit false

namespace ScenarioSteps

/-- What a generator does with the text of a group. -/
inductive GroupRole where
  /-- It stands in a literal. -/
  | text
  /-- It chooses between two pieces of code. -/
  | word
  /-- It stands in code as it is. -/
  | status
  /-- It stands in code as a value. -/
  | value
  /-- It names a place in the store. -/
  | path
deriving Repr, DecidableEq

/-- The groups whose text does not just stand in a literal, by the key of the pattern
and their index from zero. -/
def groupRoles : List ((String × Nat) × GroupRole) :=
  [(("interaction/toggle-checkbox", 0), .word), (("interaction/button-state", 1), .word),
   (("store/set-state", 0), .path), (("store/set-state", 1), .value),
   (("store/dispatch", 1), .value), (("store/commit", 1), .value),
   (("store/state-equals", 0), .path), (("store/state-equals", 1), .value),
   (("store/getter-equals", 1), .value),
   (("network/mock-response", 1), .status), (("network/response-status", 0), .status)]

/-- What the pattern under a key does with the text of a group. -/
def groupRole (key : String) (index : Nat) : GroupRole :=
  (groupRoles.lookup (key, index)).getD .text

/-- What two texts of a group have to have in common. -/
def GroupRole.Agree (role : GroupRole) (a b : String) : Prop :=
  match role with
  | .text => True
  | .word => Text.sameAscii a b = true
  | .status => a = b ∧ Quotation.read .outside a.toList = .outside
  | .value => isBareValue (Text.trimmed a) = false ∧ isBareValue (Text.trimmed b) = false
  | .path => (pathKeys a).length = (pathKeys b).length

/-- The same groups take part, and the texts of each agree as their role asks. -/
def AgreeOn (key : String) (values values' : List (Option String)) : Prop :=
  ∀ index, Option.Rel (groupRole key index).Agree values[index]?.join values'[index]?.join

/-- A group that takes no part reads as the empty text on both sides. -/
theorem GroupRole.agree_empty (role : GroupRole) : role.Agree "" "" := by
  cases role with
  | text => trivial
  | word => exact (by decide : Text.sameAscii "" "" = true)
  | status => exact ⟨rfl, rfl⟩
  | value => exact ⟨by decide, by decide⟩
  | path => exact rfl

/-- Words that agree are the same as a third one, or both are not. -/
theorem Text.sameAscii_congr {a b word : String} (h : Text.sameAscii a b = true) :
    Text.sameAscii a word = Text.sameAscii b word := by
  rw [Text.sameAscii, beq_iff_eq] at h
  rw [Text.sameAscii, Text.sameAscii, h]

/-- A generator that keeps captured texts in literals: on captures that agree, its code
differs in quoted texts only. -/
def CodeGenerator.KeepsTexts (key : String) (generate : CodeGenerator) : Prop :=
  ∀ values values', AgreeOn key values values' →
    ∀ target, YieldsAlike values values' Code.Alike (generate target) (generate target)

/-- A pattern with such a generator. -/
def StepPattern.KeepsTexts (key : String) (p : StepPattern) : Prop :=
  ∃ generate : CodeGenerator, p.generator = generate.toGenerator ∧ generate.KeepsTexts key

section

variable {key : String} {values values' : List (Option String)}

/-- Both runs find the group, or neither does. -/
theorem AgreeOn.get (h : AgreeOn key values values') (index : Nat) :
    YieldsAlike values values' (Option.Rel (groupRole key index).Agree) (Captures.get index)
      (Captures.get index) := by
  refine (yields_get index).alike (yields_get index) ?_
  rintro _ _ rfl rfl
  exact h index

/-- Both runs read texts that agree. -/
theorem AgreeOn.text (h : AgreeOn key values values') (index : Nat) (role : GroupRole)
    (hrole : groupRole key index = role) :
    YieldsAlike values values' role.Agree (Captures.text index) (Captures.text index) := by
  refine (h.get index).bind fun a? b? hagree => yieldsAlike_pure ?_
  rw [hrole] at hagree
  cases hagree with
  | none => exact role.agree_empty
  | some hagree => exact hagree

/-- Both runs see that the group takes part, or that it does not. -/
theorem AgreeOn.present (h : AgreeOn key values values') (index : Nat) :
    YieldsAlike values values' Eq (Captures.present index) (Captures.present index) := by
  refine (h.get index).bind fun a? b? hagree => yieldsAlike_pure ?_
  cases hagree <;> rfl

/-- For most groups it does not matter what the runs read. -/
theorem yieldsAlike_text (index : Nat) :
    YieldsAlike values values' (fun _ _ => True) (Captures.text index) (Captures.text index) :=
  (yields_text index).alike (yields_text index) fun _ _ _ _ => trivial

/-- Fixed code, once for each target. -/
theorem keepsTexts_constant {browser mounted : String}
    (hbrowser : CodePiece.Alike (.fixed browser) (.fixed browser))
    (hmounted : CodePiece.Alike (.fixed mounted) (.fixed mounted)) :
    (CodeGenerator.constant browser mounted).KeepsTexts key := by
  intro values values' _ target
  cases target with
  | playwright => exact yieldsAlike_pure ⟨.cons hbrowser .nil⟩
  | componentMount => exact yieldsAlike_pure ⟨.cons hmounted .nil⟩

/-- Code from the first group alone. -/
theorem keepsTexts_ofFirst {browser mounted : String → Code}
    (hbrowser : ∀ a b, (browser a).Alike (browser b))
    (hmounted : ∀ a b, (mounted a).Alike (mounted b)) :
    (CodeGenerator.ofFirst browser mounted).KeepsTexts key := by
  intro values values' _ target
  refine (yieldsAlike_text 0).bind fun a b _ => ?_
  cases target with
  | playwright => exact yieldsAlike_pure (hbrowser a b)
  | componentMount => exact yieldsAlike_pure (hmounted a b)

end

namespace Interaction

/-- A click on a button keeps the name of the button in a literal. -/
theorem keepsTexts_clickButton (key : String) : clickButton.KeepsTexts key := by
  intro values values' _ target
  refine (yieldsAlike_text 0).bind fun text text' _ => ?_
  cases target <;> refine yieldsAlike_pure ?_ <;> repeat' constructor

/-- A click on a link keeps the name of the link in a literal. -/
theorem keepsTexts_clickLink (key : String) : clickLink.KeepsTexts key := by
  intro values values' _ target
  refine (yieldsAlike_text 0).bind fun text text' _ => ?_
  cases target <;> refine yieldsAlike_pure ?_ <;> repeat' constructor

/-- A click on any element keeps its selector in a literal. -/
theorem keepsTexts_clickElement (key : String) : clickElement.KeepsTexts key := by
  intro values values' _ target
  refine (yieldsAlike_text 0).bind fun text text' _ => ?_
  cases target <;> refine yieldsAlike_pure ?_ <;> repeat' constructor

/-- A field that is filled in keeps its label and its value in literals. -/
theorem keepsTexts_fillField (key : String) : fillField.KeepsTexts key := by
  intro values values' _ target
  refine (yieldsAlike_text 1).bind fun first first' _ => ?_
  refine (yieldsAlike_text 0).bind fun second second' _ => ?_
  cases target <;> refine yieldsAlike_pure ?_ <;> repeat' constructor

/-- It keeps them for the sentence that names the field first as well. -/
theorem keepsTexts_fillFieldWith (key : String) : fillFieldWith.KeepsTexts key := by
  intro values values' _ target
  refine (yieldsAlike_text 0).bind fun first first' _ => ?_
  refine (yieldsAlike_text 1).bind fun second second' _ => ?_
  cases target <;> refine yieldsAlike_pure ?_ <;> repeat' constructor

/-- A list keeps its label and the option that is chosen in literals. -/
theorem keepsTexts_selectOption (key : String) : selectOption.KeepsTexts key := by
  intro values values' _ target
  refine (yieldsAlike_text 1).bind fun first first' _ => ?_
  refine (yieldsAlike_text 0).bind fun second second' _ => ?_
  cases target <;> refine yieldsAlike_pure ?_ <;> repeat' constructor

/-- A box keeps its label in a literal. Verbs that agree write the same code. -/
theorem keepsTexts_toggleCheckbox : toggleCheckbox.KeepsTexts "interaction/toggle-checkbox" := by
  intro values values' h target
  refine (h.text 0 .word (by decide)).bind fun verb verb' hverb => ?_
  refine (yieldsAlike_text 1).bind fun label label' _ => ?_
  dsimp only
  -- The two verbs choose the same branch.
  rw [Text.sameAscii_congr hverb]
  cases Text.sameAscii verb' "uncheck" <;> cases target <;> refine yieldsAlike_pure ?_ <;>
    repeat' constructor

/-- A key that is pressed keeps its name in a literal. -/
theorem keepsTexts_pressKey (key : String) : pressKey.KeepsTexts key :=
  keepsTexts_ofFirst (fun _ _ => by repeat' constructor) (fun _ _ => by repeat' constructor)

/-- The mouse over an element keeps the text of the element in a literal. -/
theorem keepsTexts_hover (key : String) : hover.KeepsTexts key := by
  intro values values' _ target
  refine (yieldsAlike_text 0).bind fun text text' _ => ?_
  cases target <;> refine yieldsAlike_pure ?_ <;> repeat' constructor

/-- A text that is looked for is kept in a literal. Both sentences are negated, or neither is.
-/
theorem keepsTexts_seeText (key : String) : seeText.KeepsTexts key := by
  intro values values' h target
  refine (h.present 0).bind ?_
  rintro negated _ rfl
  refine (yieldsAlike_text 1).bind fun text text' _ => ?_
  cases negated <;> cases target <;> refine yieldsAlike_pure ?_ <;> repeat' constructor

/-- The selector of an element is kept in a literal. Both sentences are negated, or neither is.
-/
theorem keepsTexts_elementVisible (key : String) : elementVisible.KeepsTexts key := by
  intro values values' h target
  refine (h.present 1).bind ?_
  rintro negated _ rfl
  refine (yieldsAlike_text 0).bind fun text text' _ => ?_
  cases negated <;> cases target <;> refine yieldsAlike_pure ?_ <;> repeat' constructor

/-- A field keeps its label and the value that it should have in literals. -/
theorem keepsTexts_fieldValue (key : String) : fieldValue.KeepsTexts key := by
  intro values values' _ target
  refine (yieldsAlike_text 0).bind fun first first' _ => ?_
  refine (yieldsAlike_text 1).bind fun second second' _ => ?_
  cases target <;> refine yieldsAlike_pure ?_ <;> repeat' constructor

/-- A button keeps its name in a literal. Words that agree write the same code. -/
theorem keepsTexts_buttonState : buttonState.KeepsTexts "interaction/button-state" := by
  intro values values' h target
  refine (yieldsAlike_text 0).bind fun name name' _ => ?_
  refine (h.text 1 .word (by decide)).bind fun word word' hword => ?_
  dsimp only
  rw [Text.sameAscii_congr hword]
  cases Text.sameAscii word' "disabled" <;> cases target <;> refine yieldsAlike_pure ?_ <;>
    repeat' constructor

/-- All patterns of the section interaction keep captured texts in literals. -/
theorem keepsTexts_patterns : ∀ p ∈ patterns, p.2.KeepsTexts p.1 :=
  List.forall_iff_forall_mem.mp
    ⟨⟨_, rfl, keepsTexts_clickButton _⟩, ⟨_, rfl, keepsTexts_clickLink _⟩,
      ⟨_, rfl, keepsTexts_clickElement _⟩, ⟨_, rfl, keepsTexts_fillField _⟩,
      ⟨_, rfl, keepsTexts_fillFieldWith _⟩, ⟨_, rfl, keepsTexts_selectOption _⟩,
      ⟨_, rfl, keepsTexts_toggleCheckbox⟩, ⟨_, rfl, keepsTexts_pressKey _⟩,
      ⟨_, rfl, keepsTexts_hover _⟩, ⟨_, rfl, keepsTexts_seeText _⟩,
      ⟨_, rfl, keepsTexts_elementVisible _⟩, ⟨_, rfl, keepsTexts_fieldValue _⟩,
      ⟨_, rfl, keepsTexts_buttonState⟩⟩

end Interaction

namespace Navigation

/-- A page that is opened keeps its path in a literal. -/
theorem keepsTexts_visit (key : String) : visit.KeepsTexts key :=
  keepsTexts_ofFirst (fun _ _ => by repeat' constructor) (fun _ _ => by repeat' constructor)

/-- Fixed code keeps nothing: the step back in history has no captures. -/
theorem keepsTexts_goBack (key : String) : goBack.KeepsTexts key :=
  keepsTexts_constant (by repeat' constructor) (by repeat' constructor)

/-- To load the page again takes no captures either. -/
theorem keepsTexts_reload (key : String) : reload.KeepsTexts key :=
  keepsTexts_constant (by repeat' constructor) (by repeat' constructor)

/-- The page that should be shown keeps its path in a literal. -/
theorem keepsTexts_onPage (key : String) : onPage.KeepsTexts key :=
  keepsTexts_ofFirst (fun _ _ => by repeat' constructor) (fun _ _ => by repeat' constructor)

/-- The page that a redirect should lead to keeps its path in a literal. -/
theorem keepsTexts_redirected (key : String) : redirected.KeepsTexts key :=
  keepsTexts_ofFirst (fun _ _ => by repeat' constructor) (fun _ _ => by repeat' constructor)

/-- The part of an address is kept in a literal. -/
theorem keepsTexts_urlContains (key : String) : urlContains.KeepsTexts key :=
  keepsTexts_ofFirst (fun _ _ => by repeat' constructor) (fun _ _ => by repeat' constructor)

/-- The title of the document is kept in a literal. -/
theorem keepsTexts_pageTitle (key : String) : pageTitle.KeepsTexts key :=
  keepsTexts_ofFirst (fun _ _ => by repeat' constructor) (fun _ _ => by repeat' constructor)

/-- All patterns of the section navigation keep captured texts in literals. -/
theorem keepsTexts_patterns : ∀ p ∈ patterns, p.2.KeepsTexts p.1 :=
  List.forall_iff_forall_mem.mp
    ⟨⟨_, rfl, keepsTexts_visit _⟩, ⟨_, rfl, keepsTexts_visit _⟩, ⟨_, rfl, keepsTexts_goBack _⟩,
      ⟨_, rfl, keepsTexts_reload _⟩, ⟨_, rfl, keepsTexts_onPage _⟩,
      ⟨_, rfl, keepsTexts_redirected _⟩, ⟨_, rfl, keepsTexts_urlContains _⟩,
      ⟨_, rfl, keepsTexts_pageTitle _⟩⟩

end Navigation

namespace Auth

/-- A user keeps address and password in literals. On either side, the password may be the one
that stands in for none. -/
theorem keepsTexts_userExists (key : String) : userExists.KeepsTexts key := by
  intro values values' h target
  refine (yieldsAlike_text 0).bind fun email email' _ => ?_
  -- A password that is not given is a fixed one, which is quoted as any other.
  refine (h.get 1).bind fun password? password?' _ => ?_
  cases target <;> refine yieldsAlike_pure ?_ <;> repeat' constructor

/-- A session keeps its role and the address made from it in literals. -/
theorem keepsTexts_loggedInAs (key : String) : loggedInAs.KeepsTexts key :=
  keepsTexts_ofFirst (fun _ _ => by repeat' constructor) (fun _ _ => by repeat' constructor)

/-- To clear a session takes no captures. -/
theorem keepsTexts_notLoggedIn (key : String) : notLoggedIn.KeepsTexts key :=
  keepsTexts_constant (by repeat' constructor) (by repeat' constructor)

/-- The login form keeps address and password in literals. -/
theorem keepsTexts_logInWith (key : String) : logInWith.KeepsTexts key := by
  intro values values' _ target
  refine (yieldsAlike_text 0).bind fun first first' _ => ?_
  refine (yieldsAlike_text 1).bind fun second second' _ => ?_
  cases target <;> refine yieldsAlike_pure ?_ <;> repeat' constructor

/-- To end a session takes no captures. -/
theorem keepsTexts_logOut (key : String) : logOut.KeepsTexts key := by
  intro values values' _ target
  cases target <;> refine yieldsAlike_pure ?_ <;> repeat' constructor

/-- To look for a session takes no texts. Both sentences are negated, or neither is. -/
theorem keepsTexts_shouldBeLoggedIn (key : String) : shouldBeLoggedIn.KeepsTexts key := by
  intro values values' h target
  refine (h.present 0).bind ?_
  rintro negated _ rfl
  cases negated <;> cases target <;> refine yieldsAlike_pure ?_ <;> repeat' constructor

/-- To recognise a page that is refused takes no captures. -/
theorem keepsTexts_accessDenied (key : String) : accessDenied.KeepsTexts key :=
  keepsTexts_constant (by repeat' constructor) (by repeat' constructor)

/-- All patterns of the section auth keep captured texts in literals. -/
theorem keepsTexts_patterns : ∀ p ∈ patterns, p.2.KeepsTexts p.1 :=
  List.forall_iff_forall_mem.mp
    ⟨⟨_, rfl, keepsTexts_userExists _⟩, ⟨_, rfl, keepsTexts_loggedInAs _⟩,
      ⟨_, rfl, keepsTexts_notLoggedIn _⟩, ⟨_, rfl, keepsTexts_logInWith _⟩,
      ⟨_, rfl, keepsTexts_logOut _⟩, ⟨_, rfl, keepsTexts_shouldBeLoggedIn _⟩,
      ⟨_, rfl, keepsTexts_accessDenied _⟩⟩

end Auth

namespace Store

/-- Values that are quoted. -/
theorem alike_value {a b : String} (h : GroupRole.value.Agree a b) :
    (Code.value a).Alike (Code.value b) := by
  rw [Code.value, Code.value, h.1, h.2]
  repeat' constructor

/-- Paths with as many keys. -/
theorem alike_propertyPath {a b : String} (h : GroupRole.path.Agree a b) :
    (Code.propertyPath a).Alike (Code.propertyPath b) :=
  Code.alike_join (fun _ _ => by repeat' constructor) h

/-- Payloads are both values, or both `undefined`. -/
theorem yieldsAlike_payload {key : String} {values values' : List (Option String)}
    (h : AgreeOn key values values') (index : Nat) (hrole : groupRole key index = .value) :
    YieldsAlike values values' Code.Alike (payload index) (payload index) := by
  refine (h.get index).bind fun a? b? hagree => ?_
  rw [hrole] at hagree
  cases hagree with
  | none =>
      refine yieldsAlike_pure ?_
      repeat' constructor
  | some hagree => exact yieldsAlike_pure (alike_value hagree)

/-- Fragments that differ in a text, around two that are alike. -/
theorem alike_around {before before' inner inner' behind behind' : Code}
    (hbefore : before.Alike before') (hinner : inner.Alike inner')
    (hbehind : behind.Alike behind') :
    (before ++ inner ++ behind).Alike (before' ++ inner' ++ behind') :=
  (hbefore.append hinner).append hbehind

/-- A place and a value that are alike, with code around each. -/
theorem alike_placed
    {before before' place place' between between' value value' behind behind' : Code}
    (hbefore : before.Alike before') (hplace : place.Alike place')
    (hbetween : between.Alike between') (hvalue : value.Alike value')
    (hbehind : behind.Alike behind') :
    (before ++ place ++ between ++ value ++ behind).Alike
      (before' ++ place' ++ between' ++ value' ++ behind') :=
  alike_around (alike_around hbefore hplace hbetween) hvalue hbehind

/-- The store keeps a value and a path in literals. The path takes one for each of its keys in
a mounted component. -/
theorem keepsTexts_setState : setState.KeepsTexts "store/set-state" := by
  intro values values' h target
  refine (h.text 1 .value (by decide)).bind fun text text' htext => ?_
  refine (h.text 0 .path (by decide)).bind fun path path' hpath => ?_
  have hvalue := alike_value htext
  cases target with
  | playwright =>
      refine yieldsAlike_pure (alike_around ?_ hvalue ?_) <;> repeat' constructor
  | componentMount =>
      refine yieldsAlike_pure (alike_placed ?_ (alike_propertyPath hpath) ?_ hvalue ?_) <;>
        repeat' constructor

/-- A message to the store keeps its name in a literal, and its payload as it is. The method that
sends it leaves no literal open. -/
theorem alike_send {method waiting : String}
    (hmethod : CodePiece.Alike (.fixed method) (.fixed method))
    (hwaiting : CodePiece.Alike (.fixed waiting) (.fixed waiting)) (target : ExecutionTarget)
    (name name' : String) {load load' : Code} (hload : load.Alike load') :
    (send target method waiting name load).Alike (send target method waiting name' load') := by
  cases target <;> refine alike_around ?_ hload ?_ <;>
    repeat' first | exact hmethod | exact hwaiting | constructor

/-- An action keeps its name and its payload in literals. -/
theorem keepsTexts_dispatch : dispatch.KeepsTexts "store/dispatch" := by
  intro values values' h target
  refine (yieldsAlike_text 0).bind fun name name' _ => ?_
  refine (yieldsAlike_payload h 1 (by decide)).bind fun load load' hload => yieldsAlike_pure ?_
  exact alike_send (by repeat' constructor) (by repeat' constructor) target name name' hload

/-- A mutation keeps its name and its payload in literals. -/
theorem keepsTexts_commit : commit.KeepsTexts "store/commit" := by
  intro values values' h target
  refine (yieldsAlike_text 0).bind fun name name' _ => ?_
  refine (yieldsAlike_payload h 1 (by decide)).bind fun load load' hload => yieldsAlike_pure ?_
  exact alike_send (by repeat' constructor) (by repeat' constructor) target name name' hload

/-- A value that the store should have at a path is kept in literals as one that is written. -/
theorem keepsTexts_stateEquals : stateEquals.KeepsTexts "store/state-equals" := by
  intro values values' h target
  refine (h.text 1 .value (by decide)).bind fun text text' htext => ?_
  refine (h.text 0 .path (by decide)).bind fun path path' hpath => ?_
  have hvalue := alike_value htext
  cases target with
  | playwright =>
      refine yieldsAlike_pure (alike_around ?_ hvalue ?_) <;> repeat' constructor
  | componentMount =>
      refine yieldsAlike_pure (alike_placed ?_ (alike_propertyPath hpath) ?_ hvalue ?_) <;>
        repeat' constructor

/-- A getter keeps its name and the value that it should return in literals. -/
theorem keepsTexts_getterEquals : getterEquals.KeepsTexts "store/getter-equals" := by
  intro values values' h target
  refine (yieldsAlike_text 0).bind fun name name' _ => ?_
  refine (h.text 1 .value (by decide)).bind fun text text' htext => ?_
  have hvalue := alike_value htext
  cases target <;> refine yieldsAlike_pure (alike_around ?_ hvalue ?_) <;> repeat' constructor

/-- All patterns of the section store keep captured texts in literals. -/
theorem keepsTexts_patterns : ∀ p ∈ patterns, p.2.KeepsTexts p.1 :=
  List.forall_iff_forall_mem.mp
    ⟨⟨_, rfl, keepsTexts_setState⟩, ⟨_, rfl, keepsTexts_dispatch⟩, ⟨_, rfl, keepsTexts_commit⟩,
      ⟨_, rfl, keepsTexts_stateEquals⟩, ⟨_, rfl, keepsTexts_getterEquals⟩⟩

end Store

namespace Network

/-- A stubbed endpoint keeps its address and its body in literals. The statuses are the same,
and leave no literal open. -/
theorem keepsTexts_mockResponse : mockResponse.KeepsTexts "network/mock-response" := by
  intro values values' h target
  refine (yieldsAlike_text 0).bind fun url url' _ => ?_
  refine (h.text 1 .status (by decide)).bind ?_
  rintro status _ ⟨rfl, hstatus⟩
  refine (h.get 2).bind fun body? body?' _ => ?_
  have hpiece := CodePiece.alike_fixed hstatus
  cases target <;> refine yieldsAlike_pure ⟨?_⟩ <;> repeat' first | exact hpiece | constructor

/-- An endpoint that fails keeps its address in a literal. -/
theorem keepsTexts_mockFailure (key : String) : mockFailure.KeepsTexts key :=
  keepsTexts_ofFirst (fun _ _ => by repeat' constructor) (fun _ _ => by repeat' constructor)

/-- A request keeps its method and its address in literals. -/
theorem keepsTexts_requestMade (key : String) : requestMade.KeepsTexts key := by
  intro values values' _ target
  refine (yieldsAlike_text 0).bind fun first first' _ => ?_
  refine (yieldsAlike_text 1).bind fun second second' _ => ?_
  cases target <;> refine yieldsAlike_pure ?_ <;> repeat' constructor

/-- A request that should not have been sent keeps them as well. Both sentences name a method,
or neither does. -/
theorem keepsTexts_noRequest (key : String) : noRequest.KeepsTexts key := by
  intro values values' h target
  refine (yieldsAlike_text 1).bind fun url url' _ => ?_
  refine (h.get 0).bind fun method? method?' hmethod => ?_
  -- It matters whether a method is named, but not which one.
  cases hmethod <;> cases target <;> refine yieldsAlike_pure ?_ <;> repeat' constructor

/-- A response keeps nothing in literals of its own: the statuses are the same. -/
theorem keepsTexts_responseStatus : responseStatus.KeepsTexts "network/response-status" := by
  intro values values' h target
  refine (h.text 0 .status (by decide)).bind ?_
  rintro status _ ⟨rfl, hstatus⟩
  have hpiece := CodePiece.alike_fixed hstatus
  cases target <;> refine yieldsAlike_pure ⟨?_⟩ <;> repeat' first | exact hpiece | constructor

/-- All patterns of the section network keep captured texts in literals. -/
theorem keepsTexts_patterns : ∀ p ∈ patterns, p.2.KeepsTexts p.1 :=
  List.forall_iff_forall_mem.mp
    ⟨⟨_, rfl, keepsTexts_mockResponse⟩, ⟨_, rfl, keepsTexts_mockFailure _⟩,
      ⟨_, rfl, keepsTexts_requestMade _⟩, ⟨_, rfl, keepsTexts_noRequest _⟩,
      ⟨_, rfl, keepsTexts_responseStatus⟩⟩

end Network

/-! ### The catalog -/

/-- All patterns of the catalog keep captured texts in literals. -/
theorem keepsTexts_catalog : ∀ p ∈ catalog, p.2.KeepsTexts p.1 :=
  forall_mem_catalog Interaction.keepsTexts_patterns Navigation.keepsTexts_patterns
    Auth.keepsTexts_patterns Store.keepsTexts_patterns Network.keepsTexts_patterns

/-- A role that is not the usual one is listed. -/
theorem mem_groupRoles {key : String} {index : Nat} {role : GroupRole}
    (hrole : groupRole key index = role) (hne : role ≠ .text) :
    ((key, index), role) ∈ groupRoles := by
  rw [groupRole] at hrole
  cases hlookup : groupRoles.lookup (key, index) with
  | none =>
      rw [hlookup] at hrole
      exact absurd hrole.symm hne
  | some found =>
      rw [hlookup] at hrole
      obtain rfl : found = role := hrole
      obtain ⟨before, behind, hroles, -⟩ := List.lookup_eq_some_iff.mp hlookup
      rw [hroles]
      exact List.mem_append_right _ List.mem_cons_self

/-- What a group for a status can capture is read off the source of its pattern: nothing in it
is special in code. -/
theorem capturesPlain_of_status :
    ∀ group ∈ groupRoles, group.2 = .status →
      ∀ p ∈ catalog, p.1 = group.1.1 → Network.capturesPlain p.2.source group.1.2 = true := by
  decide +kernel

/-- The groups for a status capture no quotes. -/
theorem read_status_of_captures {key : String} {p : StepPattern} (hp : (key, p) ∈ catalog)
    {regex : Regex} {sentence : String} {values : List (Option String)}
    (hparse : Regex.parse p.source = .ok regex) (hcaptures : regex.captures? sentence = some values)
    {index : Nat} {text : String} (hrole : groupRole key index = .status)
    (htext : values[index]?.join = some text) : Quotation.read .outside text.toList = .outside := by
  have hgroup : ((key, index), GroupRole.status) ∈ groupRoles := mem_groupRoles hrole nofun
  have hplain := Network.not_special_of_capturesPlain
    (capturesPlain_of_status _ hgroup rfl _ hp rfl) hparse hcaptures
  rw [htext] at hplain
  refine (blankFrom_of_not_quote fun c hc => ?_).1
  rintro rfl
  exact hplain _ hc (by decide)

/-- On captures that agree, the generator of a pattern of the catalog writes bodies that
are the same but for the contents of their literals. To agree is no condition on a status
that the pattern has captured. -/
theorem catalog_keepsTexts {key : String} {p : StepPattern} (hp : (key, p) ∈ catalog) :
    (∀ (options : Options) (values values' : List (Option String)), AgreeOn key values values' →
      ∃ body body', (p.generator.run options values).1 = .body body
        ∧ (p.generator.run options values').1 = .body body'
        ∧ blankLiterals body = blankLiterals body')
      ∧ ∀ (regex : Regex) (sentence : String) (values : List (Option String)),
        Regex.parse p.source = .ok regex → regex.captures? sentence = some values →
          ∀ index text, groupRole key index = .status → values[index]?.join = some text →
            Quotation.read .outside text.toList = .outside := by
  refine ⟨fun options values values' h => ?_,
    fun regex sentence values hparse hcaptures index text =>
      read_status_of_captures hp hparse hcaptures⟩
  obtain ⟨generate, hgenerator, hkeeps⟩ := keepsTexts_catalog (key, p) hp
  have halike := hkeeps values values' h options.execution { values } { values := values' } rfl rfl
  rw [hgenerator]
  exact ⟨_, _, generate.run_toGenerator options values, generate.run_toGenerator options values',
    halike.1.blankLiterals_eq⟩

/-- A stubbed endpoint whose address and body try to leave their literals. -/
theorem mock_response_keeps_quotes :
    ∃ p : StepPattern, ("network/mock-response", p) ∈ catalog
      ∧ AgreeOn "network/mock-response" [some "/users", some "200", some "[]"]
        [some "'); alert('", some "200", some "it's \\"]
      ∧ ∃ body body',
        (p.generator.run {} [some "/users", some "200", some "[]"]).1 = .body body
          ∧ (p.generator.run {} [some "'); alert('", some "200", some "it's \\"]).1 = .body body'
          ∧ blankLiterals body = blankLiterals body' := by
  have hkey : "network/mock-response" ∈ catalog.map Prod.fst := by decide
  obtain ⟨⟨key, p⟩, hp, rfl⟩ := List.mem_map.mp hkey
  have hagree : AgreeOn "network/mock-response" [some "/users", some "200", some "[]"]
      [some "'); alert('", some "200", some "it's \\"] := by
    have htext : ∀ index ∈ [0, 2], groupRole "network/mock-response" index = .text := by
      decide
    have hstatus : groupRole "network/mock-response" 1 = .status := by decide
    intro index
    match index with
    | 0 => exact .some (by rw [htext 0 (by decide)]; trivial)
    | 1 => exact .some (by rw [hstatus]; exact ⟨rfl, by decide⟩)
    | 2 => exact .some (by rw [htext 2 (by decide)]; trivial)
    | _ + 3 => exact .none
  exact ⟨p, hp, hagree, (catalog_keepsTexts hp).1 {} _ _ hagree⟩

/-- A status that is a quotation mark opens a literal in the code itself. Behind it literals
and code change places, so the bodies for two texts of a response differ in their code. They
differ as well for two verbs that are the same up to case folding, if one has a foreign letter. -/
theorem code_depends_on_status_and_verb :
    (∃ p : StepPattern, ("network/mock-response", p) ∈ catalog ∧ p.arity = 3
      ∧ groupRole "network/mock-response" 0 = .text
      ∧ groupRole "network/mock-response" 1 = .status
      ∧ groupRole "network/mock-response" 2 = .text
      ∧ ∃ body body', (p.generator.run {} [some "/u", some "'", some "x"]).1 = .body body
        ∧ (p.generator.run {} [some "/u", some "'", some "y"]).1 = .body body'
        ∧ blankLiterals body ≠ blankLiterals body')
      ∧ ∃ p : StepPattern, ("interaction/toggle-checkbox", p) ∈ catalog ∧ p.arity = 2
        ∧ Text.sameFolded "unchec\u212A" "uncheck" = true
        ∧ ∃ body body', (p.generator.run {} [some "uncheck", some "x"]).1 = .body body
          ∧ (p.generator.run {} [some "unchec\u212A", some "x"]).1 = .body body'
          ∧ blankLiterals body ≠ blankLiterals body' := by
  constructor
  · obtain ⟨p, hfound, harity, hgenerator⟩ : ∃ p : StepPattern,
        catalog.find? (·.1 == "network/mock-response") = some ("network/mock-response", p)
          ∧ p.arity = 3 ∧ p.generator = Network.mockResponse.toGenerator := ⟨_, rfl, rfl, rfl⟩
    refine ⟨p, List.mem_of_find?_eq_some hfound, harity, by decide, by decide, by decide, ?_⟩
    rw [hgenerator]
    exact ⟨_, _, Network.mockResponse.run_toGenerator {} _,
      Network.mockResponse.run_toGenerator {} _, by decide +kernel⟩
  · obtain ⟨p, hfound, harity, hgenerator⟩ : ∃ p : StepPattern,
        catalog.find? (·.1 == "interaction/toggle-checkbox")
          = some ("interaction/toggle-checkbox", p)
          ∧ p.arity = 2 ∧ p.generator = Interaction.toggleCheckbox.toGenerator :=
      ⟨_, rfl, rfl, rfl⟩
    refine ⟨p, List.mem_of_find?_eq_some hfound, harity, by decide, ?_⟩
    rw [hgenerator]
    exact ⟨_, _, Interaction.toggleCheckbox.run_toGenerator {} _,
      Interaction.toggleCheckbox.run_toGenerator {} _, by decide +kernel⟩

end ScenarioSteps
