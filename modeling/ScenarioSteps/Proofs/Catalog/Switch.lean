import ScenarioSteps.Proofs.Catalog.Words

/-!
# `ScenarioSteps.Proofs.Catalog.Switch`: words that choose between two bodies

Two patterns of the catalog capture one of two words, and the body does one thing or its
opposite: a checkbox is checked or unchecked, a button is expected to be enabled or
disabled. A `Switch` says what the two bodies are.

The pattern reads the words in any case, up to simple case folding, but the generator
compares what it captured up to the case of ASCII letters. So the body follows the word,
but for a negative word that is written with a foreign letter, which gets the positive body
(`Registry.negated_iff`).
-/

set_option autoImplicit false

namespace ScenarioSteps

/-- A choice between two bodies. -/
structure Switch where
  key : String
  /-- The group of the word, from zero. -/
  wordGroup : Nat
  /-- The group of the name of what is switched, from zero. -/
  nameGroup : Nat
  positive : String
  negative : String
  /-- The code in front of the name. -/
  before : ExecutionTarget → String
  /-- The code behind the name, of which `true` is the negative one. -/
  behind : ExecutionTarget → Bool → String

namespace Switch

/-- The body for a name. -/
def body (switch : Switch) (target : ExecutionTarget) (name : String) (negated : Bool) : String :=
  switch.before target ++ Literal.quoted name ++ switch.behind target negated

/-- A checkbox is checked or unchecked. In a mounted component it is clicked unless it is
in that state already. -/
def checkbox : Switch where
  key := "interaction/toggle-checkbox"
  wordGroup := 0
  nameGroup := 1
  positive := "check"
  negative := "uncheck"
  before
    | .playwright => "await page.getByLabel("
    | .componentMount => "const checkbox = screen.getByLabelText("
  behind
    | .playwright, false => ").check();"
    | .playwright, true => ").uncheck();"
    | .componentMount, false =>
      ");\nif (checkbox.checked !== true) \x7b\n  await fireEvent.click(checkbox);\n\x7d"
    | .componentMount, true =>
      ");\nif (checkbox.checked !== false) \x7b\n  await fireEvent.click(checkbox);\n\x7d"

/-- A button is expected to be enabled or disabled. -/
def button : Switch where
  key := "interaction/button-state"
  wordGroup := 1
  nameGroup := 0
  positive := "enabled"
  negative := "disabled"
  before
    | .playwright => "await expect(page.getByRole('button', \x7b name: "
    | .componentMount => "expect(screen.getByRole('button', \x7b name: "
  behind
    | .playwright, false => " \x7d)).toBeEnabled();"
    | .playwright, true => " \x7d)).toBeDisabled();"
    | .componentMount, false => " \x7d).disabled).toBe(false);"
    | .componentMount, true => " \x7d).disabled).toBe(true);"

/-- What is known of a switch from the expression and the generator under its key. -/
structure Fits (switch : Switch) (regex : Regex) (generate : CodeGenerator) : Prop where
  listed : InCatalog switch.key regex generate
  passes : ∀ group ∈ [switch.wordGroup, switch.nameGroup],
    group < regex.groupCount ∧ regex.alwaysPasses (group + 1) = true
  words : regex.groupWords? (switch.wordGroup + 1)
    = some ([switch.positive, switch.negative].map caseless)
  letters : ∀ word ∈ [switch.positive, switch.negative], word.toList ⊆ Text.asciiLetters
  lengths : switch.positive.toList.length ≠ switch.negative.toList.length
  renders : ∀ target values word name,
    values[switch.wordGroup]? = some (some word) → values[switch.nameGroup]? = some (some name) →
      Yields values (fun code => code.render
        = switch.body target name (Text.sameAscii word switch.negative)) (generate target)
  differ : ∀ target, switch.behind target true ≠ switch.behind target false

section

variable {values : List (Option String)} {word name : String}

/-- The generator for a checkbox writes the body of the switch. -/
theorem yields_checkbox (hword : values[0]? = some (some word))
    (hname : values[1]? = some (some name)) (target : ExecutionTarget) :
    Yields values (fun code => code.render
      = checkbox.body target name (Text.sameAscii word "uncheck"))
      (Interaction.toggleCheckbox target) := by
  refine (yields_captured hword).bind ?_
  rintro word rfl
  refine (yields_captured hname).bind ?_
  rintro name rfl
  have htrue : toString true = "true" := rfl
  have hfalse : toString false = "false" := rfl
  dsimp only
  cases Text.sameAscii word "uncheck" <;> cases target <;> refine yields_pure ?_
  all_goals
    simp [Code.render, CodePiece.render, String.join, String.append_assoc, body, checkbox,
      Locator.byLabel, htrue, hfalse]

/-- The switch of a checkbox fits the pattern under its key. -/
theorem checkbox_fits : ∃ regex, checkbox.Fits regex Interaction.toggleCheckbox := by
  refine ⟨_, .of_find? rfl rfl, ?_, ?_, ?_, ?_,
    fun target _ _ _ hword hname => yields_checkbox hword hname target, fun target => ?_⟩
  case refine_5 => cases target <;> decide
  all_goals decide

/-- The generator for the state of a button does as well. -/
theorem yields_button (hword : values[1]? = some (some word))
    (hname : values[0]? = some (some name)) (target : ExecutionTarget) :
    Yields values (fun code => code.render
      = button.body target name (Text.sameAscii word "disabled"))
      (Interaction.buttonState target) := by
  refine (yields_captured hname).bind ?_
  rintro name rfl
  refine (yields_captured hword).bind ?_
  rintro word rfl
  have hrole : Literal.quoted "button" = "'button'" := by decide
  have htrue : toString true = "true" := rfl
  have hfalse : toString false = "false" := rfl
  dsimp only
  cases Text.sameAscii word "disabled" <;> cases target <;> refine yields_pure ?_
  all_goals
    simp [Code.render, CodePiece.render, String.join, String.append_assoc, body, button,
      Locator.byRole, Code.object, Code.join, hrole, htrue, hfalse]

/-- The switch of a button fits the pattern under its key. -/
theorem button_fits : ∃ regex, button.Fits regex Interaction.buttonState := by
  refine ⟨_, .of_find? rfl rfl, ?_, ?_, ?_, ?_,
    fun target _ _ _ hword hname => yields_button hword hname target, fun target => ?_⟩
  case refine_5 => cases target <;> decide
  all_goals decide

end

variable {switch : Switch} {regex : Regex} {generate : CodeGenerator}

/-- The body shows which of the two it is. -/
theorem Fits.body_inj (h : switch.Fits regex generate) {target : ExecutionTarget} {name : String}
    {a b : Bool} : switch.body target name a = switch.body target name b ↔ a = b := by
  refine ⟨fun heq => ?_, congrArg _⟩
  have hbehind : switch.behind target a = switch.behind target b :=
    (String.append_right_inj _).mp heq
  cases a <;> cases b
  case false.false | true.true => rfl
  case false.true => exact absurd hbehind.symm (h.differ target)
  case true.false => exact absurd hbehind (h.differ target)

/-- One of the two words is spelled, and the generator knows it unless it is the negative
one in foreign letters. -/
theorem Fits.of_spells (h : switch.Fits regex generate) {word : String}
    (hspells : ∃ letters ∈ [switch.positive, switch.negative].map caseless,
      Text.Spells letters word.toList) :
    Text.sameFolded word switch.positive = !Text.sameFolded word switch.negative
      ∧ (Text.sameAscii word switch.negative = true
        ↔ Text.sameFolded word switch.negative = true
          ∧ ∀ c ∈ word.toList, c ∉ Text.foreignLetters) := by
  obtain ⟨_, hmem, hspells⟩ := hspells
  obtain ⟨spelled, hspelled, rfl⟩ := List.mem_map.mp hmem
  have hfolded := sameFolded_of_spells (h.letters spelled hspelled) hspells
  have hlength := length_of_spells hspells
  -- The words differ in length, so a spelling of one is not the same as the other.
  rcases List.mem_pair.mp hspelled with rfl | rfl
  · have hne := hlength ▸ h.lengths
    have hnegative : Text.sameFolded word switch.negative = false :=
      beq_eq_false_iff_ne.mpr (map_ne_of_length _ hne)
    have hascii : Text.sameAscii word switch.negative = false :=
      beq_eq_false_iff_ne.mpr (map_ne_of_length _ hne)
    simp [hfolded, hnegative, hascii]
  · have hne := hlength ▸ h.lengths.symm
    have hpositive : Text.sameFolded word switch.positive = false :=
      beq_eq_false_iff_ne.mpr (map_ne_of_length _ hne)
    rw [sameAscii_iff_of_spells (h.letters _ hspelled) hspells, hfolded, hpositive]
    simp

end Switch

namespace Registry

variable {r : Registry} {sentence : String} {m : Match} {switch : Switch}
  {regex : Regex} {generate : CodeGenerator}

/-- The body depends on what the generator makes of the captured word. -/
theorem generate_of_fits (hr : standard = .ok r) (hm : r.resolve? sentence = some m)
    (hfits : switch.Fits regex generate) (hkey : m.key = switch.key) (options : Options) :
    ∃ word name, m.captures[switch.wordGroup]? = some (some word)
      ∧ m.captures[switch.nameGroup]? = some (some name)
      ∧ (∃ letters ∈ [switch.positive, switch.negative].map caseless,
        Text.Spells letters word.toList)
      ∧ (m.generate options).1 = .body
        (switch.body options.execution name (Text.sameAscii word switch.negative)) := by
  obtain ⟨hloops, hcaptures, hgenerate⟩ := run_of_resolve? hr hm hfits.listed hkey
  have hcaptured (group : Nat) (hgroup : group ∈ [switch.wordGroup, switch.nameGroup]) :
      ∃ text, m.captures[group]? = some (some text) := by
    obtain ⟨hcount, hpasses⟩ := hfits.passes group hgroup
    exact Regex.exists_captured hloops hcaptures hcount hpasses
  obtain ⟨word, hword⟩ := hcaptured switch.wordGroup List.mem_cons_self
  obtain ⟨name, hname⟩ := hcaptured switch.nameGroup (by simp)
  have hspells :=
    Regex.exists_spells_of_captures? hloops hfits.words hcaptures word (by simp [hword])
  refine ⟨word, name, hword, hname, hspells, ?_⟩
  rw [hgenerate]
  exact congrArg Outcome.body (hfits.renders _ _ _ _ hword hname { values := m.captures } rfl).1

/-- A sentence for a checkbox or a button captures one of the two words, up to simple case
folding. The body is the negative one exactly if that word is the negative one and has
no foreign letter, and the positive one exactly if it is the positive one or has one. -/
theorem negated_iff (hr : standard = .ok r) (hm : r.resolve? sentence = some m)
    (hswitch : switch ∈ [Switch.checkbox, Switch.button]) (hkey : m.key = switch.key)
    (options : Options) :
    ∃ word name body, m.captures[switch.wordGroup]? = some (some word)
      ∧ m.captures[switch.nameGroup]? = some (some name)
      ∧ Text.sameFolded word switch.positive = !Text.sameFolded word switch.negative
      ∧ (m.generate options).1 = .body body
      ∧ (body = switch.body options.execution name true
        ↔ Text.sameFolded word switch.negative = true
          ∧ ∀ c ∈ word.toList, c ∉ Text.foreignLetters)
      ∧ (body = switch.body options.execution name false
        ↔ Text.sameFolded word switch.positive = true
          ∨ ∃ c ∈ word.toList, c ∈ Text.foreignLetters) := by
  have hfits : ∃ generate regex, switch.Fits regex generate := by
    rcases List.mem_pair.mp hswitch with rfl | rfl
    · exact ⟨_, Switch.checkbox_fits⟩
    · exact ⟨_, Switch.button_fits⟩
  obtain ⟨generate, regex, hfits⟩ := hfits
  obtain ⟨word, name, hword, hname, hspells, hbody⟩ := generate_of_fits hr hm hfits hkey options
  obtain ⟨hone, hascii⟩ := hfits.of_spells hspells
  refine ⟨word, name, _, hword, hname, hone, hbody, ?_, ?_⟩
  -- Each of the two bodies is known by its end, and the end by the comparison.
  · rw [hfits.body_inj, hascii]
  · rw [hfits.body_inj, ← Bool.not_eq_true, hascii, hone]
    simp only [Bool.not_eq_true', not_and_or, Bool.not_eq_true, not_forall, not_not, exists_prop]

/-- A checkbox that is unchecked by a word in mixed case. -/
theorem uncheck_in_mixed_case :
    ∃ r m, standard = .ok r ∧ r.resolve? "I UnCheck the \"Subscribe\" checkbox" = some m
      ∧ m.key = Switch.checkbox.key
      ∧ ∃ word name body, m.captures[0]? = some (some word) ∧ m.captures[1]? = some (some name)
        ∧ Text.sameFolded word "check" = !Text.sameFolded word "uncheck"
        ∧ (m.generate {}).1 = .body body
        ∧ (body = Switch.checkbox.body .playwright name true
          ↔ Text.sameFolded word "uncheck" = true ∧ ∀ c ∈ word.toList, c ∉ Text.foreignLetters)
        ∧ (body = Switch.checkbox.body .playwright name false
          ↔ Text.sameFolded word "check" = true ∨ ∃ c ∈ word.toList, c ∈ Text.foreignLetters) := by
  obtain ⟨r, m, hr, hm, hkey, -⟩ := exists_resolve?_standard
    "I UnCheck the \"Subscribe\" checkbox" "interaction/toggle-checkbox"
    [some "UnCheck", some "Subscribe"] (by decide +kernel)
  exact ⟨r, m, hr, hm, hkey, negated_iff hr hm List.mem_cons_self hkey {}⟩

/-- With the Kelvin sign for its `k`, the word `uncheck` matches and the box is checked. -/
theorem uncheck_with_kelvin_sign_checks :
    ∃ r m word, standard = .ok r ∧ r.resolve? "I unchec\u212A \"Subscribe\"" = some m
      ∧ m.key = Switch.checkbox.key ∧ m.captures[Switch.checkbox.wordGroup]? = some (some word)
      ∧ Text.sameFolded word "uncheck" = true ∧ Text.sameFolded word "check" = false
      ∧ (m.generate {}).1 = .body "await page.getByLabel('Subscribe').check();" := by
  obtain ⟨r, m, hr, hm, hkey, hvalues⟩ := exists_resolve?_standard
    "I unchec\u212A \"Subscribe\"" "interaction/toggle-checkbox"
    [some "unchec\u212A", some "Subscribe"] (by decide +kernel)
  obtain ⟨regex, hfits⟩ := Switch.checkbox_fits
  obtain ⟨-, -, hgenerate⟩ := run_of_resolve? hr hm hfits.listed hkey
  refine ⟨r, m, "unchec\u212A", hr, hm, hkey, by rw [hvalues]; rfl, ?_, ?_, ?_⟩
  · decide
  · decide
  · rw [hgenerate, hvalues]
    refine congrArg Outcome.body ?_
    decide +kernel

end Registry

end ScenarioSteps
