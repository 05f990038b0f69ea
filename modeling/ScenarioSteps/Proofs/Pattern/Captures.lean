import Mathlib.Data.Option.Basic
import ScenarioSteps.Catalog.Sentence

/-!
# `ScenarioSteps.Proofs.Pattern.Captures`: what generators get from captures

A generator only reads its captures. `Yields values P m` says that `m`, run on
captures with these values, answers something with the property `P` and leaves
the values as they are. `Yields.bind` follows a generator from one reading to
the next. `YieldsAlike` does the same for two runs at once, on captures with
different values, and `YieldsWithin` for a generator that reads none but the
groups that are there.
-/

set_option autoImplicit false

namespace ScenarioSteps

/-- On captures with given values, an answer with a property, and the same values. -/
def Yields {α : Type} (values : List (Option String)) (P : α → Prop) (m : StateM Captures α) :
    Prop :=
  ∀ captures : Captures, captures.values = values →
    P (m captures).1 ∧ (m captures).2.values = values

section

variable {α β : Type} {values : List (Option String)}

/-- An answer that reads nothing has the property if it is given one that has. -/
theorem yields_pure {P : α → Prop} {a : α} (h : P a) : Yields values P (pure a) :=
  fun _ hvalues => ⟨h, hvalues⟩

/-- What is done next is told of all answers with the property. -/
theorem Yields.bind {P : α → Prop} {Q : β → Prop} {m : StateM Captures α}
    {f : α → StateM Captures β} (hm : Yields values P m) (hf : ∀ a, P a → Yields values Q (f a)) :
    Yields values Q (m >>= f) := by
  intro captures hvalues
  obtain ⟨hanswer, hkept⟩ := hm captures hvalues
  exact hf _ hanswer _ hkept

/-- The same where what is done next does not depend on the answer. -/
theorem Yields.bind_forall {P : α → Prop} {Q : β → Prop} {m : StateM Captures α}
    {f : α → StateM Captures β} (hm : Yields values P m) (hf : ∀ a, Yields values Q (f a)) :
    Yields values Q (m >>= f) :=
  hm.bind fun a _ => hf a

/-- Reading past the last group is remembered. -/
theorem Captures.get_eq (index : Nat) (captures : Captures) :
    Captures.get index captures
      = match captures.values[index]? with
        | some value => (value, captures)
        | none => (none, { captures with overread := true }) := by
  show (match captures.values[index]? with
    | some value => pure value
    | none => do
      set (Captures.mk captures.values true)
      pure none : StateM Captures (Option String)) captures = _
  cases captures.values[index]? <;> rfl

/-- The text of a group, if there is such a group and it took part. -/
theorem yields_get (index : Nat) :
    Yields values (· = values[index]?.join) (Captures.get index) := by
  rintro captures rfl
  rw [Captures.get_eq]
  cases captures.values[index]? with
  | none => exact ⟨rfl, rfl⟩
  | some value => exact ⟨rfl, rfl⟩

/-- The text of a group, empty if there is no such group or it took no part. -/
theorem yields_text (index : Nat) :
    Yields values (· = values[index]?.join.getD "") (Captures.text index) :=
  (yields_get index).bind fun _ h => yields_pure (by rw [h])

/-- A group that took part is read as it is. -/
theorem yields_captured {index : Nat} {text : String} (h : values[index]? = some (some text)) :
    Yields values (· = text) (Captures.text index) :=
  (yields_get index).bind fun _ hvalue => yields_pure (by rw [hvalue, h]; rfl)

/-- Whether a group took part. -/
theorem yields_present (index : Nat) :
    Yields values (· = values[index]?.join.isSome) (Captures.present index) :=
  (yields_get index).bind fun _ h => yields_pure (by rw [h])

/-- Of two runs, one on each of two lists of values, related answers, and the same values
as before. -/
def YieldsAlike {α : Type} (values values' : List (Option String)) (R : α → α → Prop)
    (m m' : StateM Captures α) : Prop :=
  ∀ captures captures' : Captures, captures.values = values → captures'.values = values' →
    R (m captures).1 (m' captures').1
      ∧ (m captures).2.values = values ∧ (m' captures').2.values = values'

section

variable {values' : List (Option String)}

/-- Two answers that read nothing are related if they are given so. -/
theorem yieldsAlike_pure {R : α → α → Prop} {a b : α} (h : R a b) :
    YieldsAlike values values' R (pure a) (pure b) :=
  fun _ _ hvalues hvalues' => ⟨h, hvalues, hvalues'⟩

/-- The two runs may differ behind answers that do. -/
theorem YieldsAlike.bind {R : α → α → Prop} {S : β → β → Prop} {m m' : StateM Captures α}
    {f f' : α → StateM Captures β} (hm : YieldsAlike values values' R m m')
    (hf : ∀ a b, R a b → YieldsAlike values values' S (f a) (f' b)) :
    YieldsAlike values values' S (m >>= f) (m' >>= f') := by
  intro captures captures' hvalues hvalues'
  obtain ⟨hanswers, hkept, hkept'⟩ := hm captures captures' hvalues hvalues'
  exact hf _ _ hanswers _ _ hkept hkept'

/-- What is known of each run by itself. -/
theorem Yields.alike {P P' : α → Prop} {R : α → α → Prop} {m m' : StateM Captures α}
    (hm : Yields values P m) (hm' : Yields values' P' m') (hR : ∀ a b, P a → P' b → R a b) :
    YieldsAlike values values' R m m' := by
  intro captures captures' hvalues hvalues'
  obtain ⟨hanswer, hkept⟩ := hm captures hvalues
  obtain ⟨hanswer', hkept'⟩ := hm' captures' hvalues'
  exact ⟨hR _ _ hanswer hanswer', hkept, hkept'⟩

end

/-- On captures with given values, an answer with a property, and no reading past the
last group: not even the mark of such a reading is left on the captures. -/
def YieldsWithin {α : Type} (values : List (Option String)) (P : α → Prop)
    (m : StateM Captures α) : Prop :=
  ∀ captures : Captures, captures.values = values → P (m captures).1 ∧ (m captures).2 = captures

/-- An answer that reads nothing stays within any groups. -/
theorem yieldsWithin_pure {P : α → Prop} {a : α} (h : P a) : YieldsWithin values P (pure a) :=
  fun _ _ => ⟨h, rfl⟩

/-- What is done next may depend on the answer, but it stays within the groups whatever
the answer is. -/
theorem YieldsWithin.bind {P : α → Prop} {Q : β → Prop} {m : StateM Captures α}
    {f : α → StateM Captures β} (hm : YieldsWithin values P m)
    (hf : ∀ a, YieldsWithin values Q (f a)) : YieldsWithin values Q (m >>= f) := by
  intro captures hvalues
  obtain ⟨-, hkept⟩ := hm captures hvalues
  obtain ⟨hanswer, hkept'⟩ := hf (m captures).1 (m captures).2 (by rw [hkept]; exact hvalues)
  exact ⟨hanswer, hkept'.trans hkept⟩

/-- There is a group at each index below the number of groups. -/
theorem yieldsWithin_get {index : Nat} (h : index < values.length) :
    YieldsWithin values (fun _ => True) (Captures.get index) := by
  rintro captures rfl
  rw [Captures.get_eq, List.getElem?_eq_getElem h]
  exact ⟨trivial, rfl⟩

/-- The text of a group that is there is read within the groups. -/
theorem yieldsWithin_text {index : Nat} (h : index < values.length) :
    YieldsWithin values (fun _ => True) (Captures.text index) :=
  (yieldsWithin_get h).bind fun _ => yieldsWithin_pure trivial

/-- So is whether it took part. -/
theorem yieldsWithin_present {index : Nat} (h : index < values.length) :
    YieldsWithin values (fun _ => True) (Captures.present index) :=
  (yieldsWithin_get h).bind fun _ => yieldsWithin_pure trivial

/-- A generator of the catalog does not break down. -/
theorem CodeGenerator.run_toGenerator (generate : CodeGenerator) (options : Options)
    (values : List (Option String)) :
    (generate.toGenerator.run options values).1
      = .body (generate options.execution { values }).1.render :=
  rfl

end

end ScenarioSteps
