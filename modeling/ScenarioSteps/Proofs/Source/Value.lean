import ScenarioSteps.Code.Value
import ScenarioSteps.Proofs.Source.Fragment
import ScenarioSteps.Proofs.Text.Decimal

/-!
# `ScenarioSteps.Proofs.Source.Value`: values and property paths in code

A captured text becomes code in two ways that look at it. As a value it stays
without quotes if it is a numeral or one of three words, and none of these has a
character that means anything to the reader (`isTerm_value`). As a property path
it becomes literals in brackets (`isSteady_propertyPath`).
-/

set_option autoImplicit false

namespace ScenarioSteps

namespace Text

/-! ### The characters of numerals -/

/-- A digit, a sign, a point or the letter of an exponent. -/
def isNumeralChar (c : Char) : Bool :=
  c.isDigit || ['+', '-', '.', 'e', 'E'].contains c

/-- Digits are characters of numerals. -/
theorem isNumeralChar_of_isDigit {cs : List Char} (h : ∀ c ∈ cs, c.isDigit = true) :
    ∀ c ∈ cs, isNumeralChar c = true := by
  intro c hc
  rw [isNumeralChar, h c hc]
  rfl

/-- So is a sign. -/
theorem IsSign.isNumeralChar {cs : List Char} {negative : Bool} (h : IsSign cs negative) :
    ∀ c ∈ cs, isNumeralChar c = true := by
  cases h <;> exact List.all_eq_true.mp (by decide)

/-- So are all characters of an exponent. -/
theorem IsExponent.isNumeralChar {cs : List Char} {e : ℤ} (h : IsExponent cs e) :
    ∀ c ∈ cs, isNumeralChar c = true := by
  cases h with
  | absent => exact List.forall_mem_nil _
  | @power letter _ _ _ hletter hsign _ hdigits =>
      have hfirst : Text.isNumeralChar letter = true := by
        rcases hletter with rfl | rfl <;> rfl
      rw [List.forall_mem_cons, List.forall_mem_append]
      exact ⟨hfirst, hsign.isNumeralChar, isNumeralChar_of_isDigit hdigits⟩

/-- A numeral is not empty, and has no other characters. -/
theorem IsNumeral.isNumeralChar {cs : List Char} {n : Numeral} (h : IsNumeral cs n) :
    cs ≠ [] ∧ ∀ c ∈ cs, isNumeralChar c = true := by
  cases h with
  | whole hsign hne hwhole hexponent =>
      simp only [List.forall_mem_append]
      exact ⟨by simp [hne], hsign.isNumeralChar, isNumeralChar_of_isDigit hwhole,
        hexponent.isNumeralChar⟩
  | point hsign hne hwhole hfraction hexponent =>
      simp only [List.forall_mem_append, List.forall_mem_cons]
      exact ⟨by simp, hsign.isNumeralChar, isNumeralChar_of_isDigit hwhole, rfl,
        isNumeralChar_of_isDigit hfraction, hexponent.isNumeralChar⟩

end Text

namespace Code

open Lexer (IsTerm specials)

/-- No character of a numeral means anything to the reader. -/
theorem not_special_of_isNumeralChar {c : Char} (hc : Text.isNumeralChar c = true) :
    c ∉ specials := by
  have hspecials : ∀ d ∈ specials, Text.isNumeralChar d = false :=
    List.all_iff_forall_prop.mp (by decide)
  intro hmem
  rw [hspecials c hmem] at hc
  cases hc

/-- A value without quotes. -/
theorem isTerm_of_isBareValue {text : String} (h : isBareValue text = true) :
    IsTerm text.toList := by
  rw [isBareValue, Bool.or_eq_true] at h
  rcases h with hword | hnumeral
  · have hwords : ∀ word ∈ ["true", "false", "null"],
        word.toList ≠ [] ∧ word.toList.all (· ∉ specials) = true := by decide
    obtain ⟨hne, hplain⟩ := hwords text (by simpa using hword)
    exact Lexer.isTerm_of_not_special hne (List.all_iff_forall_prop.mp hplain)
  · rw [Option.any_eq_true] at hnumeral
    obtain ⟨n, hn, -⟩ := hnumeral
    obtain ⟨hne, hchars⟩ := (Text.isNumeral_of_numeral? hn).isNumeralChar
    exact Lexer.isTerm_of_not_special hne fun c hc => not_special_of_isNumeralChar (hchars c hc)

/-- A text as a value. -/
theorem isTerm_value (text : String) : IsTerm (value text).render.toList := by
  rw [value]
  split
  · next hbare =>
      show IsTerm (Code.fixed (Text.trimmed text)).render.toList
      rw [render_fixed]
      exact isTerm_of_isBareValue hbare
  · have hquoted := Lexer.isTerm_quoted text
    rwa [quoted, toList_render, List.flatMap_singleton]

/-- Steady fragments one behind another. -/
theorem isSteady_join {codes : List Code} (h : ∀ code ∈ codes, code.IsSteady) :
    (join "" codes).IsSteady := by
  induction codes with
  | nil => exact Lexer.steady_nil _
  | cons first rest ih =>
      rw [List.forall_mem_cons] at h
      cases rest with
      | nil => exact h.1
      | cons next rest =>
          have hseparator : IsSteady (fixed "") := isSteady_of_passes (by repeat' constructor)
          exact (h.1.append hseparator).append (ih h.2)

/-- A dotted path as keys in brackets. -/
theorem isSteady_propertyPath (path : String) : (propertyPath path).IsSteady := by
  refine isSteady_join fun code hcode => ?_
  obtain ⟨key, -, rfl⟩ := List.mem_map.mp hcode
  refine isSteady_of_passes ?_
  repeat' constructor

end Code

end ScenarioSteps
