import ScenarioSteps.Code.Value
import ScenarioSteps.Proofs.Source.Fragment
import ScenarioSteps.Proofs.Text.Decimal

/-!
# `ScenarioSteps.Proofs.Source.Scalar`: values as literals of strict JavaScript

A text becomes a value in code as a string literal, as one of three words, or as
a numeral that stays as it is. `DecimalLiteral` is the grammar of the decimal
literals that strict code may contain. Unlike a numeral, a literal has no sign
and no zero in front of the digits of its whole part, and underscores can group
its digits.

A numeral is a sign and a literal for its magnitude, unless it begins with a zero
that is not needed (`exists_literal_of_isNumeral`). So these zeros are all that
can make a value other than it should be (`value_isScalar_iff`).
-/

set_option autoImplicit false

namespace ScenarioSteps

open Text (IsSign IsExponent IsNumeral digitValue ofDigits)

/-! ### The grammar of literals -/

/-- Decimal digits with their number and their value. A single underscore can stand
between any two. -/
inductive DigitGroups : List Char → Nat → Nat → Prop
  | one {c : Char} (hc : c.isDigit = true) : DigitGroups [c] 1 (digitValue c)
  | next {cs : List Char} {count v : Nat} {c : Char} (hcs : DigitGroups cs count v)
      (hc : c.isDigit = true) : DigitGroups (cs ++ [c]) (count + 1) (10 * v + digitValue c)
  | separated {cs : List Char} {count v : Nat} {c : Char} (hcs : DigitGroups cs count v)
      (hc : c.isDigit = true) : DigitGroups (cs ++ ['_', c]) (count + 1) (10 * v + digitValue c)

/-- The whole part of a decimal literal: zero, or digits that do not begin with it. -/
inductive WholePart : List Char → Nat → Prop
  | zero : WholePart ['0'] 0
  | digit {c : Char} (hc : c.isDigit = true) (hne : c ≠ '0') : WholePart [c] (digitValue c)
  | digits {c : Char} {cs : List Char} {count v : Nat} (hc : c.isDigit = true) (hne : c ≠ '0')
      (hcs : DigitGroups cs count v) : WholePart (c :: cs) (digitValue c * 10 ^ count + v)
  | separated {c : Char} {cs : List Char} {count v : Nat} (hc : c.isDigit = true) (hne : c ≠ '0')
      (hcs : DigitGroups cs count v) : WholePart (c :: '_' :: cs) (digitValue c * 10 ^ count + v)

/-- The exponent of a decimal literal, if it has one. -/
inductive ExponentPart : List Char → ℤ → Prop
  | absent : ExponentPart [] 0
  | power {letter : Char} {sign cs : List Char} {negative : Bool} {count v : Nat}
      (hletter : letter = 'e' ∨ letter = 'E') (hsign : IsSign sign negative)
      (hcs : DigitGroups cs count v) :
      ExponentPart (letter :: (sign ++ cs)) (if negative then -(v : ℤ) else (v : ℤ))

/-- The decimal literals of strict JavaScript, with the numbers that they denote. -/
inductive DecimalLiteral : List Char → ℚ → Prop
  | whole {whole exponent : List Char} {v : Nat} {e : ℤ} (hwhole : WholePart whole v)
      (hexponent : ExponentPart exponent e) : DecimalLiteral (whole ++ exponent) (v * 10 ^ e)
  | point {whole exponent : List Char} {v : Nat} {e : ℤ} (hwhole : WholePart whole v)
      (hexponent : ExponentPart exponent e) :
      DecimalLiteral (whole ++ '.' :: exponent) (v * 10 ^ e)
  | fraction {whole fraction exponent : List Char} {v count w : Nat} {e : ℤ}
      (hwhole : WholePart whole v) (hfraction : DigitGroups fraction count w)
      (hexponent : ExponentPart exponent e) :
      DecimalLiteral (whole ++ '.' :: (fraction ++ exponent))
        ((v + w * 10 ^ (-(count : ℤ))) * 10 ^ e)
  | bare {fraction exponent : List Char} {count w : Nat} {e : ℤ}
      (hfraction : DigitGroups fraction count w) (hexponent : ExponentPart exponent e) :
      DecimalLiteral ('.' :: (fraction ++ exponent)) (w * 10 ^ (-(count : ℤ)) * 10 ^ e)

/-! ### Literals for numerals -/

/-- Digits alone are one group. -/
theorem digitGroups_of_forall {cs : List Char} (hne : cs ≠ [])
    (h : ∀ c ∈ cs, c.isDigit = true) : DigitGroups cs cs.length (ofDigits cs) := by
  induction cs using List.reverseRecOn with
  | nil => contradiction
  | append_singleton cs c ih =>
      rw [List.forall_mem_append, List.forall_mem_singleton] at h
      rw [List.length_append, List.length_singleton, Text.ofDigits_concat]
      by_cases hcs : cs = []
      · subst hcs
        simpa [ofDigits] using DigitGroups.one h.2
      · exact .next (ih hcs h.1) h.2

/-- Whether digits begin with a zero that another digit follows. -/
def beginsWithSpareZero : List Char → Bool
  | '0' :: c :: _ => c.isDigit
  | _ => false

/-- Whether there is such a zero behind the sign of a numeral. -/
def hasSpareZero (cs : List Char) : Bool :=
  beginsWithSpareZero (Text.takeSign cs).2

/-- The digits in front of the point of a numeral are a whole part if no zero is spare. -/
theorem wholePart_of_not_hasSpareZero {sign whole rest : List Char} {negative : Bool}
    (hsign : IsSign sign negative) (hne : whole ≠ []) (hwhole : ∀ c ∈ whole, c.isDigit = true)
    (hrest : ∀ c ∈ rest.head?, c ≠ '+' ∧ c ≠ '-')
    (hzero : hasSpareZero (sign ++ (whole ++ rest)) = false) :
    WholePart whole (ofDigits whole) := by
  rw [hasSpareZero, Text.takeSign_append_digits hsign hwhole hrest] at hzero
  obtain ⟨c, digits, rfl⟩ := List.exists_cons_of_ne_nil hne
  rw [List.forall_mem_cons] at hwhole
  rw [Text.ofDigits_cons]
  cases digits with
  | nil =>
      by_cases hc : c = '0'
      · subst hc
        exact .zero
      · simpa [ofDigits] using WholePart.digit hwhole.1 hc
  | cons d digits =>
      -- A zero here would be spare, as `d` follows it.
      have hc : c ≠ '0' := by
        rintro rfl
        exact Bool.false_ne_true (hzero.symm.trans (hwhole.2 d List.mem_cons_self))
      exact .digits hwhole.1 hc (digitGroups_of_forall (List.cons_ne_nil d digits) hwhole.2)

/-- The exponent of a numeral is one of a decimal literal. -/
theorem exponentPart_of_isExponent {cs : List Char} {e : ℤ} (h : IsExponent cs e) :
    ExponentPart cs e := by
  cases h with
  | absent => exact .absent
  | power hletter hsign hne hdigits =>
      exact .power hletter hsign (digitGroups_of_forall hne hdigits)

/-- A numeral without a spare zero is a sign and a literal for its magnitude. -/
theorem exists_literal_of_isNumeral {cs : List Char} {n : Text.Numeral} (h : IsNumeral cs n)
    (hzero : hasSpareZero cs = false) :
    ∃ sign literal, cs = sign ++ literal ∧ IsSign sign n.negative
      ∧ DecimalLiteral literal n.magnitude := by
  cases h with
  | @whole sign whole exponent negative e hsign hne hwhole hexponent =>
      have hpart := wholePart_of_not_hasSpareZero hsign hne hwhole
        (fun c hc => (hexponent.head_ne hc).2.1) hzero
      exact ⟨sign, _, rfl, hsign, .whole hpart (exponentPart_of_isExponent hexponent)⟩
  | @point sign whole fraction exponent negative e hsign hne hwhole hfraction hexponent =>
      refine ⟨sign, _, rfl, hsign, ?_⟩
      rw [Text.Numeral.magnitude, Text.ofDigits_append_shifted]
      have hpower := exponentPart_of_isExponent hexponent
      have hpart (hwholeNe : whole ≠ []) : WholePart whole (ofDigits whole) := by
        refine wholePart_of_not_hasSpareZero hsign hwholeNe hwhole ?_ hzero
        simp
      -- Digits can be missing on one side of the point.
      by_cases hwholeNe : whole = []
      · subst hwholeNe
        have hgroups := digitGroups_of_forall (by simpa using hne) hfraction
        simpa [ofDigits] using DecimalLiteral.bare hgroups hpower
      · by_cases hfractionNe : fraction = []
        · subst hfractionNe
          simpa [ofDigits] using DecimalLiteral.point (hpart hwholeNe) hpower
        · exact .fraction (hpart hwholeNe) (digitGroups_of_forall hfractionNe hfraction) hpower

/-- A whole part begins with a digit, and nothing follows a zero. -/
theorem WholePart.exists_cons {cs : List Char} {v : Nat} (h : WholePart cs v) :
    ∃ c rest, cs = c :: rest ∧ c.isDigit = true ∧ (c = '0' → rest = []) := by
  cases h with
  | zero => exact ⟨'0', [], rfl, rfl, fun _ => rfl⟩
  | digit hc hne => exact ⟨_, _, rfl, hc, fun h => absurd h hne⟩
  | digits hc hne hcs => exact ⟨_, _, rfl, hc, fun h => absurd h hne⟩
  | separated hc hne hcs => exact ⟨_, _, rfl, hc, fun h => absurd h hne⟩

/-- A literal begins with a digit or a point, and no digit follows a zero in front. -/
theorem DecimalLiteral.exists_cons {cs : List Char} {v : ℚ} (h : DecimalLiteral cs v) :
    ∃ c rest, cs = c :: rest ∧ (c ≠ '+' ∧ c ≠ '-')
      ∧ (c = '0' → ∀ d ∈ rest.head?, d.isDigit = false) := by
  -- Behind a whole part that is zero stands a point, an exponent or nothing.
  have hwholeFirst {whole rest : List Char} {v : Nat} (hwhole : WholePart whole v)
      (hrest : ∀ d ∈ rest.head?, d.isDigit = false) :
      ∃ c tail, whole ++ rest = c :: tail ∧ (c ≠ '+' ∧ c ≠ '-')
        ∧ (c = '0' → ∀ d ∈ tail.head?, d.isDigit = false) := by
    obtain ⟨c, digits, rfl, hc, hzero⟩ := hwhole.exists_cons
    refine ⟨c, digits ++ rest, rfl, ⟨Text.ne_of_isDigit hc rfl, Text.ne_of_isDigit hc rfl⟩, ?_⟩
    intro hc
    rwa [hzero hc]
  have hexponentFirst {exponent : List Char} {e : ℤ} (hexponent : ExponentPart exponent e) :
      ∀ d ∈ exponent.head?, d.isDigit = false := by
    cases hexponent with
    | absent => exact fun d hd => nomatch hd
    | power hletter =>
        rintro d hd
        obtain rfl := Option.some.inj hd
        rcases hletter with rfl | rfl <;> rfl
  cases h with
  | whole hwhole hexponent => exact hwholeFirst hwhole (hexponentFirst hexponent)
  | point hwhole | fraction hwhole => exact hwholeFirst hwhole (by simp)
  | bare => exact ⟨'.', _, rfl, by decide, fun h => absurd h (by decide)⟩

/-- No zero in a literal is spare. -/
theorem DecimalLiteral.not_hasSpareZero {sign cs : List Char} {negative : Bool} {v : ℚ}
    (hsign : IsSign sign negative) (h : DecimalLiteral cs v) :
    hasSpareZero (sign ++ cs) = false := by
  obtain ⟨c, rest, rfl, hunsigned, hzero⟩ := h.exists_cons
  rw [hasSpareZero, Text.takeSign_append hsign (by simpa using hunsigned)]
  unfold beginsWithSpareZero
  split
  · next d tail heq =>
      cases heq
      exact hzero rfl d rfl
  · rfl

/-! ### Values -/

/-- The code of a text as a value: a string literal that holds it, or what the
trimmed text is by itself, one of three words or a number. -/
inductive IsScalar (text : String) : String → Prop
  | string : IsScalar text (Literal.quoted text)
  | word (hword : Text.trimmed text ∈ ["true", "false", "null"]) :
      IsScalar text (Text.trimmed text)
  | number {n : Text.Numeral} {sign literal : List Char}
      (hnumeral : IsNumeral (Text.trimmed text).toList n) (hsign : IsSign sign n.negative)
      (hliteral : DecimalLiteral literal n.magnitude) :
      IsScalar text (String.ofList (sign ++ literal))

/-- A text with a zero that is not needed stands for nothing as it is. -/
theorem not_isScalar_of_hasSpareZero {text : String}
    (h : hasSpareZero (Text.trimmed text).toList = true) :
    ¬ IsScalar text (Text.trimmed text) := by
  generalize hbare : Text.trimmed text = bare at h ⊢
  intro hscalar
  cases hscalar with
  | string =>
      -- A string literal begins with its quotation mark.
      rw [Literal.quoted, String.toList_append, String.toList_append] at h
      cases h
  | word hword =>
      have hwords : ∀ word ∈ ["true", "false", "null"], hasSpareZero word.toList = false := by
        decide
      rw [hwords _ hword] at h
      cases h
  | number hnumeral hsign hliteral =>
      rw [String.toList_ofList, hliteral.not_hasSpareZero hsign] at h
      cases h

/-- A bare value without such a zero stands for itself. -/
theorem isScalar_of_isBareValue {text : String} (h : isBareValue (Text.trimmed text) = true)
    (hzero : hasSpareZero (Text.trimmed text).toList = false) :
    IsScalar text (Text.trimmed text) := by
  rw [isBareValue, Bool.or_eq_true] at h
  rcases h with hword | hnumeral
  · exact .word (by simpa using hword)
  -- That the number is finite does not matter for its grammar.
  · rw [Option.any_eq_true] at hnumeral
    obtain ⟨n, hn, -⟩ := hnumeral
    have hnumeral := Text.isNumeral_of_numeral? hn
    obtain ⟨sign, literal, heq, hsign, hliteral⟩ := exists_literal_of_isNumeral hnumeral hzero
    have hscalar := IsScalar.number hnumeral hsign hliteral
    rwa [← heq, String.ofList_toList] at hscalar

/-- A value is a string literal, one of three words, or a sign and a literal for the
number that the text denotes, unless the text stays without quotes and begins with a
zero that another digit follows. -/
theorem Code.value_isScalar_iff (text : String) :
    IsScalar text (value text).render
      ↔ ¬ (isBareValue (Text.trimmed text) = true
        ∧ hasSpareZero (Text.trimmed text).toList = true) := by
  rw [value]
  split
  · next hbare =>
      have hrender : (fixed (Text.trimmed text)).render = Text.trimmed text :=
        String.toList_injective (render_fixed _)
      rw [hrender]
      constructor
      · exact fun hscalar ⟨_, hzero⟩ => not_isScalar_of_hasSpareZero hzero hscalar
      · intro hzero
        refine isScalar_of_isBareValue hbare ?_
        simpa [hbare] using hzero
  · next hquoted =>
      have hrender : (quoted text).render = Literal.quoted text :=
        String.toList_injective (by rw [toList_render]; exact List.append_nil _)
      rw [hrender]
      exact ⟨fun _ ⟨hbare, _⟩ => hquoted hbare, fun _ => .string⟩

/-- Zeros in front of a number stay in the code, and strict code must not have them. -/
theorem Code.value_keeps_leading_zeros :
    (value "007").render = "007" ∧ ¬ IsScalar "007" (value "007").render := by
  have hrender : (value "007").render = Text.trimmed "007" := by decide
  have hzero : hasSpareZero (Text.trimmed "007").toList = true := by decide
  refine ⟨by rw [hrender]; decide, ?_⟩
  rw [hrender]
  exact not_isScalar_of_hasSpareZero hzero

end ScenarioSteps
