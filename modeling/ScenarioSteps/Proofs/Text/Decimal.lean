import Mathlib.Algebra.Field.Rat
import Mathlib.Data.List.Induction
import Mathlib.Data.List.TakeWhile
import Mathlib.Tactic.FieldSimp
import Mathlib.Tactic.Ring
import ScenarioSteps.Text.Decimal

/-!
# `ScenarioSteps.Proofs.Text.Decimal`: the grammar of numerals

`IsNumeral` is the grammar of `numeral?`, part by part: a sign, digits with a
point anywhere among them, and an exponent (`numeral?_eq_some_iff`). The number
that a numeral denotes is a product with a power of ten, and digits behind the
point count for less by as many places (`ofDigits_append_shifted`).
-/

set_option autoImplicit false

namespace ScenarioSteps.Text

/-- The number that a numeral denotes, up to its sign. -/
def Numeral.magnitude (n : Numeral) : ℚ :=
  n.digits * 10 ^ n.scale

/-! ### Digits -/

/-- One digit more at the end makes ten times the number and the digit. -/
theorem ofDigits_concat (cs : List Char) (c : Char) :
    ofDigits (cs ++ [c]) = 10 * ofDigits cs + digitValue c := by
  simp [ofDigits]

/-- Digits in front of others count for more by as many places. -/
theorem ofDigits_append (first rest : List Char) :
    ofDigits (first ++ rest) = ofDigits first * 10 ^ rest.length + ofDigits rest := by
  induction rest using List.reverseRecOn with
  | nil => simp [ofDigits]
  | append_singleton rest c ih =>
      rw [← List.append_assoc, ofDigits_concat, ofDigits_concat, ih, List.length_append,
        List.length_singleton]
      ring

/-- So does a first digit. -/
theorem ofDigits_cons (c : Char) (rest : List Char) :
    ofDigits (c :: rest) = digitValue c * 10 ^ rest.length + ofDigits rest := by
  have hfirst : ofDigits [c] = digitValue c := by simp [ofDigits]
  rw [← List.singleton_append, ofDigits_append, hfirst]

/-- Digits behind a point count for less, by as many places as there are. -/
theorem ofDigits_append_shifted (whole fraction : List Char) (e : ℤ) :
    (ofDigits (whole ++ fraction) : ℚ) * 10 ^ (e - fraction.length)
      = (ofDigits whole + ofDigits fraction * 10 ^ (-(fraction.length : ℤ))) * 10 ^ e := by
  rw [ofDigits_append, zpow_sub₀ (by norm_num), zpow_neg, zpow_natCast]
  push_cast
  field_simp

/-! ### Numerals -/

/-- An optional sign; `true` is a minus. -/
inductive IsSign : List Char → Bool → Prop
  | absent : IsSign [] false
  | plus : IsSign ['+'] false
  | minus : IsSign ['-'] true

/-- An optional exponent. -/
inductive IsExponent : List Char → ℤ → Prop
  | absent : IsExponent [] 0
  | power {letter : Char} {sign digits : List Char} {negative : Bool}
      (hletter : letter = 'e' ∨ letter = 'E') (hsign : IsSign sign negative)
      (hne : digits ≠ []) (hdigits : ∀ c ∈ digits, c.isDigit = true) :
      IsExponent (letter :: (sign ++ digits))
        (if negative then -(ofDigits digits : ℤ) else (ofDigits digits : ℤ))

/-- The numerals, with what they denote. -/
inductive IsNumeral : List Char → Numeral → Prop
  | whole {sign whole exponent : List Char} {negative : Bool} {e : ℤ}
      (hsign : IsSign sign negative) (hne : whole ≠ []) (hwhole : ∀ c ∈ whole, c.isDigit = true)
      (hexponent : IsExponent exponent e) :
      IsNumeral (sign ++ (whole ++ exponent)) ⟨negative, ofDigits whole, e⟩
  | point {sign whole fraction exponent : List Char} {negative : Bool} {e : ℤ}
      (hsign : IsSign sign negative) (hne : whole ++ fraction ≠ [])
      (hwhole : ∀ c ∈ whole, c.isDigit = true) (hfraction : ∀ c ∈ fraction, c.isDigit = true)
      (hexponent : IsExponent exponent e) :
      IsNumeral (sign ++ (whole ++ '.' :: (fraction ++ exponent)))
        ⟨negative, ofDigits (whole ++ fraction), e - fraction.length⟩

/-- What is taken off as a sign is one. -/
theorem exists_sign {cs rest : List Char} {negative : Bool} (h : takeSign cs = (negative, rest)) :
    ∃ sign, cs = sign ++ rest ∧ IsSign sign negative := by
  unfold takeSign at h
  split at h
  · cases h
    exact ⟨['-'], rfl, .minus⟩
  · cases h
    exact ⟨['+'], rfl, .plus⟩
  · cases h
    exact ⟨[], rfl, .absent⟩

/-- A sign is taken off whole if no other one stands behind it. -/
theorem takeSign_append {sign cs : List Char} {negative : Bool} (h : IsSign sign negative)
    (hcs : ∀ c ∈ cs.head?, c ≠ '+' ∧ c ≠ '-') : takeSign (sign ++ cs) = (negative, cs) := by
  cases h with
  | plus | minus => rfl
  | absent =>
      -- Without a sign, what stands first must not look like one.
      rw [List.nil_append]
      unfold takeSign
      split
      · exact absurd rfl (hcs '-' rfl).2
      · exact absurd rfl (hcs '+' rfl).1
      · rfl

/-- What is taken off as digits is digits. -/
theorem takeDigits_eq {cs digits rest : List Char} (h : takeDigits cs = (digits, rest)) :
    cs = digits ++ rest ∧ ∀ c ∈ digits, c.isDigit = true := by
  cases h
  exact ⟨List.takeWhile_append_dropWhile.symm, fun c hc => List.mem_takeWhile_imp hc⟩

/-- Digits are taken off whole if no other one stands behind them. -/
theorem takeDigits_append {digits rest : List Char} (hdigits : ∀ c ∈ digits, c.isDigit = true)
    (hrest : ∀ c ∈ rest.head?, c.isDigit = false) :
    takeDigits (digits ++ rest) = (digits, rest) := by
  have htake : rest.takeWhile Char.isDigit = [] ∧ rest.dropWhile Char.isDigit = rest := by
    cases rest with
    | nil => exact ⟨rfl, rfl⟩
    | cons c rest => simp [hrest c rfl]
  rw [takeDigits, List.takeWhile_append_of_pos hdigits, List.dropWhile_append_of_pos hdigits,
    htake.1, htake.2, List.append_nil]

/-- A digit is not the same as a character that is none. -/
theorem ne_of_isDigit {c d : Char} (hc : c.isDigit = true) (hd : d.isDigit = false) : c ≠ d := by
  rintro rfl
  rw [hc] at hd
  cases hd

/-- Digits and more do not begin with a sign. -/
theorem takeSign_append_digits {sign digits rest : List Char} {negative : Bool}
    (h : IsSign sign negative) (hdigits : ∀ c ∈ digits, c.isDigit = true)
    (hrest : ∀ c ∈ rest.head?, c ≠ '+' ∧ c ≠ '-') :
    takeSign (sign ++ (digits ++ rest)) = (negative, digits ++ rest) := by
  refine takeSign_append h fun c hc => ?_
  cases digits with
  | nil => exact hrest c hc
  | cons d digits =>
      obtain rfl : d = c := Option.some.inj hc
      have hd := hdigits d List.mem_cons_self
      exact ⟨ne_of_isDigit hd (by decide), ne_of_isDigit hd (by decide)⟩

/-- An exponent begins with its letter, which is no digit, no sign and no point. -/
theorem IsExponent.head_ne {cs : List Char} {e : ℤ} (h : IsExponent cs e) {c : Char}
    (hc : c ∈ cs.head?) : c.isDigit = false ∧ (c ≠ '+' ∧ c ≠ '-') ∧ c ≠ '.' := by
  cases h with
  | absent => cases hc
  | power hletter =>
      obtain rfl := Option.some.inj hc
      rcases hletter with rfl | rfl <;> decide

/-- What is read as an exponent is one. -/
theorem isExponent_of_exponent? {cs : List Char} {e : ℤ} (h : exponent? cs = some e) :
    IsExponent cs e := by
  cases cs with
  | nil =>
      cases h
      exact .absent
  | cons letter rest =>
      rcases hsign : takeSign rest with ⟨negative, unsigned⟩
      rcases hdigits : takeDigits unsigned with ⟨digits, behind⟩
      simp only [exponent?, hsign, hdigits] at h
      split at h
      · next hletter =>
          split at h
          · cases h
          -- Behind the sign there are digits and nothing else.
          · next hwhole =>
              obtain ⟨sign, rfl, hsigned⟩ := exists_sign hsign
              obtain ⟨rfl, hdigit⟩ := takeDigits_eq hdigits
              obtain ⟨hne, rfl⟩ : digits ≠ [] ∧ behind = [] := by simpa using hwhole
              cases h
              rw [List.append_nil]
              exact .power (by simpa using hletter) hsigned hne hdigit
      · cases h

/-- An exponent is read as what it denotes. -/
theorem exponent?_of_isExponent {cs : List Char} {e : ℤ} (h : IsExponent cs e) :
    exponent? cs = some e := by
  cases h with
  | absent => rfl
  | @power letter sign digits negative hletter hsigned hne hdigit =>
      -- The digits go on to the end of the text, which is a rest without a head.
      have hnone : ∀ c ∈ ([] : List Char).head?, c.isDigit = false ∧ (c ≠ '+' ∧ c ≠ '-') :=
        fun c hc => nomatch hc
      have hsign := takeSign_append_digits hsigned hdigit fun c hc => (hnone c hc).2
      have hdigits := takeDigits_append hdigit fun c hc => (hnone c hc).1
      rw [List.append_nil] at hsign hdigits
      simp [exponent?, hsign, hdigits, hletter, hne]

/-- What is read as a numeral is one. -/
theorem isNumeral_of_numeral? {cs : List Char} {n : Numeral} (h : numeral? cs = some n) :
    IsNumeral cs n := by
  -- What was taken is put back in front of what was left, in the order of reading.
  rcases hsign : takeSign cs with ⟨negative, unsigned⟩
  rcases hdigits : takeDigits unsigned with ⟨whole, behind⟩
  simp only [numeral?, hsign, hdigits] at h
  obtain ⟨sign, rfl, hsigned⟩ := exists_sign hsign
  obtain ⟨rfl, hwhole⟩ := takeDigits_eq hdigits
  split at h
  · next rest =>
      rcases hmore : takeDigits rest with ⟨fraction, behind⟩
      simp only [hmore] at h
      obtain ⟨rfl, hfraction⟩ := takeDigits_eq hmore
      split at h
      · cases h
      · next hempty =>
          obtain ⟨e, hexponent, rfl⟩ := Option.map_eq_some_iff.mp h
          refine .point hsigned ?_ hwhole hfraction (isExponent_of_exponent? hexponent)
          simpa [-not_and] using hempty
  · split at h
    · cases h
    · next hempty =>
        obtain ⟨e, hexponent, rfl⟩ := Option.map_eq_some_iff.mp h
        have hnumeral := IsNumeral.whole hsigned (by simpa using hempty) hwhole
          (isExponent_of_exponent? hexponent)
        simpa using hnumeral

/-- A numeral is read as what it denotes. -/
theorem numeral?_of_isNumeral {cs : List Char} {n : Numeral} (h : IsNumeral cs n) :
    numeral? cs = some n := by
  cases h with
  | @whole sign whole exponent negative e hsigned hne hwhole hexponent =>
      have hsign := takeSign_append_digits hsigned hwhole fun c hc => (hexponent.head_ne hc).2.1
      have hdigits := takeDigits_append hwhole fun c hc => (hexponent.head_ne hc).1
      simp only [numeral?, hsign, hdigits]
      split
      · exact absurd rfl (hexponent.head_ne rfl).2.2
      · simp [hne, exponent?_of_isExponent hexponent]
  | @point sign whole fraction exponent negative e hsigned hne hwhole hfraction hexponent =>
      -- The point stops the digits in front of it, and the exponent those behind it.
      have hpoint (c : Char) (hc : c ∈ ('.' :: (fraction ++ exponent)).head?) : c = '.' :=
        (Option.some.inj hc).symm
      have hsign := takeSign_append_digits hsigned hwhole fun c hc => by
        rw [hpoint c hc]
        decide
      have hdigits := takeDigits_append hwhole fun c hc => by
        rw [hpoint c hc]
        rfl
      have hmore := takeDigits_append hfraction fun c hc => (hexponent.head_ne hc).1
      have hempty : (whole.isEmpty && fraction.isEmpty) = false := by simpa using hne
      simp only [numeral?, hsign, hdigits, hmore, hempty]
      simp [exponent?_of_isExponent hexponent]

/-- The numerals are the texts that are read as one, and they denote what is read. -/
theorem numeral?_eq_some_iff {cs : List Char} {n : Numeral} :
    numeral? cs = some n ↔ IsNumeral cs n :=
  ⟨isNumeral_of_numeral?, numeral?_of_isNumeral⟩

end ScenarioSteps.Text
