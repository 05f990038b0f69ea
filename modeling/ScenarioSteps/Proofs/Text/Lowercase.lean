import Mathlib.Data.Bool.AllAny
import Mathlib.Data.List.Infix
import ScenarioSteps.Text.Blank
import ScenarioSteps.Text.Lowercase

/-!
# `ScenarioSteps.Proofs.Text.Lowercase`: the small letters of a part of a text

A part of a text need not have the same small letters as it has alone, since the small form
of a capital sigma depends on what stands around it. `lowerWithin` is the lower-case form of
a part between its surroundings, and a text is lowered part by part (`lowerFrom_append`).

The characters of the part itself may settle the matter: a cased letter behind a sigma, or
both sides of it, leave nothing to what stands further away (`settlesSigma`). If they do so
for each sigma, the part has the same small letters in every text
(`lowerWithin_of_settled`). If they do not for one of them, a cased letter in front of the
part or behind it changes its form (`lowerWithin_ne`).

So `sigmasSettled` says exactly when a text is found in the lower-case form of every text
that holds it:

* `infix_lower_of_settled`: it is, if its sigmas are settled.
* `exists_not_infix_lower`: otherwise one letter more is enough to hide it.
-/

set_option autoImplicit false

namespace ScenarioSteps.Text

/-- To look for a part is to find it somewhere within the text. -/
theorem contains_iff (part cs : List Char) : contains part cs = true ↔ part <:+: cs := by
  induction cs with
  | nil => rw [contains, List.isEmpty_iff, List.infix_nil]
  | cons c cs ih =>
      rw [contains, Bool.or_eq_true, List.isPrefixOf_iff_prefix, ih, List.infix_cons_iff]

/-! ### What settles a sigma -/

/-- Whether the nearest character that is not case-ignorable is cased, if there is one. -/
def nearestCased? (context : List Char) : Option Bool :=
  (context.dropWhile fun c => within caseIgnorableRanges c.toNat).head?.map fun c =>
    within casedRanges c.toNat

/-- A context meets a cased letter if that is the nearest character that counts. -/
theorem meetsCased_iff (context : List Char) :
    meetsCased context = true ↔ nearestCased? context = some true := by
  unfold meetsCased nearestCased?
  split
  · next h => simp [h]
  · next h => simp [h]

/-- What stands further away counts only behind ignorable characters. -/
theorem nearestCased?_append (near far : List Char) :
    nearestCased? (near ++ far) = (nearestCased? near).or (nearestCased? far) := by
  unfold nearestCased?
  rw [List.dropWhile_append]
  split
  · next h => rw [List.isEmpty_iff.mp h, List.head?_nil, Option.map_none, Option.none_or]
  · next h =>
      obtain ⟨c, rest, hrest⟩ := List.exists_cons_of_ne_nil (mt List.isEmpty_iff.mpr h)
      rw [hrest, List.cons_append, List.head?_cons, List.head?_cons, Option.map_some,
        Option.some_or]

/-- Whether the characters around a capital sigma settle its small form, whatever stands
further away. Those in front of it are reversed. -/
def settlesSigma (before after : List Char) : Bool :=
  match nearestCased? before, nearestCased? after with
  | some false, _ => true
  | _, some true => true
  | some true, some false => true
  | _, _ => false

/-- The same for each capital sigma of the characters behind `before`, which is reversed. -/
def sigmasSettledFrom (before : List Char) : List Char → Bool
  | [] => true
  | c :: rest => (c != '\u03A3' || settlesSigma before rest) && sigmasSettledFrom (c :: before) rest

/-- Whether a text settles the small forms of all its capital sigmas. -/
def sigmasSettled (cs : List Char) : Bool :=
  sigmasSettledFrom [] cs

/-! ### One character -/

/-- The small form of any character but a capital sigma does not depend on what stands around
it. -/
theorem lowerChar_of_ne {c : Char} (h : c ≠ '\u03A3') (before before' after after' : List Char) :
    lowerChar before c after = lowerChar before' c after' := by
  have hbeq : (c == '\u03A3') = false := beq_eq_false_iff_ne.mpr h
  simp only [lowerChar, hbeq, Bool.false_eq_true, if_false]

/-- A capital sigma becomes a final one behind a cased letter, unless one follows. -/
theorem lowerChar_sigma (before after : List Char) :
    lowerChar before '\u03A3' after
      = if nearestCased? before = some true ∧ nearestCased? after ≠ some true then ['\u03C2']
        else ['\u03C3'] := by
  unfold lowerChar
  rw [if_pos (by decide)]
  simp only [Bool.and_eq_true, Bool.not_eq_true', ← meetsCased_iff, Ne, Bool.not_eq_true]

/-- How many characters a small form has does not depend on what stands around it. -/
theorem length_lowerChar (c : Char) (before before' after after' : List Char) :
    (lowerChar before c after).length = (lowerChar before' c after').length := by
  by_cases h : c = '\u03A3'
  · rw [h, lowerChar_sigma, lowerChar_sigma]
    split <;> split <;> rfl
  · rw [lowerChar_of_ne h before before' after after']

/-- No small form is empty. -/
theorem lowerChar_ne_nil (before : List Char) (c : Char) (after : List Char) :
    lowerChar before c after ≠ [] := by
  unfold lowerChar
  split
  · split <;> exact List.cons_ne_nil _ _
  · split <;> exact List.cons_ne_nil _ _

/-- A sigma that is settled has the same form in every text. -/
theorem lowerChar_of_settled {before after : List Char} (h : settlesSigma before after = true)
    (outer outer' : List Char) :
    lowerChar (before ++ outer) '\u03A3' (after ++ outer') = lowerChar before '\u03A3' after := by
  rw [lowerChar_sigma, lowerChar_sigma, nearestCased?_append, nearestCased?_append]
  unfold settlesSigma at h
  split at h <;> simp_all

/-- A sigma that is not settled takes its other form next to a cased letter, either in front
of what stands around it or behind. -/
theorem lowerChar_ne {before after : List Char} (h : settlesSigma before after = false) :
    (∀ outer, nearestCased? outer = some true →
        lowerChar (before ++ outer) '\u03A3' after ≠ lowerChar before '\u03A3' after)
      ∨ ∀ outer, nearestCased? outer = some true →
          lowerChar before '\u03A3' (after ++ outer) ≠ lowerChar before '\u03A3' after := by
  simp only [lowerChar_sigma, nearestCased?_append]
  unfold settlesSigma at h
  -- Without a letter in front, the form is open in front, and behind a cased one it is open
  -- behind.
  cases hbefore : nearestCased? before with
  | none =>
      left
      intro outer houter
      cases hafter : nearestCased? after with
      | none => simp [houter]
      | some cased => cases cased <;> simp_all
  | some cased =>
      cases cased with
      | false => simp [hbefore] at h
      | true =>
          right
          intro outer houter
          cases hafter : nearestCased? after with
          | none => simp [houter]
          | some cased => cases cased <;> simp_all

/-! ### Parts of texts -/

/-- The lower-case form of a part of a text, between the characters `before` it, which are
reversed, and those `after` it. -/
def lowerWithin (before : List Char) : List Char → List Char → List Char
  | [], _ => []
  | c :: rest, after => lowerChar before c (rest ++ after) ++ lowerWithin (c :: before) rest after

/-- Without anything behind it, a part is lowered as the end of a text. -/
theorem lowerWithin_nil (before cs : List Char) :
    lowerWithin before cs [] = lowerFrom before cs := by
  induction cs generalizing before with
  | nil => rfl
  | cons c rest ih => rw [lowerWithin, lowerFrom, ih, List.append_nil]

/-- A text is lowered part by part, each within what stands around it. -/
theorem lowerFrom_append (before cs after : List Char) :
    lowerFrom before (cs ++ after)
      = lowerWithin before cs after ++ lowerFrom (cs.reverse ++ before) after := by
  induction cs generalizing before with
  | nil => rfl
  | cons c rest ih =>
      rw [List.cons_append, lowerFrom, ih, lowerWithin, List.append_assoc, List.reverse_cons,
        List.append_assoc, List.singleton_append]

/-- How long the small form of a part is does not depend on what stands around it. -/
theorem length_lowerWithin (cs before before' after after' : List Char) :
    (lowerWithin before cs after).length = (lowerWithin before' cs after').length := by
  induction cs generalizing before before' with
  | nil => rfl
  | cons c rest ih =>
      rw [lowerWithin, lowerWithin, List.length_append, List.length_append,
        length_lowerChar c before before', ih]

/-- Only the empty text has an empty small form. -/
theorem lowerFrom_eq_nil_iff (before cs : List Char) : lowerFrom before cs = [] ↔ cs = [] := by
  cases cs with
  | nil => exact iff_of_true rfl rfl
  | cons c rest =>
      refine iff_of_false ?_ (List.cons_ne_nil c rest)
      rw [lowerFrom, List.append_eq_nil_iff]
      exact fun h => lowerChar_ne_nil before c rest h.1

/-- The same for texts. -/
@[simp]
theorem lower_eq_empty_iff (s : String) : lower s = "" ↔ s = "" := by
  rw [lower, String.ofList_eq_empty_iff, lowerFrom_eq_nil_iff, String.toList_eq_nil_iff]

/-- A part whose sigmas are settled has the same small letters in every text. -/
theorem lowerWithin_of_settled {before cs : List Char} (h : sigmasSettledFrom before cs = true)
    (outer outer' : List Char) :
    lowerWithin (before ++ outer) cs outer' = lowerFrom before cs := by
  induction cs generalizing before with
  | nil => rfl
  | cons c rest ih =>
      rw [sigmasSettledFrom, Bool.and_eq_true] at h
      rw [lowerWithin, lowerFrom, ← List.cons_append, ih h.2]
      congr 1
      by_cases hc : c = '\u03A3'
      · subst hc
        exact lowerChar_of_settled (by simpa using h.1) outer outer'
      · exact lowerChar_of_ne hc _ _ _ _

/-- A part with a sigma that is not settled has other small letters next to a cased letter,
either behind it or in front of it. -/
theorem lowerWithin_ne {before cs : List Char} (h : sigmasSettledFrom before cs = false) :
    (∀ outer, nearestCased? outer = some true →
        lowerWithin (before ++ outer) cs [] ≠ lowerFrom before cs)
      ∨ ∀ outer, nearestCased? outer = some true →
          lowerWithin before cs outer ≠ lowerFrom before cs := by
  induction cs generalizing before with
  | nil => cases h
  | cons c rest ih =>
      -- Forms have the same length everywhere, so the whole differs where a piece of it does.
      have hpieces (before' after' : List Char)
          (hsame : lowerWithin before' (c :: rest) after' = lowerFrom before (c :: rest)) :
          lowerChar before' c (rest ++ after') = lowerChar before c rest
            ∧ lowerWithin (c :: before') rest after' = lowerFrom (c :: before) rest :=
        List.append_inj hsame (length_lowerChar c _ _ _ _)
      rw [sigmasSettledFrom, Bool.and_eq_false_iff] at h
      rcases h with hsigma | hrest
      · simp only [Bool.or_eq_false_iff, bne_eq_false_iff_eq] at hsigma
        obtain ⟨rfl, hsigma⟩ := hsigma
        refine (lowerChar_ne hsigma).imp ?_ ?_
        · intro hne outer houter hsame
          exact hne outer houter (by simpa using (hpieces _ _ hsame).1)
        · intro hne outer houter hsame
          exact hne outer houter (hpieces _ _ hsame).1
      · refine (ih hrest).imp ?_ ?_
        · intro hne outer houter hsame
          exact hne outer houter (hpieces _ _ hsame).2
        · intro hne outer houter hsame
          exact hne outer houter (hpieces _ _ hsame).2

/-! ### Finding a text in lower case -/

/-- A text whose sigmas are settled is found in lower case wherever it stands. -/
theorem infix_lower_of_settled {cs text : List Char} (h : sigmasSettled cs = true)
    (hcs : cs <:+: text) : lowerFrom [] cs <:+: lowerFrom [] text := by
  obtain ⟨front, back, rfl⟩ := hcs
  rw [List.append_assoc, lowerFrom_append, lowerFrom_append, List.append_nil]
  refine ⟨lowerWithin [] front (cs ++ back), lowerFrom (cs.reverse ++ front.reverse) back, ?_⟩
  rw [← lowerWithin_of_settled h front.reverse back, List.nil_append, List.append_assoc]

/-- Two small letters, of which one at least is not a given character. -/
def smallLetters : List Char :=
  ['a', 'b']

/-- A small letter is its own small form. -/
theorem lowerChar_smallLetter {x : Char} (hx : x ∈ smallLetters) (before after : List Char) :
    lowerChar before x after = [x] := by
  have hne : x ≠ '\u03A3' := by
    rintro rfl
    exact absurd hx (by decide)
  have halone : ∀ y ∈ smallLetters, lowerChar [] y [] = [y] :=
    List.all_iff_forall_prop.mp (by decide)
  rw [lowerChar_of_ne hne before [] after [], halone x hx]

/-- A small letter is cased. -/
theorem nearestCased?_smallLetter {x : Char} (hx : x ∈ smallLetters) :
    nearestCased? [x] = some true := by
  have hcased : ∀ y ∈ smallLetters, nearestCased? [y] = some true :=
    List.all_iff_forall_prop.mp (by decide)
  exact hcased x hx

/-- There is a small letter that differs from any given character. -/
theorem exists_smallLetter_ne (c? : Option Char) : ∃ x ∈ smallLetters, c? ≠ some x := by
  by_cases h : c? = some 'a'
  · exact ⟨'b', by decide, by rw [h]; decide⟩
  · exact ⟨'a', by decide, h⟩

/-- A text is not found behind a letter that it does not begin with, in a text as long as
itself. -/
theorem not_infix_cons {part other : List Char} {x : Char} (hne : part ≠ [])
    (hhead : part.head? ≠ some x) (hlength : part.length = other.length) (hother : other ≠ part) :
    ¬ part <:+: x :: other := by
  rw [List.infix_cons_iff]
  rintro (hstart | hinside)
  · obtain ⟨c, rest, rfl⟩ := List.exists_cons_of_ne_nil hne
    rw [List.cons_prefix_cons] at hstart
    exact hhead (congrArg some hstart.1)
  · exact hother (hinside.eq_of_length hlength).symm

/-- If a text has a sigma that is not settled, then some text holds it and does not hold its
small letters in lower case. -/
theorem exists_not_infix_lower {cs : List Char} (h : sigmasSettled cs = false) :
    ∃ text, cs <:+: text ∧ ¬ lowerFrom [] cs <:+: lowerFrom [] text := by
  have hcs : lowerFrom [] cs ≠ [] := by
    rw [Ne, lowerFrom_eq_nil_iff]
    rintro rfl
    cases h
  have hlength (before after : List Char) :
      (lowerFrom [] cs).length = (lowerWithin before cs after).length := by
    rw [← lowerWithin_nil]
    exact length_lowerWithin cs _ _ _ _
  -- With two letters to choose from, one cannot be mistaken for a letter of the text.
  rcases lowerWithin_ne h with hfront | hback
  · obtain ⟨x, hx, hhead⟩ := exists_smallLetter_ne (lowerFrom [] cs).head?
    refine ⟨x :: cs, (List.suffix_cons x cs).isInfix, ?_⟩
    rw [lowerFrom, lowerChar_smallLetter hx, List.singleton_append, ← lowerWithin_nil [x] cs]
    exact not_infix_cons hcs hhead (hlength _ _) (hfront [x] (nearestCased?_smallLetter hx))
  · obtain ⟨x, hx, hlast⟩ := exists_smallLetter_ne (lowerFrom [] cs).getLast?
    refine ⟨cs ++ [x], (List.prefix_append cs [x]).isInfix, ?_⟩
    rw [lowerFrom_append, lowerFrom, lowerChar_smallLetter hx, lowerFrom, List.append_nil,
      ← List.reverse_infix, List.reverse_append, List.reverse_singleton, List.singleton_append]
    refine not_infix_cons (by simpa using hcs) (by simpa using hlast) ?_ ?_
    · rw [List.length_reverse, List.length_reverse]
      exact hlength _ _
    · rw [Ne, List.reverse_inj]
      exact hback [x] (nearestCased?_smallLetter hx)

end ScenarioSteps.Text
