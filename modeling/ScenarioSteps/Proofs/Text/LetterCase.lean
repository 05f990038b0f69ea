import ScenarioSteps.Proofs.Text.CaseFold
import ScenarioSteps.Proofs.Text.Trim

/-!
# `ScenarioSteps.Proofs.Text.LetterCase`: the case of ASCII letters

`Char.toLower` moves the capital letters of ASCII and nothing else (`toLower_eq_or`). It
makes no blank and takes none away, so two texts that differ in letter case only are trimmed
by the same numbers of characters.

Parts of such texts are compared by their places (`SamePlaces`). What stands at the same
places of the trimmed texts stands at the same places of the texts (`SamePlaces.of_trim`).
-/

set_option autoImplicit false

namespace ScenarioSteps

/-- A small letter is the character itself, or stands 32 places behind its capital. -/
theorem toLower_eq_or (c : Char) :
    c.toLower = c ∨ (65 ≤ c.toNat ∧ c.toNat ≤ 90) ∧ c.toLower.toNat = c.toNat + 32 := by
  unfold Char.toLower
  split
  · next h =>
      have hlow : 65 ≤ c.val.toNat := UInt32.le_iff_toNat_le.mp h.1
      have hhigh : c.val.toNat ≤ 90 := UInt32.le_iff_toNat_le.mp h.2
      refine .inr ⟨⟨hlow, hhigh⟩, ?_⟩
      show (c.val + 32).toNat = c.val.toNat + 32
      have hshift : (32 : UInt32).toNat = 32 := rfl
      rw [UInt32.toNat_add]
      omega
  · exact .inl rfl

/-- The small form of a character is a blank exactly if the character is. -/
theorem isBlank_toLower (c : Char) : Text.isBlank c.toLower = Text.isBlank c := by
  -- Between the space and the first control behind ASCII there is no blank.
  have hbetween : ∀ d : Char, 33 ≤ d.toNat → d.toNat ≤ 132 → Text.isBlank d = false := by
    intro d hlow hhigh
    simp only [Text.isBlank, Text.blankRanges, Text.within]
    simp
    omega
  rcases toLower_eq_or c with heq | ⟨⟨hlow, hhigh⟩, hlower⟩
  · rw [heq]
  · rw [hbetween c.toLower (by omega) (by omega), hbetween c (by omega) (by omega)]

/-- A small form is its own small form. -/
theorem toLower_toLower (c : Char) : c.toLower.toLower = c.toLower := by
  rcases toLower_eq_or c.toLower with heq | ⟨⟨hlow, hhigh⟩, -⟩
  · exact heq
  · rcases toLower_eq_or c with heq | ⟨⟨hlow', -⟩, hlower⟩
    · rw [heq, heq]
    · omega

namespace Text

/-- A character that is no letter is its own small form. -/
theorem toLower_of_not_mem {c : Char} (h : c ∉ asciiLetters) : c.toLower = c := by
  have hcapitals : (CharSet.mk [(65, 90)]).members ⊆ asciiLetters := by decide
  rcases toLower_eq_or c with heq | ⟨⟨hlow, hhigh⟩, -⟩
  · exact heq
  · have hmem : (CharSet.mk [(65, 90)]).mem c = true := by
      simp [CharSet.mem, within, hlow, hhigh]
    exact absurd (hcapitals (CharSet.mem_members hmem)) h

/-- The small form of a text is trimmed as the text is. -/
theorem trim_map_toLower (cs : List Char) :
    trim (cs.map Char.toLower) = (trim cs).map Char.toLower :=
  trim_map isBlank_toLower cs

/-! ### Parts at the same places -/

/-- The place of a part of a text. -/
structure Span where
  /-- The number of characters in front. -/
  start : Nat
  length : Nat

/-- The part of a text at a place. -/
def part (cs : List Char) (span : Span) : String :=
  String.ofList ((cs.drop span.start).take span.length)

/-- Values that are parts of two texts, one value of each text at the same place, or missing
from both. -/
def SamePlaces (a b : List Char) (values values' : List (Option String)) : Prop :=
  ∃ spans : List (Option Span),
    (∀ span? ∈ spans, ∀ span ∈ span?, span.start + span.length ≤ a.length)
      ∧ values = spans.map (Option.map (part a)) ∧ values' = spans.map (Option.map (part b))

/-- The number of blanks that a text begins with. -/
def lead (cs : List Char) : Nat :=
  (cs.takeWhile isBlank).length

/-- As many blanks stand in front of it. -/
theorem lead_map_toLower (cs : List Char) : lead (cs.map Char.toLower) = lead cs := by
  have hblank : isBlank ∘ Char.toLower = isBlank := funext isBlank_toLower
  rw [lead, List.takeWhile_map, hblank, List.length_map, lead]

/-- A text is its first blanks, its trimmed form and its last blanks. -/
theorem exists_eq_trim_append (cs : List Char) :
    ∃ before behind, cs = before ++ (trim cs ++ behind) ∧ before.length = lead cs := by
  obtain ⟨behind, hbehind, -⟩ := exists_trimEnd_append (trimStart cs)
  refine ⟨cs.takeWhile isBlank, behind, ?_, rfl⟩
  rw [trim, ← hbehind]
  exact List.takeWhile_append_dropWhile.symm

/-- A part of the trimmed text, further behind in the text. -/
theorem part_trim {cs : List Char} {span : Span}
    (h : span.start + span.length ≤ (trim cs).length) :
    part (trim cs) span = part cs ⟨lead cs + span.start, span.length⟩
      ∧ lead cs + span.start + span.length ≤ cs.length := by
  obtain ⟨before, behind, hcs, hlead⟩ := exists_eq_trim_append cs
  have hlength := congrArg List.length hcs
  rw [List.length_append, List.length_append] at hlength
  have hpart : ((trim cs).drop span.start).take span.length
      = (cs.drop (lead cs + span.start)).take span.length := by
    rw [← hlead]
    conv_rhs => rw [hcs]
    rw [List.drop_length_add_append, List.drop_append_of_le_length (by omega),
      List.take_append_of_le_length (by rw [List.length_drop]; omega)]
  exact ⟨congrArg String.ofList hpart, by omega⟩

/-- What stands at the same places of the trimmed texts does so in the texts. -/
theorem SamePlaces.of_trim {a b : List Char} {values values' : List (Option String)}
    (hlower : a.map Char.toLower = b.map Char.toLower)
    (h : SamePlaces (trim a) (trim b) values values') : SamePlaces a b values values' := by
  obtain ⟨spans, hfit, rfl, rfl⟩ := h
  -- As many blanks are trimmed from either text, so all places move by the same number.
  have hlead : lead b = lead a := by
    rw [← lead_map_toLower b, ← hlower, lead_map_toLower]
  have hlength : (trim b).length = (trim a).length := by
    rw [← List.length_map Char.toLower, ← trim_map_toLower, ← hlower, trim_map_toLower,
      List.length_map]
  refine ⟨spans.map (Option.map fun span => ⟨lead a + span.start, span.length⟩), ?_, ?_, ?_⟩
  · intro span? hspan? span hspan
    obtain ⟨inner?, hinner?, rfl⟩ := List.mem_map.mp hspan?
    obtain ⟨inner, hinner, rfl⟩ := Option.map_eq_some_iff.mp hspan
    exact (part_trim (hfit inner? hinner? inner hinner)).2
  · rw [List.map_map]
    refine List.map_congr_left fun span? hspan? => ?_
    rw [Function.comp_apply, Option.map_map]
    exact Option.map_congr fun span hspan => (part_trim (hfit span? hspan? span hspan)).1
  · rw [List.map_map]
    refine List.map_congr_left fun span? hspan? => ?_
    rw [Function.comp_apply, Option.map_map]
    refine Option.map_congr fun span hspan => ?_
    have hfits : span.start + span.length ≤ (trim b).length :=
      hlength ▸ hfit span? hspan? span hspan
    rw [(part_trim hfits).1, hlead]
    rfl

end Text

end ScenarioSteps
