import ScenarioSteps.Code.Value
import ScenarioSteps.Proofs.Text.CaseFold
import ScenarioSteps.Proofs.Text.Lines
import ScenarioSteps.Proofs.Text.Trim

/-!
# `ScenarioSteps.Proofs.Catalog.PagePath`: the path of a page is a normal form

A page is named by a path, an address or words. A path or an address stays as it is, but for the
blanks around it. Words are put together to a path that stays as it is in the same way, so no
further reading changes the path of a page (`pagePath_normal`).

* `Text.words_trim`: blanks at the ends of a name are in none of its words.
* `Text.isBlank_of_mem_lowerFrom`: no character turns into a blank in lower case. So a slug has
  no blank, and the path of a page is trimmed as it stands.
* `pagePath_of_words`: a name that is no path or address has the path of its slug.
-/

set_option autoImplicit false

namespace ScenarioSteps

namespace Text

/-! ### Words -/

/-- A blank ends a word. -/
theorem words_append_cons (first rest : List Char) {c : Char} (hc : isBlank c = true) :
    words (first ++ c :: rest) = words first ++ words rest := by
  rw [words, splitBy_append_cut _ _ _ hc, List.filter_append]
  rfl

/-- Blanks have no words. -/
theorem words_of_blank {cs : List Char} (h : ∀ c ∈ cs, isBlank c = true) : words cs = [] := by
  induction cs with
  | nil => rfl
  | cons c cs ih =>
      rw [List.forall_mem_cons] at h
      exact (words_append_cons [] cs h.1).trans (ih h.2)

/-- Blanks behind a text add no words. -/
theorem words_append_blanks (cs : List Char) {blanks : List Char}
    (h : ∀ c ∈ blanks, isBlank c = true) : words (cs ++ blanks) = words cs := by
  cases blanks with
  | nil => rw [List.append_nil]
  | cons c blanks =>
      rw [List.forall_mem_cons] at h
      rw [words_append_cons cs blanks h.1, words_of_blank h.2, List.append_nil]

/-- Nor do blanks in front of it. -/
theorem words_blanks_append (cs : List Char) {blanks : List Char}
    (h : ∀ c ∈ blanks, isBlank c = true) : words (blanks ++ cs) = words cs := by
  induction blanks with
  | nil => rfl
  | cons c blanks ih =>
      rw [List.forall_mem_cons] at h
      exact (words_append_cons [] (blanks ++ cs) h.1).trans (ih h.2)

/-- The words of a text stand between the blanks at its ends. -/
theorem words_trim (cs : List Char) : words (trim cs) = words cs := by
  obtain ⟨behind, hbehind, hblank⟩ := exists_trimEnd_append (trimStart cs)
  have hfront : ∀ c ∈ cs.takeWhile isBlank, isBlank c = true :=
    fun c hc => List.mem_takeWhile_imp hc
  calc words (trim cs)
    _ = words (trimEnd (trimStart cs) ++ behind) := (words_append_blanks _ hblank).symm
    _ = words (trimStart cs) := by rw [← hbehind]
    _ = words (cs.takeWhile isBlank ++ trimStart cs) := (words_blanks_append _ hfront).symm
    _ = words cs := by rw [takeWhile_append_trimStart]

/-- No word has a blank. -/
theorem isBlank_of_mem_words {cs word : List Char} (h : word ∈ words cs) :
    ∀ c ∈ word, isBlank c = false :=
  not_mem_of_mem_splitBy isBlank cs word (List.mem_filter.mp h).1

/-! ### Lower case -/

/-- A code point stays where it is, or a run moves it. -/
theorem shifted_cases (runs : List Run) (n : Nat) :
    shifted runs n = n
      ∨ ∃ r ∈ runs, r.first ≤ n ∧ n ≤ r.last ∧ shifted runs n = ((n : Int) + r.shift).toNat := by
  induction runs with
  | nil => exact .inl rfl
  | cons r runs ih =>
      rw [shifted]
      split
      · exact .inl rfl
      · next hfirst =>
          split
          · next hcovers =>
              simp only [Run.covers, Bool.and_eq_true, decide_eq_true_eq] at hcovers
              exact .inr ⟨r, List.mem_cons_self, hcovers.1.1, hcovers.1.2, rfl⟩
          · exact ih.imp_right fun ⟨r', hr', hmoved⟩ =>
              ⟨r', List.mem_cons_of_mem r hr', hmoved⟩

/-- No run of the lower case reaches a blank. -/
theorem lowerRuns_apart : (lowerRuns.all fun r => blankRanges.all fun i =>
    decide (0 < i.1 ∧ ((r.last : Int) + r.shift < i.1 ∨ (i.2 : Int) < r.first + r.shift)))
      = true := by
  decide

/-- No code of another character is moved among the blanks in lower case. -/
theorem within_blankRanges_shifted {n : Nat} (h : within blankRanges n = false) :
    within blankRanges (shifted lowerRuns n) = false := by
  rcases shifted_cases lowerRuns n with hsame | ⟨r, hr, hfirst, hlast, hmoved⟩
  · rwa [hsame]
  · rw [hmoved, ← Bool.not_eq_true]
    intro hwithin
    obtain ⟨i, hi, hlo, hhi⟩ := CharSet.exists_of_within hwithin
    have hapart := of_decide_eq_true
      (List.all_eq_true.mp (List.all_eq_true.mp lowerRuns_apart r hr) i hi)
    omega

/-- Where a number is no code point, the character for it is no blank either. -/
theorem isBlank_ofNat {n : Nat} (h : within blankRanges n = false) :
    isBlank (Char.ofNat n) = false := by
  by_cases hn : n.isValidChar
  · rw [Char.ofNat, dif_pos hn]
    exact h
  · rw [Char.ofNat, dif_neg hn]
    decide

/-- A character that is no blank has none in its lower case. -/
theorem isBlank_of_mem_lowerChar {c : Char} (hc : isBlank c = false) (before after : List Char) :
    ∀ d ∈ lowerChar before c after, isBlank d = false := by
  unfold lowerChar
  split
  · split <;> exact List.forall_mem_singleton.mpr (by decide)
  · split
    · exact List.all_iff_forall_prop.mp (by decide)
    · exact List.forall_mem_singleton.mpr (isBlank_ofNat (within_blankRanges_shifted hc))

/-- A text without blanks has none in lower case. -/
theorem isBlank_of_mem_lowerFrom {cs : List Char} (h : ∀ c ∈ cs, isBlank c = false)
    (before : List Char) : ∀ d ∈ lowerFrom before cs, isBlank d = false := by
  induction cs generalizing before with
  | nil => exact List.forall_mem_nil _
  | cons c rest ih =>
      rw [List.forall_mem_cons] at h
      rw [lowerFrom, List.forall_mem_append]
      exact ⟨isBlank_of_mem_lowerChar h.1 before rest, ih h.2 (c :: before)⟩

end Text

/-! ### Slugs -/

/-- The words of a name, each in lower case. -/
def lowerWords (name : String) : List String :=
  (Text.words name.toList).map fun word => Text.lower (String.ofList word)

/-- A slug is made of the words in lower case. -/
theorem slug_eq (name : String) : slug name = "-".intercalate (lowerWords name) :=
  rfl

/-- The words of a trimmed name are those of the name. -/
theorem lowerWords_trimmed (name : String) : lowerWords (Text.trimmed name) = lowerWords name := by
  rw [lowerWords, Text.trimmed, String.toList_ofList, Text.words_trim]
  rfl

/-- So is its slug. -/
theorem slug_trimmed (name : String) : slug (Text.trimmed name) = slug name := by
  rw [slug_eq, lowerWords_trimmed, slug_eq]

/-- No word of a name has a blank. -/
theorem isBlank_of_mem_lowerWords {name word : String} (h : word ∈ lowerWords name) :
    ∀ c ∈ word.toList, Text.isBlank c = false := by
  obtain ⟨cs, hcs, rfl⟩ := List.mem_map.mp h
  rw [Text.lower, String.toList_ofList, String.toList_ofList]
  exact Text.isBlank_of_mem_lowerFrom (Text.isBlank_of_mem_words hcs) []

/-- A slug has no blank. -/
theorem isBlank_of_mem_slug (name : String) : ∀ c ∈ (slug name).toList, Text.isBlank c = false := by
  rw [slug_eq, String.toList_intercalate]
  refine Text.forall_mem_intercalate (List.all_iff_forall_prop.mp (by decide)) ?_
  exact List.forall_mem_map.mpr fun word hword => isBlank_of_mem_lowerWords hword

/-! ### Paths -/

/-- A name that is a path or an address by itself. -/
def IsAddress (name : String) : Prop :=
  ∃ start ∈ addressStarts, start.toList <+: (Text.trimmed name).toList

instance (name : String) : Decidable (IsAddress name) :=
  inferInstanceAs (Decidable (∃ start ∈ addressStarts, start.toList <+: (Text.trimmed name).toList))

/-- The test for an address says whether the name is one. -/
theorem any_addressStarts_iff (name : String) :
    (addressStarts.any fun start => start.toList.isPrefixOf (Text.trimmed name).toList) = true
      ↔ IsAddress name := by
  simp only [List.any_eq_true, List.isPrefixOf_iff_prefix, IsAddress]

/-- An address is its own path, trimmed. -/
theorem pagePath_of_address {name : String} (h : IsAddress name) :
    pagePath name = Text.trimmed name := by
  simp only [pagePath, (any_addressStarts_iff name).mpr h, if_true]

/-- A name that is neither a path nor an address has the path of its slug. The root is `home`. -/
theorem pagePath_of_words {name : String} (h : ¬ IsAddress name) :
    pagePath name = "/" ++ if slug name = "home" then "" else slug name := by
  have hany : ¬ (addressStarts.any fun start =>
      start.toList.isPrefixOf (Text.trimmed name).toList) = true :=
    mt (any_addressStarts_iff name).mp h
  simp only [pagePath, if_neg hany, slug_trimmed, Bool.or_eq_true, String.isEmpty_iff, beq_iff_eq]
  by_cases hhome : slug name = "home"
  · simp only [hhome, or_true, if_true]
    rfl
  · by_cases hempty : slug name = ""
    · rw [hempty]
      rfl
    · simp only [hhome, hempty, or_false, if_false]

/-- What stands behind the slash of such a path has no blank. -/
theorem isBlank_of_mem_rooted (name : String) :
    ∀ c ∈ (if slug name = "home" then "" else slug name).toList, Text.isBlank c = false := by
  split
  · exact List.forall_mem_nil _
  · exact isBlank_of_mem_slug name

/-- The path of a page has no blanks around it and is a path or an address by itself. -/
theorem trimmed_pagePath (name : String) :
    Text.trimmed (pagePath name) = pagePath name ∧ IsAddress (pagePath name) := by
  by_cases h : IsAddress name
  · have htrimmed : Text.trimmed (Text.trimmed name) = Text.trimmed name := by
      rw [Text.trimmed, Text.trimmed, String.toList_ofList, Text.trim_trim]
    rw [pagePath_of_address h, IsAddress, htrimmed]
    exact ⟨rfl, h⟩
  · have hpath : ∀ c ∈ (pagePath name).toList, Text.isBlank c = false := by
      rw [pagePath_of_words h, String.toList_append, List.forall_mem_append]
      exact ⟨List.all_iff_forall_prop.mp (by decide), isBlank_of_mem_rooted name⟩
    have htrimmed : Text.trimmed (pagePath name) = pagePath name := by
      rw [Text.trimmed, Text.trim_eq_self, String.ofList_toList]
      · exact fun c hc => hpath c (List.mem_of_head? hc)
      · exact fun c hc => hpath c (List.mem_of_getLast? hc)
    refine ⟨htrimmed, "/", by decide, ?_⟩
    rw [htrimmed, pagePath_of_words h, String.toList_append]
    exact List.prefix_append _ _

/-- Paths of pages are normal forms. No further reading changes the path of a page. A name that
is a path or an address is trimmed, and any other one gets a slash and its slug, which has no
blank, or nothing for `home`. Two such names get the same path if they have the same words in
lower case. -/
theorem pagePath_normal :
    (∀ name, pagePath (pagePath name) = pagePath name)
      ∧ (∀ name, IsAddress name → pagePath name = Text.trimmed name)
      ∧ (∀ name, ¬ IsAddress name → ∃ path, pagePath name = "/" ++ path
          ∧ (∀ c ∈ path.toList, Text.isBlank c = false)
          ∧ path = if slug name = "home" then "" else slug name)
      ∧ ∀ a b, ¬ IsAddress a → ¬ IsAddress b → lowerWords a = lowerWords b →
          pagePath a = pagePath b := by
  refine ⟨fun name => ?_, fun name h => pagePath_of_address h, fun name h => ?_,
    fun a b ha hb hwords => ?_⟩
  · obtain ⟨htrimmed, haddress⟩ := trimmed_pagePath name
    rw [pagePath_of_address haddress, htrimmed]
  · exact ⟨_, pagePath_of_words h, isBlank_of_mem_rooted name, rfl⟩
  · rw [pagePath_of_words ha, pagePath_of_words hb, slug_eq, slug_eq, hwords]

/-- A name in capital letters with wide blanks, the same in small letters, and an address. Each
sigma has the form of its place in its own word. -/
theorem pagePath_of_capitals :
    let capitals := " ΟΔΟΣ\u2003ΣΑΣ\n"
    let small := "οδος σας"
    let address := "\thttps://a.b/ΟΔΟΣ "
    ¬ IsAddress capitals ∧ ¬ IsAddress small ∧ IsAddress address
      ∧ lowerWords capitals = lowerWords small
      ∧ pagePath capitals = pagePath small
      ∧ pagePath small = "/οδος-σας"
      ∧ pagePath address = Text.trimmed address := by
  intro capitals small address
  have hcapitals : ¬ IsAddress capitals := by decide
  have hsmall : ¬ IsAddress small := by decide
  have haddress : IsAddress address := by decide
  have hwords : lowerWords capitals = lowerWords small := by decide
  obtain ⟨-, hkept, -, hsame⟩ := pagePath_normal
  exact ⟨hcapitals, hsmall, haddress, hwords, hsame _ _ hcapitals hsmall hwords,
    by decide, hkept _ haddress⟩

end ScenarioSteps
