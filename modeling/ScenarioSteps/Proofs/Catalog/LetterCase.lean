import ScenarioSteps.Proofs.Catalog.Words
import ScenarioSteps.Proofs.Pattern.Priority
import ScenarioSteps.Proofs.Regex.LetterCase

/-!
# `ScenarioSteps.Proofs.Catalog.LetterCase`: dispatch does not see letter case

Two sentences that differ in the case of ASCII letters only are told apart by no expression
whose sets ignore case. So over a registry of such expressions they have the same matches in
the same order, and their captures stand at the same places (`Registry.forall₂_resolveAll`).

The expressions of the catalog are read without regard to case. This makes a set of each
letter, and leaves the negated classes as they are, which have all letters. That it makes all
sets ignore case is checked over the catalog (`ignoresCase_catalog`).
-/

set_option autoImplicit false

namespace ScenarioSteps

/-- Matches of two sentences by one pattern, whose captures stand at the same places. -/
structure Match.Corresponds (a b : String) (m m' : Match) : Prop where
  entry_eq : m.entry = m'.entry
  captures : Text.SamePlaces a.toList b.toList m.captures m'.captures

/-- All sets in the expressions of the catalog ignore case. -/
theorem ignoresCase_catalog : ∀ regex ∈ catalogRegexes, regex.ignoresCase = true :=
  List.all_eq_true.mp (by decide +kernel)

section

variable {a b : String}

/-- An entry recognises both sentences or neither. -/
theorem Entry.rel_recognise? {entry : Entry} (hloops : entry.regex.loopsConsume = true)
    (hcase : entry.regex.ignoresCase = true) (h : Text.sameAscii a b = true) :
    Option.Rel (Match.Corresponds a b) (entry.recognise? (Text.trimmed a))
      (entry.recognise? (Text.trimmed b)) := by
  have hlower : a.toList.map Char.toLower = b.toList.map Char.toLower := beq_iff_eq.mp h
  have htrimmed : (Text.trimmed a).toList.map Char.toLower
      = (Text.trimmed b).toList.map Char.toLower := by
    rw [Text.trimmed, Text.trimmed, String.toList_ofList, String.toList_ofList,
      ← Text.trim_map_toLower, hlower, Text.trim_map_toLower]
  have hcaptures := Regex.rel_captures? hloops hcase htrimmed
  rw [Entry.recognise?, Entry.recognise?]
  generalize entry.regex.captures? (Text.trimmed a) = values? at hcaptures ⊢
  generalize entry.regex.captures? (Text.trimmed b) = values'? at hcaptures ⊢
  cases hcaptures with
  | none => exact .none
  | some hplaces =>
      rw [Text.trimmed, Text.trimmed, String.toList_ofList, String.toList_ofList] at hplaces
      exact .some ⟨rfl, hplaces.of_trim hlower⟩

namespace Registry

variable {r : Registry}

/-- Over expressions that ignore case, the matches of both sentences correspond one by
one. -/
theorem forall₂_resolveAll
    (hentries : ∀ entry ∈ r.entries,
      entry.regex.loopsConsume = true ∧ entry.regex.ignoresCase = true)
    (h : Text.sameAscii a b = true) :
    List.Forall₂ (Match.Corresponds a b) (r.resolveAll a) (r.resolveAll b) := by
  have hsame : List.Forall₂ (fun entry entry' => entry = entry' ∧ entry ∈ r.entries)
      r.entries r.entries := List.forall₂_same.mpr fun _ hmem => ⟨rfl, hmem⟩
  refine List.rel_filterMap ?_ hsame
  rintro entry _ ⟨rfl, hmem⟩
  obtain ⟨hloops, hcase⟩ := hentries entry hmem
  exact Entry.rel_recognise? hloops hcase h

/-- A sentence goes to its first match, so both go to the same pattern or to none. -/
theorem rel_resolve? (h : List.Forall₂ (Match.Corresponds a b) (r.resolveAll a) (r.resolveAll b)) :
    Option.Rel (Match.Corresponds a b) (r.resolve? a) (r.resolve? b) := by
  rw [resolve?_eq_head?, resolve?_eq_head?]
  generalize r.resolveAll a = found at h ⊢
  generalize r.resolveAll b = found' at h ⊢
  cases h with
  | nil => exact .none
  | cons hfirst _ => exact .some hfirst

/-- The standard registry does not see letter case. Two sentences that differ in the case of
ASCII letters only go to the same pattern or to none, and all their matches are by the same
patterns in the same order. The same groups take part in two such matches, and they capture
the parts of the two sentences that stand at the same places. -/
theorem standard_ignores_case (hr : standard = .ok r) (h : Text.sameAscii a b = true) :
    Option.Rel (Match.Corresponds a b) (r.resolve? a) (r.resolve? b)
      ∧ List.Forall₂ (Match.Corresponds a b) (r.resolveAll a) (r.resolveAll b) := by
  have hentries : ∀ entry ∈ r.entries,
      entry.regex.loopsConsume = true ∧ entry.regex.ignoresCase = true := by
    obtain ⟨r', hr', -, hregexes⟩ := standard_entries
    obtain rfl : r = r' := Except.ok.inj (hr.symm.trans hr')
    intro entry hmem
    have hregex : entry.regex ∈ catalogRegexes := hregexes ▸ List.mem_map_of_mem hmem
    exact ⟨(plain_of_mem_standard hr hmem).1, ignoresCase_catalog _ hregex⟩
  have hall := forall₂_resolveAll hentries h
  exact ⟨rel_resolve? hall, hall⟩

end Registry

end

namespace Registry

/-- A sentence that a pattern recognises, in two spellings with blanks around them. -/
theorem sentence_in_two_spellings :
    ∃ r m, standard = .ok r ∧ r.resolve? " i CLICK on THE \"Go Back\" Button " = some m
      ∧ m.key = "interaction/click-button"
      ∧ Text.sameAscii " i CLICK on THE \"Go Back\" Button " " I click ON the \"gO bACK\" buTTon "
        = true
      ∧ Option.Rel
          (Match.Corresponds " i CLICK on THE \"Go Back\" Button "
            " I click ON the \"gO bACK\" buTTon ")
          (r.resolve? " i CLICK on THE \"Go Back\" Button ")
          (r.resolve? " I click ON the \"gO bACK\" buTTon ")
      ∧ List.Forall₂
          (Match.Corresponds " i CLICK on THE \"Go Back\" Button "
            " I click ON the \"gO bACK\" buTTon ")
          (r.resolveAll " i CLICK on THE \"Go Back\" Button ")
          (r.resolveAll " I click ON the \"gO bACK\" buTTon ") := by
  obtain ⟨r, m, hr, hm, hkey, -⟩ := exists_resolve?_standard
    " i CLICK on THE \"Go Back\" Button " "interaction/click-button" [some "Go Back"]
    (by decide +kernel)
  have hsame : Text.sameAscii " i CLICK on THE \"Go Back\" Button "
      " I click ON the \"gO bACK\" buTTon " = true := by decide
  exact ⟨r, m, hr, hm, hkey, hsame, standard_ignores_case hr hsame⟩

end Registry

end ScenarioSteps
