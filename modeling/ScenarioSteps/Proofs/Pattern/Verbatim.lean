import ScenarioSteps.Proofs.Pattern.Search

/-!
# `ScenarioSteps.Proofs.Pattern.Verbatim`: which queries are found wherever they stand

A search compares a query and the places of a pattern in lower case. One would expect that
it finds at least the patterns that hold the query letter by letter, with the weights of all
places that do (`StepPattern.verbatimScore`). It does so for the queries whose capital
sigmas have the same small form in every text (`Text.sigmasSettled`), and for no others:
a sigma at the end of the query becomes a final sigma, which it is not within a word.

* `StepPattern.verbatimScore_le_score` takes the weights over to lower case.
* `Registry.exists_missed` writes a description that holds the query and hides it from the
  search.
* `Registry.verbatim_found_iff` is the whole law.
-/

set_option autoImplicit false

namespace ScenarioSteps

/-- Whether a text holds a query letter by letter. -/
def holds (text query : String) : Bool :=
  Text.contains query.toList text.toList

/-- The weights of all places of a pattern that hold a query letter by letter. -/
def StepPattern.verbatimScore (p : StepPattern) (query : String) : Nat :=
  (if holds p.source query then sourceWeight else 0)
    + (if p.tags.any (holds · query) then tagWeight else 0)
    + (if holds p.description query then descriptionWeight else 0)

/-- A text mentions a query if its small form holds the small form of the query. -/
theorem mentions_lower_iff {text query : String} :
    mentions text (Text.lower query) = true
      ↔ Text.lowerFrom [] query.toList <:+: Text.lowerFrom [] text.toList := by
  rw [mentions, Text.contains_iff, Text.lower, Text.lower, String.toList_ofList,
    String.toList_ofList]

/-- A text that holds a query whose sigmas are settled mentions it. -/
theorem mentions_of_holds {text query : String} (h : Text.sigmasSettled query.toList = true)
    (hholds : holds text query = true) : mentions text (Text.lower query) = true := by
  rw [holds, Text.contains_iff] at hholds
  exact mentions_lower_iff.mpr (Text.infix_lower_of_settled h hholds)

namespace StepPattern

variable {query : String}

/-- Each weight that a query has letter by letter, it has in lower case. -/
theorem verbatimScore_le_score (h : Text.sigmasSettled query.toList = true) (p : StepPattern) :
    p.verbatimScore query ≤ p.score (Text.lower query) := by
  have hweight {found found' : Bool} (weight : Nat) (himp : found = true → found' = true) :
      (if found then weight else 0) ≤ if found' then weight else 0 := by
    cases found with
    | false => exact Nat.zero_le _
    | true => rw [if_pos rfl, if_pos (himp rfl)]
  refine Nat.add_le_add (Nat.add_le_add ?_ ?_) ?_
  · exact hweight sourceWeight (mentions_of_holds h)
  · refine hweight tagWeight fun hany => ?_
    obtain ⟨tag, htag, hholds⟩ := List.any_eq_true.mp hany
    exact List.any_eq_true.mpr ⟨tag, htag, mentions_of_holds h hholds⟩
  · exact hweight descriptionWeight (mentions_of_holds h)

/-- A pattern whose description holds a query has the weight of the description. -/
theorem verbatimScore_pos {p : StepPattern} (h : holds p.description query = true) :
    0 < p.verbatimScore query := by
  refine Nat.lt_of_lt_of_le ?_ (Nat.le_add_left _ _)
  rw [if_pos h]
  decide

/-- A pattern with nothing but a description has no other place that mentions a query. -/
theorem score_searchable (description : String) (hquery : query ≠ "")
    (h : mentions description query = false) : (searchable "" [] description).score query = 0 := by
  have hsource : mentions "" query = false := by
    rw [Bool.eq_false_iff, Ne, mentions, Text.contains_iff]
    show ¬ query.toList <:+: []
    rwa [List.infix_nil, String.toList_eq_nil_iff]
  simp [score, searchable, hsource, h]

end StepPattern

namespace Registry

/-- A blank query finds nothing. -/
theorem search_of_blank (r : Registry) {query : String} (h : Text.trimmed query = "") :
    r.search query = [] := by
  have hlower : Text.lower (Text.trimmed query) = "" := (Text.lower_eq_empty_iff _).mpr h
  rw [search, hlower]
  rfl

/-- In a registry with one pattern that has no score for a query, nothing is found. -/
theorem search_put_empty {entry : Entry} {query : String} (hquery : Text.trimmed query ≠ "")
    (hscore : entry.pattern.score (Text.lower (Text.trimmed query)) = 0) :
    (empty.put entry).search query = [] := by
  rw [List.eq_nil_iff_forall_not_mem]
  intro hit hhit
  obtain ⟨hmem, hsame, hpositive⟩ := (mem_search_iff _ hquery).mp hhit
  rw [entries_put_empty, List.mem_singleton] at hmem
  rw [hsame, hmem, hscore] at hpositive
  exact Nat.lt_irrefl 0 hpositive

/-- A search that finds nothing in a registry with one description misses a query that stands
in it. -/
theorem exists_missed_in {query : String} (description : String)
    (hholds : holds description (Text.trimmed query) = true)
    (hmissed : ∀ entry : Entry, entry.pattern = searchable "" [] description →
      (empty.put entry).search query = []) :
    ∃ r : Registry, ∃ entry ∈ r.entries,
      0 < entry.pattern.verbatimScore (Text.trimmed query) ∧ r.search query = [] := by
  have hgroups : (Regex.parse "").toOption.any (·.groupCount == 0) = true := by
    decide
  obtain ⟨entry, -, hpattern⟩ :=
    Entry.exists_of_groups "only" (searchable "" [] description) hgroups rfl
  refine ⟨empty.put entry, entry, ?_, ?_, hmissed entry hpattern⟩
  · rw [entries_put_empty]
    exact List.mem_singleton_self entry
  · rw [hpattern]
    exact StepPattern.verbatimScore_pos hholds

/-- Some registry holds a query letter by letter and misses it, if the query is blank or has
a sigma that is not settled. -/
theorem exists_missed {query : String}
    (h : Text.trimmed query = "" ∨ Text.sigmasSettled (Text.trimmed query).toList = false) :
    ∃ r : Registry, ∃ entry ∈ r.entries,
      0 < entry.pattern.verbatimScore (Text.trimmed query) ∧ r.search query = [] := by
  by_cases hquery : Text.trimmed query = ""
  · refine exists_missed_in "" ?_ fun entry _ => search_of_blank _ hquery
    rw [hquery]
    decide
  · obtain ⟨text, hinside, hhidden⟩ :=
      Text.exists_not_infix_lower (h.resolve_left hquery)
    refine exists_missed_in (String.ofList text) ?_
      fun entry hpattern => search_put_empty hquery ?_
    · rwa [holds, Text.contains_iff, String.toList_ofList]
    · rw [hpattern]
      refine StepPattern.score_searchable _ (mt (Text.lower_eq_empty_iff _).mp hquery) ?_
      rw [Bool.eq_false_iff, Ne, mentions_lower_iff, String.toList_ofList]
      exact hhidden

/-- A query is found in every registry wherever it stands letter by letter, with the weights
of all places where it does, if and only if it is not blank and the characters of the
trimmed query settle the small forms of all its capital sigmas. -/
theorem verbatim_found_iff (query : String) :
    (∀ r : Registry, ∀ entry ∈ r.entries,
        0 < entry.pattern.verbatimScore (Text.trimmed query) →
        ∃ hit ∈ r.search query, hit.entry = entry
          ∧ entry.pattern.verbatimScore (Text.trimmed query) ≤ hit.score)
      ↔ Text.trimmed query ≠ "" ∧ Text.sigmasSettled (Text.trimmed query).toList = true := by
  constructor
  · intro hfound
    by_contra hnot
    rw [not_and_or, not_not, Bool.not_eq_true] at hnot
    obtain ⟨r, entry, hentry, hpositive, hmissed⟩ := exists_missed hnot
    obtain ⟨hit, hhit, -⟩ := hfound r entry hentry hpositive
    rw [hmissed] at hhit
    exact absurd hhit List.not_mem_nil
  · rintro ⟨hquery, hsettled⟩ r entry hentry hpositive
    have hle := StepPattern.verbatimScore_le_score hsettled entry.pattern
    refine ⟨⟨entry, entry.pattern.score (Text.lower (Text.trimmed query))⟩, ?_, rfl, hle⟩
    exact (r.mem_search_iff hquery).mpr ⟨hentry, rfl, Nat.lt_of_lt_of_le hpositive hle⟩

/-- The source holds the query, which ends in the middle of a word. Alone, its sigma ends a
word, so the search looks for a final sigma and finds nothing. -/
theorem sigma_within_word_is_missed :
    ∃ r : Registry, r.keys = ["greek"]
      ∧ ∃ entry ∈ r.entries, holds entry.pattern.source (Text.trimmed "ΑΣ") = true
        ∧ r.search "ΑΣ" = [] := by
  obtain ⟨entry, hkey, hpattern⟩ := Entry.exists_of_groups "greek" (searchable "ΑΣΑ" [] "")
    (by decide) rfl
  refine ⟨empty.put entry, ?_, entry, ?_, ?_, ?_⟩
  · rw [keys, entries_put_empty, List.map_singleton, hkey]
  · rw [entries_put_empty]
    exact List.mem_singleton_self entry
  · rw [hpattern]
    decide
  · refine search_put_empty (by decide) ?_
    rw [hpattern]
    decide

end Registry

end ScenarioSteps
