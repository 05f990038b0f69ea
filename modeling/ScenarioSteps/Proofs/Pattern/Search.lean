import Mathlib.Data.List.Nodup
import Mathlib.Data.List.Permutation
import ScenarioSteps.Command.Listing
import ScenarioSteps.Proofs.Pattern.Registry
import ScenarioSteps.Proofs.Text.Lowercase

/-!
# `ScenarioSteps.Proofs.Pattern.Search`: the order of search results

`Registry.mem_search_iff` says what a search finds: the entries with a score, each with the
score it has. Their order is that of a stable sort (`pairwise_mergeSort_of_pairwise`), so
entries with one score stand in the order of the registry (`Registry.Before`).

The weight of the source is more than the other two together (`StepPattern.lt_score`,
`StepPattern.score_le`). So a pattern that mentions the query in its source comes before all
that do not. `Registry.search_ranks` puts this together.
-/

set_option autoImplicit false

namespace ScenarioSteps

/-- A stable sort keeps what held of the order of its input where it finds two items equal. -/
theorem pairwise_mergeSort_of_pairwise {α : Type} {le : α → α → Bool} {R : α → α → Prop}
    (trans : ∀ a b c, le a b = true → le b c = true → le a c = true)
    (total : ∀ a b, (le a b || le b a) = true) {items : List α} (h : items.Pairwise R) :
    (items.mergeSort le).Pairwise fun a b => le a b = true ∧ (le b a = true → R a b) := by
  rw [← List.mergeSort_zipIdx, List.pairwise_map]
  have hperm := List.mergeSort_perm items.zipIdx (List.zipIdxLE le)
  have hsorted := List.pairwise_mergeSort (List.zipIdxLE_trans trans) (List.zipIdxLE_total total)
    items.zipIdx
  have hplaces : (items.zipIdx.mergeSort (List.zipIdxLE le)).Pairwise (·.2 ≠ ·.2) :=
    List.pairwise_map.mp ((hperm.map Prod.snd).nodup_iff.mpr (by
      rw [List.zipIdx_map_snd]
      exact List.nodup_range'))
  refine List.Pairwise.imp_of_mem ?_ (hsorted.and hplaces)
  rintro p q hp hq ⟨hle, hne⟩
  obtain ⟨hi, hitem⟩ := List.getElem?_eq_some_iff.mp
    (List.mem_zipIdx_iff_getElem?.mp (hperm.mem_iff.mp hp))
  obtain ⟨hj, hother⟩ := List.getElem?_eq_some_iff.mp
    (List.mem_zipIdx_iff_getElem?.mp (hperm.mem_iff.mp hq))
  unfold List.zipIdxLE at hle
  split at hle
  · next hforth =>
      refine ⟨hforth, fun hback => ?_⟩
      -- Of two items that are found equal, the one with the lower place comes first.
      rw [if_pos hback, decide_eq_true_iff] at hle
      rw [← hitem, ← hother]
      exact List.pairwise_iff_getElem.mp h p.2 q.2 hi hj (Nat.lt_of_le_of_ne hle hne)
  · cases hle

/-! ### Patterns to search -/

/-- A pattern that has what a search looks at. -/
def searchable (source : String) (tags : List String) (description : String) : StepPattern :=
  { source, kind := .action, generator := fun _ => pure (.body "noop();"), tags, description }

/-- A pattern without a sample is registered if its source reads as an expression with as
many groups as declared. -/
theorem Entry.exists_of_groups (key : String) (p : StepPattern)
    (hgroups : (Regex.parse p.source).toOption.any (·.groupCount == p.arity) = true)
    (hsample : p.sample? = none) : ∃ entry : Entry, entry.key = key ∧ entry.pattern = p := by
  cases hreads : Regex.parse p.source with
  | error defect =>
      rw [hreads] at hgroups
      cases hgroups
  | ok regex =>
      rw [hreads] at hgroups
      exact ⟨⟨key, p, regex, hreads, beq_iff_eq.mp hgroups, by simp [hsample]⟩, rfl, rfl⟩

/-! ### Scores -/

namespace StepPattern

variable {p : StepPattern} {query : String}

/-- The source alone is worth more than all the rest. -/
theorem lt_score (h : mentions p.source query = true) :
    tagWeight + descriptionWeight < p.score query := by
  unfold score
  rw [if_pos h]
  show 8 < 10 + _ + _
  omega

/-- Without a mention in its source, a pattern scores for its tags and its description at
most. -/
theorem score_le (h : mentions p.source query = false) :
    p.score query ≤ tagWeight + descriptionWeight := by
  unfold score
  rw [if_neg (by simp [h]), Nat.zero_add]
  refine Nat.add_le_add ?_ ?_
  · split <;> simp
  · split <;> simp

end StepPattern

namespace Registry

variable (r : Registry)

/-- Whether an entry stands in a place before that of another one. -/
def Before (entry other : Entry) : Prop :=
  ∃ i j, r.position? entry.key = some i ∧ r.position? other.key = some j ∧ i < j

/-- The entries of a registry stand in its order. -/
theorem pairwise_before : r.entries.Pairwise r.Before := by
  rw [List.pairwise_iff_getElem]
  intro i j hi hj hlt
  refine ⟨i, j, ?_, ?_, hlt⟩
  · rw [position?_eq_some_iff, List.getElem?_eq_getElem hi, Option.map_some]
  · rw [position?_eq_some_iff, List.getElem?_eq_getElem hj, Option.map_some]

/-! ### What a search finds -/

/-- The entries that have a score for a query in lower case, in the order of the registry. -/
def hits (query : String) : List Hit :=
  (r.entries.filter fun entry => 0 < entry.pattern.score query).map fun entry =>
    ⟨entry, entry.pattern.score query⟩

/-- The hits are for the entries that score at all, in the order of the registry. -/
theorem map_entry_hits (query : String) :
    (r.hits query).map Hit.entry
      = r.entries.filter fun entry => 0 < entry.pattern.score query := by
  rw [hits, List.map_map]
  exact List.map_id' _

/-- A hit is an entry of the registry with the score that it has, which is not zero. -/
theorem mem_hits_iff {query : String} {hit : Hit} :
    hit ∈ r.hits query
      ↔ hit.entry ∈ r.entries ∧ hit.score = hit.entry.pattern.score query ∧ 0 < hit.score := by
  simp only [hits, List.mem_map, List.mem_filter, decide_eq_true_iff]
  constructor
  · rintro ⟨entry, ⟨hentry, hpositive⟩, rfl⟩
    exact ⟨hentry, rfl, hpositive⟩
  · rintro ⟨hentry, hscore, hpositive⟩
    exact ⟨hit.entry, ⟨hentry, hscore ▸ hpositive⟩, by rw [← hscore]⟩

/-- Before they are sorted, hits stand in the order of the registry. -/
theorem pairwise_hits (query : String) :
    (r.hits query).Pairwise fun a b => r.Before a.entry b.entry := by
  rw [hits, List.pairwise_map]
  exact r.pairwise_before.sublist List.filter_sublist

variable {query : String}

/-- A search for a text that is not blank is a stable sort of the entries with a score. -/
theorem search_eq (hquery : Text.trimmed query ≠ "") :
    r.search query
      = (r.hits (Text.lower (Text.trimmed query))).mergeSort fun a b => b.score ≤ a.score := by
  have hlower : (Text.lower (Text.trimmed query)).isEmpty = false :=
    String.isEmpty_eq_false_iff.mpr (mt (Text.lower_eq_empty_iff _).mp hquery)
  rw [search, hits]
  generalize Text.lower (Text.trimmed query) = small at *
  simp only [hlower, Bool.false_eq_true, if_false, List.filter_map, Function.comp_def]

/-- A search finds the entries with a score. -/
theorem mem_search_iff (hquery : Text.trimmed query ≠ "") {hit : Hit} :
    hit ∈ r.search query
      ↔ hit.entry ∈ r.entries
        ∧ hit.score = hit.entry.pattern.score (Text.lower (Text.trimmed query))
        ∧ 0 < hit.score := by
  rw [r.search_eq hquery, List.mem_mergeSort, mem_hits_iff]

/-- The entries that have a score are found, each once. -/
theorem map_entry_search_perm (hquery : Text.trimmed query ≠ "") :
    ((r.search query).map Hit.entry).Perm
      (r.entries.filter fun entry =>
        0 < entry.pattern.score (Text.lower (Text.trimmed query))) := by
  rw [r.search_eq hquery, ← map_entry_hits]
  exact (List.mergeSort_perm _ _).map Hit.entry

/-- Results with a higher score come first, and results with one score stand in the order
of the registry. -/
theorem pairwise_search (hquery : Text.trimmed query ≠ "") :
    (r.search query).Pairwise fun a b =>
      b.score < a.score ∨ b.score = a.score ∧ r.Before a.entry b.entry := by
  rw [r.search_eq hquery]
  refine (pairwise_mergeSort_of_pairwise ?_ ?_ (r.pairwise_hits _)).imp ?_
  · intro a b c hab hbc
    rw [decide_eq_true_iff] at *
    exact Nat.le_trans hbc hab
  · intro a b
    rw [Bool.or_eq_true, decide_eq_true_iff, decide_eq_true_iff]
    exact Nat.le_total b.score a.score
  · rintro a b ⟨hle, hties⟩
    rw [decide_eq_true_iff] at hle
    rcases Nat.lt_or_eq_of_le hle with hlt | heq
    · exact .inl hlt
    · exact .inr ⟨heq, hties (decide_eq_true (Nat.le_of_eq heq.symm))⟩

/-- An entry whose source mentions the query comes before every result whose source does not. -/
theorem lt_of_mentions (hquery : Text.trimmed query ≠ "") {i j : Nat} {hit other : Hit}
    (hi : (r.search query)[i]? = some hit) (hj : (r.search query)[j]? = some other)
    (hmentions : mentions hit.entry.pattern.source (Text.lower (Text.trimmed query)) = true)
    (hnot : mentions other.entry.pattern.source (Text.lower (Text.trimmed query)) = false) :
    i < j := by
  have hhigh := StepPattern.lt_score hmentions
  have hlow := StepPattern.score_le hnot
  rw [← ((r.mem_search_iff hquery).mp (List.mem_of_getElem? hi)).2.1] at hhigh
  rw [← ((r.mem_search_iff hquery).mp (List.mem_of_getElem? hj)).2.1] at hlow
  have hlt : other.score < hit.score := Nat.lt_of_le_of_lt hlow hhigh
  obtain ⟨hi', rfl⟩ := List.getElem?_eq_some_iff.mp hi
  obtain ⟨hj', rfl⟩ := List.getElem?_eq_some_iff.mp hj
  -- What stands before the result, or is the same, has no lower score.
  rcases Nat.lt_trichotomy i j with hbefore | rfl | hbehind
  · exact hbefore
  · exact absurd hlt (Nat.lt_irrefl _)
  · rcases List.pairwise_iff_getElem.mp (r.pairwise_search hquery) j i hj' hi' hbehind with
      hscore | ⟨hscore, -⟩
    · exact absurd hlt (Nat.lt_asymm hscore)
    · exact absurd hlt (Nat.not_lt_of_le (Nat.le_of_eq hscore))

/-- What a search for a text that is not blank answers. It finds each entry with a score
once, and nothing else. The results stand in the order of their scores, the highest first,
and those with one score in the order of the registry. Each shows what the listing of the
registry shows at its place, and its score. An entry whose source mentions the query in
lower case is found, and it comes before every result whose source does not. -/
theorem search_ranks (hquery : Text.trimmed query ≠ "") :
    let small := Text.lower (Text.trimmed query)
    let found := r.search query
    (found.map Hit.entry).Perm (r.entries.filter fun entry => 0 < entry.pattern.score small)
      ∧ (found.map fun hit => hit.entry.key).Nodup
      ∧ (∀ hit ∈ found, hit.score = hit.entry.pattern.score small)
      ∧ found.Pairwise (fun a b =>
          b.score < a.score ∨ b.score = a.score ∧ r.Before a.entry b.entry)
      ∧ (∀ hit ∈ found, ∃ place fields, r.position? hit.entry.key = some place
          ∧ (r.entries.map Listing.entryFields)[place]? = some fields
          ∧ Listing.hitFields hit = fields ++ [("score", fun _ => toString hit.score)])
      ∧ ∀ entry ∈ r.entries, mentions entry.pattern.source small = true →
          ∃ i : Nat, found[i]?.map Hit.entry = some entry
            ∧ ∀ (j : Nat) (other : Hit), found[j]? = some other →
              mentions other.entry.pattern.source small = false → i < j := by
  intro small found
  have hmem := fun hit => @mem_search_iff r query hquery hit
  refine ⟨r.map_entry_search_perm hquery, ?_, fun hit hhit => ((hmem hit).mp hhit).2.1,
    r.pairwise_search hquery, fun hit hhit => ?_, fun entry hentry hmentions => ?_⟩
  -- The results are some of the entries, whose keys are distinct.
  · have hkeys := (r.map_entry_search_perm hquery).map Entry.key
    rw [List.map_map] at hkeys
    exact hkeys.nodup_iff.mpr (r.nodup_keys.sublist (List.filter_sublist.map _))
  · obtain ⟨place, hplace⟩ := List.mem_iff_getElem?.mp ((hmem hit).mp hhit).1
    refine ⟨place, Listing.entryFields hit.entry, ?_, ?_, rfl⟩
    · rw [position?_eq_some_iff, hplace, Option.map_some]
    · rw [List.getElem?_map, hplace, Option.map_some]
  -- A source that mentions the query scores, so the entry is found at some place.
  · have hpositive := Nat.zero_lt_of_lt (StepPattern.lt_score hmentions)
    obtain ⟨i, hi⟩ := List.mem_iff_getElem?.mp
      ((hmem ⟨entry, entry.pattern.score small⟩).mpr ⟨hentry, rfl, hpositive⟩)
    refine ⟨i, by rw [hi, Option.map_some], fun j other hj hnot => ?_⟩
    exact r.lt_of_mentions hquery hi hj hmentions hnot

/-- Of two patterns that mention a text, the one that has it in its source comes first,
although it was registered last and the other one has the text in two places. -/
theorem search_login :
    Text.trimmed " LOGIN " ≠ ""
      ∧ ∃ r : Registry, r.keys = ["aside", "idle", "named"]
        ∧ (r.search " LOGIN ").map (fun hit => (hit.entry.key, hit.score))
          = [("named", 10), ("aside", 8)] := by
  have hquery : Text.trimmed " LOGIN " ≠ "" := by decide
  have hsmall : Text.lower (Text.trimmed " LOGIN ") = "login" := by decide
  obtain ⟨aside, hasideKey, haside⟩ := Entry.exists_of_groups "aside"
    (searchable "go" ["login"] "Login page") (by decide) rfl
  obtain ⟨idle, hidleKey, hidle⟩ := Entry.exists_of_groups "idle"
    (searchable "wait" [] "") (by decide) rfl
  obtain ⟨named, hnamedKey, hnamed⟩ := Entry.exists_of_groups "named"
    (searchable "I login" [] "") (by decide) rfl
  let r := ((empty.put aside).put idle).put named
  have hentries : r.entries = [aside, idle, named] := by
    have hboth : ((empty.put aside).put idle).entries = [aside, idle] := by
      have hnew : idle.key ∉ (empty.put aside).keys := by
        rw [keys, entries_put_empty]
        simp [hasideKey, hidleKey]
      rw [(put_of_not_mem hnew).1, entries_put_empty]
      rfl
    have hnew : named.key ∉ ((empty.put aside).put idle).keys := by
      rw [keys, hboth]
      simp [hasideKey, hidleKey, hnamedKey]
    rw [(put_of_not_mem hnew).1, hboth]
    rfl
  have hasideScore : aside.pattern.score "login" = 8 := by
    rw [haside]
    decide
  have hidleScore : idle.pattern.score "login" = 0 := by
    rw [hidle]
    decide
  have hnamedScore : named.pattern.score "login" = 10 := by
    rw [hnamed]
    decide
  obtain ⟨hperm, -, hscores, -, -, hfirst⟩ := r.search_ranks hquery
  rw [hsmall] at hperm hscores hfirst
  -- One entry does not mention the text, which leaves two orders for the others.
  have hfilter : (r.entries.filter fun entry => 0 < entry.pattern.score "login")
      = [aside, named] := by
    rw [hentries]
    simp [hasideScore, hidleScore, hnamedScore]
  rw [hfilter] at hperm
  refine ⟨hquery, r, by rw [keys, hentries]; simp [hasideKey, hidleKey, hnamedKey], ?_⟩
  rcases List.perm_pair.mp hperm with hfound | hfound
  · -- The pattern that was registered first cannot come first.
    obtain ⟨hit, rest, hcons, hentry, -⟩ := List.map_eq_cons_iff.mp hfound
    obtain ⟨i, -, hbehind⟩ := hfirst named (by simp [hentries]) (by rw [hnamed]; decide)
    have hnot : mentions hit.entry.pattern.source "login" = false := by
      rw [hentry, haside]
      decide
    exact absurd (hbehind 0 hit (by rw [hcons]; rfl) hnot) (Nat.not_lt_zero i)
  · obtain ⟨hit, rest, hcons, hentry, hrest⟩ := List.map_eq_cons_iff.mp hfound
    obtain ⟨other, others, rfl, hother, hnil⟩ := List.map_eq_cons_iff.mp hrest
    obtain rfl := List.map_eq_nil_iff.mp hnil
    rw [hcons] at hscores ⊢
    simp [hscores, hentry, hother, hasideKey, hnamedKey, hasideScore, hnamedScore]

end Registry

end ScenarioSteps
