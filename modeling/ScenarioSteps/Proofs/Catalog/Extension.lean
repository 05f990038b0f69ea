import ScenarioSteps.Proofs.Catalog.Standard
import ScenarioSteps.Proofs.Pattern.Dispatch

/-!
# `ScenarioSteps.Proofs.Catalog.Extension`: the catalog over any registry

A registry may hold patterns of its own when the catalog is registered, some of them
perhaps under keys of the catalog. `registerCatalog_extends` says what it holds
afterwards:

* Its own keys keep their places. The keys of the catalog that were missing come behind
  them, in the order of the catalog (`keys_putAll`).
* Under the keys of the catalog stand the entries of the standard registry
  (`get?_putAll_of_mem`), under all other keys what stood there before
  (`get?_putAll_of_not_mem`).
* To register the catalog once more changes nothing (`putAll_putAll`).
* If no key of the catalog was taken, a sentence goes where it went before, and to an
  entry of the catalog only if it went nowhere.

The catalog is a list of entries that are put one after another, so each of these is an
induction over the list. What carries it is that the keys of the list are distinct: an
entry that has been put is not replaced by a later one.
-/

set_option autoImplicit false

namespace ScenarioSteps.Registry

/-! ### An entry that is there already -/

/-- A registry is its entries and its index. -/
theorem ext_entries {r r' : Registry} (hentries : r.entries = r'.entries)
    (hindex : r.index = r'.index) : r = r' := by
  cases r
  cases r'
  cases hentries
  cases hindex
  rfl

/-- To put an entry where it stands already changes nothing. -/
theorem put_of_get? {r : Registry} {entry : Entry} (h : r.get? entry.key = some entry) :
    r.put entry = r := by
  rw [get?_eq, Option.bind_eq_some_iff] at h
  obtain ⟨place, hplace, hentry⟩ := h
  obtain ⟨hentries, hindex⟩ := put_of_position? hplace
  refine ext_entries ?_ hindex
  obtain ⟨hlt, rfl⟩ := List.getElem?_eq_some_iff.mp hentry
  rw [hentries]
  exact List.set_getElem_self hlt

/-! ### Entries with distinct keys -/

/-- The first entry of a list is put before the others. -/
theorem putAll_cons (r : Registry) (entry : Entry) (entries : List Entry) :
    r.putAll (entry :: entries) = (r.put entry).putAll entries :=
  rfl

section

variable {entries : List Entry}

/-- The keys of a registry keep their places, and new keys come behind them. -/
theorem keys_putAll (r : Registry) (h : (entries.map Entry.key).Nodup) :
    (r.putAll entries).keys = r.keys ++ (entries.map Entry.key).filter (· ∉ r.keys) := by
  induction entries generalizing r with
  | nil => simp [putAll]
  | cons entry entries ih =>
      obtain ⟨hnot, hrest⟩ := List.nodup_cons.mp h
      rw [putAll_cons, ih (r.put entry) hrest, keys_put, List.map_cons]
      by_cases hmem : entry.key ∈ r.keys
      · rw [if_pos hmem, List.filter_cons_of_neg (by simpa using hmem)]
      · rw [if_neg hmem, List.filter_cons_of_pos (by simpa using hmem), List.append_assoc,
          List.singleton_append]
        -- No later entry has the key that is new here.
        have hlater : ∀ key ∈ entries.map Entry.key,
            decide (key ∉ r.keys ++ [entry.key]) = decide (key ∉ r.keys) := by
          intro key hkey
          have hne : key ≠ entry.key := fun heq => hnot (heq ▸ hkey)
          simp [hne]
        rw [List.filter_congr hlater]

/-- Under a key of another entry stands what stood there before. -/
theorem get?_putAll_of_not_mem (r : Registry) {key : String}
    (h : key ∉ entries.map Entry.key) : (r.putAll entries).get? key = r.get? key := by
  induction entries generalizing r with
  | nil => rfl
  | cons entry entries ih =>
      rw [List.map_cons, List.mem_cons, not_or] at h
      rw [putAll_cons, ih (r.put entry) h.2, get?_put, if_neg h.1]

/-- Each entry stands under its key. -/
theorem get?_putAll_of_mem (r : Registry) (h : (entries.map Entry.key).Nodup) {entry : Entry}
    (hmem : entry ∈ entries) : (r.putAll entries).get? entry.key = some entry := by
  induction entries generalizing r with
  | nil => cases hmem
  | cons first entries ih =>
      obtain ⟨hnot, hrest⟩ := List.nodup_cons.mp h
      rw [putAll_cons]
      rcases List.mem_cons.mp hmem with rfl | hmem
      · rw [get?_putAll_of_not_mem _ hnot, get?_put, if_pos rfl]
      · exact ih (r.put first) hrest hmem

/-- Entries that are all there already change nothing. -/
theorem putAll_of_get? {r : Registry} (h : ∀ entry ∈ entries, r.get? entry.key = some entry) :
    r.putAll entries = r := by
  induction entries with
  | nil => rfl
  | cons entry entries ih =>
      rw [List.forall_mem_cons] at h
      rw [putAll_cons, put_of_get? h.1]
      exact ih h.2

/-- A second time changes nothing. -/
theorem putAll_putAll (r : Registry) (h : (entries.map Entry.key).Nodup) :
    (r.putAll entries).putAll entries = r.putAll entries :=
  putAll_of_get? fun _ hmem => get?_putAll_of_mem r h hmem

/-- Behind other entries, entries under new keys get the sentences that went nowhere. -/
theorem resolve?_putAll (r : Registry) (h : (r.keys ++ entries.map Entry.key).Nodup)
    (sentence : String) :
    (r.putAll entries).resolve? sentence
      = (r.resolve? sentence).or ((empty.putAll entries).resolve? sentence) := by
  have hempty : (empty.keys ++ entries.map Entry.key).Nodup := (List.nodup_append.mp h).2.1
  simp only [resolve?]
  rw [entries_putAll h, entries_putAll hempty, List.findSome?_append]
  rfl

end

/-! ### The catalog -/

/-- Any registry takes the catalog. Its keys keep their places, and the keys of the catalog
that it does not have come behind them in the order of the catalog. Under the keys of the
catalog stand the entries of the standard registry, with the patterns of the catalog, and
under other keys what stood there before. A second time changes nothing. If the registry
has no key of the catalog, a sentence goes where it went before, or else where it goes in
the standard registry. -/
theorem registerCatalog_extends (r : Registry) :
    ∃ s r' : Registry, standard = .ok s ∧ r.registerCatalog = .ok r'
      ∧ r'.keys = r.keys ++ (catalog.map Prod.fst).filter (· ∉ r.keys)
      ∧ (∀ key i, r.position? key = some i → r'.position? key = some i)
      ∧ (∀ key, key ∉ catalog.map Prod.fst → r'.get? key = r.get? key)
      ∧ (∀ p ∈ catalog, (r'.get? p.1).map Entry.pattern = some p.2
          ∧ r'.get? p.1 = s.get? p.1)
      ∧ r'.registerCatalog = .ok r'
      ∧ ((∀ key ∈ catalog.map Prod.fst, key ∉ r.keys) → ∀ sentence,
          r'.resolve? sentence = (r.resolve? sentence).or (s.resolve? sentence)) := by
  obtain ⟨entries, hpatterns, -, hregister⟩ := exists_registerCatalog
  have hkeys : catalog.map Prod.fst = entries.map Entry.key := by
    rw [← hpatterns, List.map_map]
    rfl
  have hnodup : (entries.map Entry.key).Nodup := hkeys ▸ nodup_catalog_keys
  -- The keys of the catalog are distinct, so every part is one about `putAll`.
  have hrkeys := r.keys_putAll hnodup
  refine ⟨empty.putAll entries, r.putAll entries, hregister empty, hregister r, ?_, ?_, ?_, ?_,
    ?_, ?_⟩
  · rw [hkeys, hrkeys]
  · exact fun key i hplace => position?_of_prefix (hrkeys ▸ List.prefix_append _ _) hplace
  · intro key hkey
    rw [hkeys] at hkey
    exact r.get?_putAll_of_not_mem hkey
  · intro p hp
    rw [← hpatterns] at hp
    obtain ⟨entry, hmem, rfl⟩ := List.mem_map.mp hp
    rw [get?_putAll_of_mem r hnodup hmem, get?_putAll_of_mem empty hnodup hmem]
    exact ⟨rfl, rfl⟩
  · rw [hregister (r.putAll entries), putAll_putAll r hnodup]
  · intro hfree sentence
    rw [hkeys] at hfree
    refine r.resolve?_putAll (List.nodup_append.mpr ⟨r.nodup_keys, hnodup, ?_⟩) sentence
    rintro key hown other hother rfl
    exact hfree key hother hown

/-- A pattern of one's own that is registered before the catalog. -/
def ownGoBack : StepPattern :=
  { source := "I go back", kind := .action, generator := fun _ => pure (.body "back();") }

/-- Registered before the catalog, a pattern keeps its sentences, though the catalog has a
pattern for them too. -/
theorem own_pattern_comes_before_catalog :
    ∃ r r' : Registry, (empty.register "own/go-back" ownGoBack).map Prod.snd = .ok r
      ∧ (∀ key ∈ catalog.map Prod.fst, key ∉ r.keys) ∧ r.registerCatalog = .ok r'
      ∧ (r'.resolve? "I go back").map Match.key = some "own/go-back" := by
  have hfits : ownGoBack.Fits (Phrase.words "I go back") :=
    StepPattern.fits_of_checkFits (by decide)
  obtain ⟨entry, hcheck, hkey, -, hregex⟩ := hfits.exists_check "own/go-back"
  obtain ⟨s, r', -, hr', -, -, -, -, -, hresolve⟩ := registerCatalog_extends (empty.put entry)
  have hnew : entry.key ∉ empty.keys := List.not_mem_nil
  have hkeys : (empty.put entry).keys = ["own/go-back"] := by
    rw [keys_put, if_neg hnew, hkey]
    rfl
  have hfree : ∀ key ∈ catalog.map Prod.fst, key ∉ (empty.put entry).keys := by
    rw [hkeys]
    decide
  -- Where the sentence goes depends on the key and the expression of the entry alone.
  have hentries : (empty.put entry).entries.map (fun e => (e.key, e.regex))
      = [("own/go-back", Phrase.words "I go back")] := by
    rw [(put_of_not_mem hnew).1, ← hkey, ← hregex]
    rfl
  have hown : ((empty.put entry).resolve? "I go back").map Match.key = some "own/go-back" := by
    rw [map_key_resolve?, hentries]
    decide +kernel
  refine ⟨empty.put entry, r', ?_, hfree, hr', ?_⟩
  · rw [register, hcheck]
    rfl
  · obtain ⟨m, hm, hkey⟩ := Option.map_eq_some_iff.mp hown
    rw [hresolve hfree, hm, Option.some_or, Option.map_some, hkey]

end ScenarioSteps.Registry
