import ScenarioSteps.Proofs.Catalog.Phrases
import ScenarioSteps.Proofs.Pattern.Registry

/-!
# `ScenarioSteps.Proofs.Catalog.Standard`: the catalog can be registered

All patterns of the catalog pass registration, so a registry takes the whole
catalog whatever it held before (`exists_registerCatalog`). The registry of the
catalog alone has the patterns in their order, each with the expression that
its source reads as (`standard_entries`).
-/

set_option autoImplicit false

namespace ScenarioSteps

/-- The catalog as one list, in order of priority. -/
def catalog : List (String × StepPattern) :=
  catalogSections.flatMap Prod.snd

/-- What holds in each section holds in the catalog. -/
theorem forall_mem_catalog {P : String × StepPattern → Prop}
    (hinteraction : ∀ p ∈ Interaction.patterns, P p) (hnavigation : ∀ p ∈ Navigation.patterns, P p)
    (hauth : ∀ p ∈ Auth.patterns, P p) (hstore : ∀ p ∈ Store.patterns, P p)
    (hnetwork : ∀ p ∈ Network.patterns, P p) : ∀ p ∈ catalog, P p := by
  have hsections : ∀ s ∈ catalogSections, ∀ p ∈ s.2, P p :=
    List.forall_iff_forall_mem.mp ⟨hinteraction, hnavigation, hauth, hstore, hnetwork⟩
  intro p hp
  obtain ⟨s, hs, hp⟩ := List.mem_flatMap.mp hp
  exact hsections s hs p hp

/-- The expressions of the sections. -/
def sectionRegexes : List (List Regex) :=
  [Interaction.regexes, Navigation.regexes, Auth.regexes, Store.regexes, Network.regexes]

/-- The expressions of the catalog. -/
def catalogRegexes : List Regex :=
  sectionRegexes.flatten

/-- The patterns of each section fit their expressions. -/
theorem fitAll_sections :
    List.Forall₂ (fun s regexes => FitAll s.2 regexes) catalogSections sectionRegexes := by
  have hcheck : (catalogSections.zip sectionRegexes).all (fun s => checkFitAll s.1.2 s.2)
      = true := by
    simp only [catalogSections, sectionRegexes, List.zip_cons_cons, List.zip_nil_left,
      List.all_cons, List.all_nil, Interaction.patterns, Interaction.regexes,
      Navigation.patterns, Navigation.regexes, Auth.patterns, Auth.regexes, Store.patterns,
      Store.regexes, Network.patterns, Network.regexes, checkFitAll, StepPattern.checkFits,
      Regex.parse]
    -- Spelt out as characters, the sources and samples cost the kernel no decoding.
    repeat rewrite [Option.all_some]
    repeat rewrite [String.toList_ofList]
    decide +kernel
  exact List.forall₂_iff_zip.mpr
    ⟨rfl, fun hmem => fitAll_of_check (List.all_eq_true.mp hcheck _ hmem)⟩

/-- In a list of patterns that fit, each expression has a pattern. -/
theorem FitAll.exists_fits {patterns : List (String × StepPattern)} {regexes : List Regex}
    (h : FitAll patterns regexes) {regex : Regex} (hmem : regex ∈ regexes) :
    ∃ p : StepPattern, p.Fits regex := by
  induction h with
  | nil => cases hmem
  | @cons p _ _ _ hfits _ ih =>
      rcases List.mem_cons.mp hmem with rfl | hmem
      · exact ⟨p.2, hfits⟩
      · exact ih hmem

/-- So has each expression of the catalog. -/
theorem exists_fits_of_mem_catalogRegexes {regex : Regex} (hmem : regex ∈ catalogRegexes) :
    ∃ p : StepPattern, p.Fits regex := by
  obtain ⟨regexes, hregexes, hmem⟩ := List.mem_flatten.mp hmem
  obtain ⟨i, hi, rfl⟩ := List.mem_iff_getElem.mp hregexes
  exact (fitAll_sections.get (by rwa [fitAll_sections.length_eq]) hi).exists_fits hmem

/-- A pattern that fits its expression passes registration. -/
theorem StepPattern.Fits.exists_check {p : StepPattern} {regex : Regex} (h : p.Fits regex)
    (key : String) :
    ∃ entry : Entry, Entry.check key p = .ok entry ∧ entry.key = key ∧ entry.pattern = p
      ∧ entry.regex = regex := by
  have hok : ∃ entry, Entry.check key p = .ok entry := by
    -- Each test of the check is a part of the fit, so no test fails.
    unfold Entry.check
    split
    · next defect hreads =>
        rw [h.reads] at hreads
        cases hreads
    · next other hreads =>
        obtain rfl : regex = other := by simpa [h.reads] using hreads
        rw [dif_pos h.arity_eq]
        split
        · exact ⟨_, rfl⟩
        · next sample hsample =>
            rw [dif_pos (h.sample_occurs sample hsample)]
            exact ⟨_, rfl⟩
  obtain ⟨entry, hcheck⟩ := hok
  obtain ⟨hkey, hpattern⟩ := Entry.of_check_eq_ok hcheck
  refine ⟨entry, hcheck, hkey, hpattern, ?_⟩
  have hreads := entry.reads
  rw [hpattern, h.reads] at hreads
  exact (Except.ok.inj hreads).symm

namespace Registry

/-- Puts entries one after another. -/
def putAll (r : Registry) (entries : List Entry) : Registry :=
  entries.foldl put r

end Registry

/-- A list of patterns that fit their expressions can be registered in any
registry. -/
theorem FitAll.exists_registerList {patterns : List (String × StepPattern)}
    {regexes : List Regex} (h : FitAll patterns regexes) :
    ∃ entries : List Entry, entries.map (fun e => (e.key, e.pattern)) = patterns
      ∧ entries.map Entry.regex = regexes
      ∧ ∀ r : Registry, r.registerList patterns = .ok (r.putAll entries) := by
  induction h with
  | nil => exact ⟨[], rfl, rfl, fun r => rfl⟩
  | @cons p regex patterns regexes hfits _ ih =>
      obtain ⟨entry, hcheck, hkey, hpattern, hregex⟩ := hfits.exists_check p.1
      obtain ⟨entries, hpatterns, hregexes, hregister⟩ := ih
      refine ⟨entry :: entries, ?_, ?_, fun r => ?_⟩
      · rw [List.map_cons, hpatterns, hkey, hpattern]
      · rw [List.map_cons, hregexes, hregex]
      · have hfirst : r.register p.1 p.2 = .ok ((r.get? p.1).map Entry.pattern, r.put entry) := by
          rw [Registry.register, hcheck]
          rfl
        rw [Registry.registerList, List.foldlM_cons, hfirst]
        exact hregister (r.put entry)

namespace Registry

/-- A section is registered as the list of its patterns. -/
theorem registerSection_eq {r r' : Registry} {patterns : List (String × StepPattern)}
    (name : String) (h : r.registerList patterns = .ok r') :
    r.registerSection name patterns = .ok r' := by
  rw [registerSection, h]
  rfl

/-- Entries of two lists are put one list after the other. -/
theorem putAll_append (r : Registry) (a b : List Entry) :
    r.putAll (a ++ b) = (r.putAll a).putAll b :=
  List.foldl_append

/-- Sections whose patterns fit their expressions can be registered one after
another. -/
theorem exists_registerSections {sections : List (String × List (String × StepPattern))}
    {regexes : List (List Regex)}
    (h : List.Forall₂ (fun s regexes => FitAll s.2 regexes) sections regexes) :
    ∃ entries : List Entry,
      entries.map (fun e => (e.key, e.pattern)) = sections.flatMap Prod.snd
        ∧ entries.map Entry.regex = regexes.flatten
        ∧ ∀ r : Registry, sections.foldlM (fun r s => r.registerSection s.1 s.2) r
            = .ok (r.putAll entries) := by
  induction h with
  | nil => exact ⟨[], rfl, rfl, fun r => rfl⟩
  | @cons s list sections regexes hfits _ ih =>
      obtain ⟨first, hpatterns, hregexes, hfirst⟩ := hfits.exists_registerList
      obtain ⟨rest, hpatterns', hregexes', hrest⟩ := ih
      refine ⟨first ++ rest, ?_, ?_, fun r => ?_⟩
      · rw [List.map_append, hpatterns, hpatterns', List.flatMap_cons]
      · rw [List.map_append, hregexes, hregexes', List.flatten_cons]
      · rw [List.foldlM_cons, registerSection_eq s.1 (hfirst r), putAll_append]
        exact hrest (r.putAll first)

/-- Any registry takes the whole catalog. -/
theorem exists_registerCatalog :
    ∃ entries : List Entry, entries.map (fun e => (e.key, e.pattern)) = catalog
      ∧ entries.map Entry.regex = catalogRegexes
      ∧ ∀ r : Registry, r.registerCatalog = .ok (r.putAll entries) :=
  exists_registerSections fitAll_sections

/-- Entries under new keys are put behind all others. -/
theorem entries_putAll {r : Registry} {entries : List Entry}
    (h : (r.keys ++ entries.map Entry.key).Nodup) :
    (r.putAll entries).entries = r.entries ++ entries := by
  induction entries generalizing r with
  | nil => simp [putAll]
  | cons entry entries ih =>
      have hnew : entry.key ∉ r.keys := by
        rw [List.map_cons, List.nodup_append] at h
        exact fun hmem => h.2.2 _ hmem _ List.mem_cons_self rfl
      have hput : (r.put entry).entries = r.entries ++ [entry] := (put_of_not_mem hnew).1
      have hkeys : (r.put entry).keys = r.keys ++ [entry.key] := by
        rw [keys_put, if_neg hnew]
      have hrest := ih (r := r.put entry) (by rwa [hkeys, List.append_assoc])
      rw [hput, List.append_assoc] at hrest
      exact hrest

/-- The keys of the catalog are distinct. -/
theorem nodup_catalog_keys : (catalog.map Prod.fst).Nodup := by
  decide

/-- The standard registry exists, and it holds the catalog with its expressions. -/
theorem standard_entries :
    ∃ r : Registry, standard = .ok r
      ∧ r.entries.map (fun e => (e.key, e.pattern)) = catalog
      ∧ r.entries.map Entry.regex = catalogRegexes := by
  obtain ⟨entries, hpatterns, hregexes, hregister⟩ := exists_registerCatalog
  have hkeys : (empty.keys ++ entries.map Entry.key).Nodup := by
    have hnodup := nodup_catalog_keys
    rw [← hpatterns, List.map_map] at hnodup
    exact hnodup
  refine ⟨empty.putAll entries, hregister empty, ?_, ?_⟩
  · rw [entries_putAll hkeys]
    exact hpatterns
  · rw [entries_putAll hkeys]
    exact hregexes

/-- An entry of the standard registry is known from its key. -/
theorem row_of_mem_standard {r : Registry} (hr : standard = .ok r) {entry : Entry}
    (hmem : entry ∈ r.entries) {row : (String × StepPattern) × Regex}
    (hrow : row ∈ catalog.zip catalogRegexes) (hkey : entry.key = row.1.1) :
    entry.pattern = row.1.2 ∧ entry.regex = row.2 := by
  obtain ⟨r', hr', hpatterns, hregexes⟩ := standard_entries
  obtain rfl : r = r' := Except.ok.inj (hr.symm.trans hr')
  have hrows :
      r.entries.map (fun e => ((e.key, e.pattern), e.regex)) = catalog.zip catalogRegexes := by
    rw [← hpatterns, ← hregexes]
    exact (List.zip_map' ..).symm
  rw [← hrows] at hrow
  obtain ⟨other, hother, rfl⟩ := List.mem_map.mp hrow
  obtain rfl : entry = other := List.inj_on_of_nodup_map r.nodup_keys hmem hother hkey
  exact ⟨rfl, rfl⟩

/-- The expressions of the standard registry set no conditions on places, and their
loops move on. -/
theorem plain_of_mem_standard {r : Registry} (hr : standard = .ok r) {entry : Entry}
    (hmem : entry ∈ r.entries) :
    entry.regex.loopsConsume = true ∧ entry.regex.isUnconditional = true := by
  obtain ⟨r', hr', -, hregexes⟩ := standard_entries
  obtain rfl : r = r' := Except.ok.inj (hr.symm.trans hr')
  obtain ⟨p, hfits⟩ := exists_fits_of_mem_catalogRegexes
    (hregexes ▸ List.mem_map_of_mem hmem : entry.regex ∈ catalogRegexes)
  exact ⟨hfits.loops, hfits.plain⟩

end Registry

end ScenarioSteps
