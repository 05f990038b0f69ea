import Mathlib.Data.List.Nodup
import ScenarioSteps.Pattern.Dispatch
import ScenarioSteps.Proofs.Pattern.Registry

/-!
# `ScenarioSteps.Proofs.Pattern.Dispatch`: the first pattern that occurs wins

`Registry.resolve?_eq_some_iff` says when a sentence goes to an entry: the entry
recognises it, and no entry before it occurs in it. As keys are distinct, an
entry stands at one place only.
-/

set_option autoImplicit false

namespace ScenarioSteps

/-- An entry recognises the sentences in which its pattern occurs. -/
theorem Entry.recognise?_eq_none_iff (entry : Entry) {sentence : String} :
    entry.recognise? sentence = none ↔ entry.regex.occursIn sentence = false := by
  rw [Entry.recognise?, Regex.captures?, Option.map_eq_none_iff, Option.map_eq_none_iff,
    Regex.occursIn, Option.isSome_eq_false_iff, Option.isNone_iff_eq_none]

/-- An entry recognises sentences as itself. -/
theorem Entry.entry_of_recognise? {entry : Entry} {sentence : String} {m : Match}
    (h : entry.recognise? sentence = some m) : m.entry = entry := by
  obtain ⟨captures, -, rfl⟩ := Option.map_eq_some_iff.mp h
  rfl

/-- An entry that recognises a sentence answers what its expression captures. -/
theorem Entry.recognise?_eq_some_iff {entry : Entry} {sentence : String} {m : Match} :
    entry.recognise? sentence = some m
      ↔ m.entry = entry ∧ entry.regex.captures? sentence = some m.captures := by
  rw [Entry.recognise?, Option.map_eq_some_iff]
  constructor
  · rintro ⟨captures, hcaptures, rfl⟩
    exact ⟨rfl, hcaptures⟩
  · rintro ⟨rfl, hcaptures⟩
    exact ⟨m.captures, hcaptures, rfl⟩

/-- It recognises those that its expression occurs in. -/
theorem Entry.isSome_recognise? (entry : Entry) (sentence : String) :
    (entry.recognise? sentence).isSome = entry.regex.occursIn sentence := by
  cases hown : entry.recognise? sentence with
  | none => rw [entry.recognise?_eq_none_iff.mp hown, Option.isSome_none]
  | some m =>
      have hoccurs : entry.regex.occursIn sentence ≠ false := by
        rw [Ne, ← entry.recognise?_eq_none_iff, hown]
        exact Option.some_ne_none m
      rw [Option.isSome_some, eq_true_of_ne_false hoccurs]

namespace Registry

/-- A sentence goes to an entry if the entry recognises it and no entry before
it occurs in it. -/
theorem resolve?_eq_some_iff {r : Registry} {m : Match} {before behind : List Entry}
    (hentries : r.entries = before ++ m.entry :: behind) (sentence : String) :
    r.resolve? sentence = some m
      ↔ m.entry.recognise? (Text.trimmed sentence) = some m
        ∧ ∀ earlier ∈ before, earlier.regex.occursIn (Text.trimmed sentence) = false := by
  have hfirst : (∀ earlier ∈ before, earlier.regex.occursIn (Text.trimmed sentence) = false)
      ↔ before.findSome? (·.recognise? (Text.trimmed sentence)) = none := by
    simp only [List.findSome?_eq_none_iff, Entry.recognise?_eq_none_iff]
  rw [hfirst, resolve?, hentries, List.findSome?_append, List.findSome?_cons]
  cases hbefore : before.findSome? (·.recognise? (Text.trimmed sentence)) with
  | none =>
      cases hown : m.entry.recognise? (Text.trimmed sentence) with
      | some m' => simp
      | none =>
          -- No entry behind this one is the same.
          have hbehind : behind.findSome? (·.recognise? (Text.trimmed sentence)) ≠ some m := by
            intro h
            obtain ⟨later, hlater, hm⟩ := List.exists_of_findSome?_eq_some h
            obtain rfl := Entry.entry_of_recognise? hm
            rw [hown] at hm
            cases hm
          simpa using hbehind
  | some first =>
      -- An entry before this one is another one.
      have hother : first ≠ m := by
        rintro rfl
        obtain ⟨earlier, hearlier, hm⟩ := List.exists_of_findSome?_eq_some hbefore
        obtain rfl := Entry.entry_of_recognise? hm
        have hnodup := r.nodup_keys
        rw [keys, hentries, List.map_append, List.map_cons, List.nodup_append] at hnodup
        exact hnodup.2.2 _ (List.mem_map_of_mem hearlier) _ List.mem_cons_self rfl
      simpa using hother

/-- A sentence goes to the first entry whose pattern occurs in it. -/
theorem resolve?_eq_bind_find? (r : Registry) (sentence : String) :
    r.resolve? sentence
      = (r.entries.find? (·.regex.occursIn (Text.trimmed sentence))).bind
          (·.recognise? (Text.trimmed sentence)) := by
  rw [resolve?]
  induction r.entries with
  | nil => rfl
  | cons entry entries ih =>
      rw [List.findSome?_cons, List.find?_cons, ← entry.isSome_recognise?]
      cases hown : entry.recognise? (Text.trimmed sentence) with
      | none =>
          simp only [Option.isSome_none]
          exact ih
      | some m => simp only [Option.isSome_some, Option.bind_some, hown]

/-- The key that a sentence goes to depends on keys and expressions only. -/
theorem map_key_resolve? (r : Registry) (sentence : String) :
    (r.resolve? sentence).map Match.key
      = ((r.entries.map fun e => (e.key, e.regex)).find? fun p =>
          p.2.occursIn (Text.trimmed sentence)).map Prod.fst := by
  rw [resolve?]
  induction r.entries with
  | nil => rfl
  | cons entry entries ih =>
      rw [List.findSome?_cons, List.map_cons, List.find?_cons]
      cases hown : entry.recognise? (Text.trimmed sentence) with
      | none => rw [entry.recognise?_eq_none_iff.mp hown, ih]
      | some m =>
          have hoccurs : entry.regex.occursIn (Text.trimmed sentence) = true := by
            rw [← entry.isSome_recognise?, hown, Option.isSome_some]
          obtain rfl := Entry.entry_of_recognise? hown
          rw [hoccurs]
          rfl

/-- So does what is captured on the way. -/
theorem map_captures_resolve? (r : Registry) (sentence : String) :
    (r.resolve? sentence).map (fun m => (m.key, m.captures))
      = (r.entries.map fun e => (e.key, e.regex)).findSome? fun row =>
          (row.2.captures? (Text.trimmed sentence)).map (Prod.mk row.1) := by
  rw [resolve?, List.map_findSome?, List.findSome?_map]
  simp only [Function.comp_def, Entry.recognise?, Option.map_map, Match.key]

end Registry

end ScenarioSteps
