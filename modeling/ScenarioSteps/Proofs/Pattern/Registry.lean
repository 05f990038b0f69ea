import Mathlib.Data.List.Nodup
import ScenarioSteps.Pattern.Registry

/-!
# `ScenarioSteps.Proofs.Pattern.Registry`: what a registry knows about its past

A registry is made by registrations. Its `log` of these holds each key with
its pattern, the latest last. `Records` says what is left of a log in the
registry: the keys in the order in which they first occur, and under each key
the pattern that was logged last.

* `Registry.nodup_keys`, `Registry.isSome_position?_iff`: as the index agrees
  with the entries, keys are distinct, and the index has exactly these.
* `Registry.Records.put`: registering one more pattern keeps this up.
* `Registry.prefix_keys_put`, `Registry.position?_of_prefix`: the place of a key
  never changes.
-/

set_option autoImplicit false

namespace ScenarioSteps

/-- Patterns with their keys, in the order in which they were registered. -/
abbrev RegistrationLog :=
  List (String × StepPattern)

namespace RegistrationLog

/-- The keys in the order in which they first occur. -/
def keys (log : RegistrationLog) : List String :=
  (log.map Prod.fst).eraseDups

/-- The pattern that was logged last under a key. -/
def latest? (log : RegistrationLog) (key : String) : Option StepPattern :=
  (log.findRev? fun p => p.1 == key).map Prod.snd

end RegistrationLog

namespace Entry

/-- A check that succeeds keeps the key and the pattern. -/
theorem of_check_eq_ok {key : String} {pattern : StepPattern} {entry : Entry}
    (h : check key pattern = .ok entry) : entry.key = key ∧ entry.pattern = pattern := by
  unfold check at h
  split at h
  · cases h
  · split at h
    · split at h
      · cases h
        exact ⟨rfl, rfl⟩
      · split at h
        · cases h
          exact ⟨rfl, rfl⟩
        · cases h
    · cases h

end Entry

namespace Registry

/-! ### Queries by key and by place -/

/-- A key has the place of the entry that stands under it. -/
theorem position?_eq_some_iff (r : Registry) {key : String} {i : Nat} :
    r.position? key = some i ↔ r.entries[i]?.map Entry.key = some key :=
  r.indexes key i

/-- The entry under a key is the one at its place. -/
theorem get?_eq (r : Registry) (key : String) :
    r.get? key = (r.position? key).bind (r.entries[·]?) :=
  rfl

/-- A registry is as large as it has keys. -/
theorem size_eq (r : Registry) : r.size = r.keys.length :=
  List.length_map .. |>.symm

/-- No key stands at two places, as the index has one place for it. -/
theorem nodup_keys (r : Registry) : r.keys.Nodup := by
  rw [List.nodup_iff_injective_getElem]
  intro i j hij
  have hplace (k : Fin r.keys.length) : r.position? r.keys[k] = some k.val := by
    rw [position?_eq_some_iff, ← List.getElem?_map]
    exact List.getElem?_eq_getElem k.isLt
  have hsame : some i.val = some j.val := by
    rw [← hplace i, ← hplace j]
    exact congrArg r.position? hij
  exact Fin.ext (Option.some.inj hsame)

/-- Exactly the keys of a registry have a place. -/
theorem isSome_position?_iff (r : Registry) {key : String} :
    (r.position? key).isSome = true ↔ key ∈ r.keys := by
  simp only [Option.isSome_iff_exists, position?_eq_some_iff, ← List.getElem?_map]
  exact List.mem_iff_getElem?.symm

/-- A registry contains exactly its keys. -/
theorem contains_iff (r : Registry) {key : String} :
    r.contains key = true ↔ key ∈ r.keys :=
  r.isSome_position?_iff

/-- The entry under a key is the one that has this key. -/
theorem get?_eq_some_iff (r : Registry) {key : String} {entry : Entry} :
    r.get? key = some entry ↔ entry ∈ r.entries ∧ entry.key = key := by
  rw [get?_eq, Option.bind_eq_some_iff, List.mem_iff_getElem?]
  constructor
  · rintro ⟨i, hplace, hentry⟩
    rw [position?_eq_some_iff, hentry] at hplace
    exact ⟨⟨i, hentry⟩, Option.some.inj hplace⟩
  · rintro ⟨⟨i, hentry⟩, hkey⟩
    refine ⟨i, ?_, hentry⟩
    rw [position?_eq_some_iff, hentry, Option.map_some, hkey]

/-- A key without a place is none of the registry. -/
theorem position?_eq_none_iff (r : Registry) {key : String} :
    r.position? key = none ↔ key ∉ r.keys := by
  rw [← Option.not_isSome_iff_eq_none, isSome_position?_iff]

/-- A key that keeps its place among the keys keeps its place. -/
theorem position?_of_prefix {r r' : Registry} (h : r.keys <+: r'.keys) {key : String} {i : Nat}
    (hi : r.position? key = some i) : r'.position? key = some i := by
  rw [position?_eq_some_iff, ← List.getElem?_map] at hi ⊢
  obtain ⟨hlt, hkey⟩ := List.getElem?_eq_some_iff.mp hi
  exact List.getElem?_eq_some_iff.mpr ⟨_, (h.getElem hlt).symm.trans hkey⟩

/-! ### Putting an entry -/

/-- An entry under a taken key takes the place of the one before it. -/
theorem put_of_position? {r : Registry} {entry : Entry} {place : Nat}
    (h : r.position? entry.key = some place) :
    (r.put entry).entries = r.entries.set place entry ∧ (r.put entry).index = r.index := by
  unfold put
  split
  · next other hother =>
      obtain rfl : other = place := Option.some.inj (hother.symm.trans h)
      exact ⟨rfl, rfl⟩
  · next hnone =>
      rw [position?, hnone] at h
      cases h

/-- An entry under a new key goes behind all others. -/
theorem put_of_not_mem {r : Registry} {entry : Entry} (h : entry.key ∉ r.keys) :
    (r.put entry).entries = r.entries ++ [entry]
      ∧ (r.put entry).index = (entry.key, r.entries.length) :: r.index := by
  have hnone := (position?_eq_none_iff r).mpr h
  unfold put
  split
  · next place hplace =>
      rw [position?, hplace] at hnone
      cases hnone
  · exact ⟨rfl, rfl⟩

/-- The first entry stands alone. -/
theorem entries_put_empty (entry : Entry) : (empty.put entry).entries = [entry] :=
  (put_of_not_mem List.not_mem_nil).1

/-- An entry under a new key puts the key behind all others, and one under a taken key adds
none. -/
theorem keys_put (r : Registry) (entry : Entry) :
    (r.put entry).keys
      = if entry.key ∈ r.keys then r.keys else r.keys ++ [entry.key] := by
  by_cases hmem : entry.key ∈ r.keys
  · obtain ⟨place, hplace⟩ := Option.isSome_iff_exists.mp (r.isSome_position?_iff.mpr hmem)
    have hkey : r.keys[place]? = some entry.key := by
      rw [keys, List.getElem?_map]
      exact r.position?_eq_some_iff.mp hplace
    obtain ⟨hlt, hkey⟩ := List.getElem?_eq_some_iff.mp hkey
    rw [if_pos hmem, keys, (put_of_position? hplace).1, List.map_set, ← hkey]
    exact List.set_getElem_self hlt
  · rw [if_neg hmem, keys, (put_of_not_mem hmem).1]
    exact List.map_append

/-- No key that is there changes its place. -/
theorem prefix_keys_put (r : Registry) (entry : Entry) : r.keys <+: (r.put entry).keys := by
  rw [keys_put]
  split
  · exact List.prefix_refl r.keys
  · exact List.prefix_append r.keys _

/-- An entry stands under its key, and all other keys are as before. -/
theorem get?_put (r : Registry) (entry : Entry) (key : String) :
    (r.put entry).get? key = if key = entry.key then some entry else r.get? key := by
  by_cases hmem : entry.key ∈ r.keys
  · obtain ⟨place, hplace⟩ := Option.isSome_iff_exists.mp (r.isSome_position?_iff.mpr hmem)
    obtain ⟨hentries, hindex⟩ := put_of_position? hplace
    obtain ⟨old, hold, -⟩ := Option.map_eq_some_iff.mp (r.position?_eq_some_iff.mp hplace)
    have hlt := (List.getElem?_eq_some_iff.mp hold).1
    rw [get?, hindex, hentries]
    split
    · next hkey =>
        subst hkey
        rw [show r.index.lookup entry.key = some place from hplace, Option.bind_some,
          List.getElem?_set_self hlt]
    · next hkey =>
        refine Option.bind_congr fun i hi => List.getElem?_set_ne fun hplaces => hkey ?_
        -- A second key at the place would be the key of the entry there.
        have hi' := r.position?_eq_some_iff.mp (hplaces ▸ hi)
        exact Option.some.inj (hi'.symm.trans (r.position?_eq_some_iff.mp hplace))
  · obtain ⟨hentries, hindex⟩ := put_of_not_mem hmem
    rw [get?, hindex, hentries, Indexes.lookup_cons_eq]
    split
    · exact List.getElem?_concat_length
    · refine Option.bind_congr fun i hi => List.getElem?_append_left ?_
      obtain ⟨old, hold, -⟩ := Option.map_eq_some_iff.mp (r.position?_eq_some_iff.mp hi)
      exact (List.getElem?_eq_some_iff.mp hold).1

/-! ### The log of a registry -/

/-- What is left of a log in a registry. -/
structure Records (r : Registry) (log : RegistrationLog) : Prop where
  keys_eq : r.keys = log.keys
  latest_eq : ∀ key, (r.get? key).map Entry.pattern = log.latest? key

/-- An empty registry records an empty log. -/
theorem records_empty : empty.Records [] :=
  ⟨rfl, fun _ => rfl⟩

/-- Putting an entry adds it to the log. -/
theorem Records.put {r : Registry} {log : RegistrationLog} (h : r.Records log) (entry : Entry) :
    (r.put entry).Records (log ++ [(entry.key, entry.pattern)]) where
  keys_eq := by
    rw [keys_put, h.keys_eq, RegistrationLog.keys, RegistrationLog.keys, List.map_append,
      List.eraseDups_append]
    -- A key that is logged again keeps its first place, and a new one comes last.
    by_cases hmem : entry.key ∈ log.map Prod.fst
    · rw [if_pos (List.mem_eraseDups.mpr hmem)]
      simp [List.removeAll, hmem]
    · rw [if_neg fun hkey => hmem (List.mem_eraseDups.mp hkey)]
      simp [List.removeAll, hmem, List.eraseDups_cons]
  latest_eq key := by
    rw [get?_put, RegistrationLog.latest?, List.findRev?_eq_find?_reverse, List.reverse_append,
      List.reverse_singleton, List.singleton_append, List.find?_cons]
    -- The log is searched from its end, where this entry is.
    by_cases hkey : key = entry.key
    · rw [if_pos hkey, hkey, beq_self_eq_true]
      rfl
    · rw [if_neg hkey, beq_eq_false_iff_ne.mpr (Ne.symm hkey), h.latest_eq,
        RegistrationLog.latest?, List.findRev?_eq_find?_reverse]

/-- A registration that succeeds is recorded, and no key changes its place. -/
theorem Records.register {r r' : Registry} {log : RegistrationLog} (h : r.Records log)
    {key : String} {pattern : StepPattern} {previous? : Option StepPattern}
    (hok : r.register key pattern = .ok (previous?, r')) :
    r'.Records (log ++ [(key, pattern)]) ∧ r.keys <+: r'.keys := by
  rw [Registry.register] at hok
  cases hcheck : Entry.check key pattern with
  | error fault =>
      rw [hcheck] at hok
      cases hok
  | ok entry =>
      rw [hcheck] at hok
      cases hok
      obtain ⟨rfl, rfl⟩ := Entry.of_check_eq_ok hcheck
      exact ⟨h.put entry, prefix_keys_put r entry⟩

end Registry

end ScenarioSteps
