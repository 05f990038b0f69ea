import ScenarioSteps.Proofs.Pattern.Dispatch

/-!
# `ScenarioSteps.Proofs.Pattern.Priority`: the order of registration decides

All matches of a sentence are the entries whose patterns occur in it, in the order
of their places, and the sentence goes to the first of them. So what a
registration can change is limited by the place that it fills:

* `resolve?_put_of_not_mem`: an entry under a new key stands behind all others. It
  gets no sentence that an entry before it already had.
* `resolve?_put_of_mem`: an entry under a taken key stands where the old one stood.
  Sentences that go to neither of the two go where they went before.

`dispatch_by_priority` puts this together for any registry and any registration.
-/

set_option autoImplicit false

namespace ScenarioSteps

namespace Registry

/-! ### All matches of a sentence -/

/-- A sentence goes to the first of all its matches. -/
theorem resolve?_eq_head? (r : Registry) (sentence : String) :
    r.resolve? sentence = (r.resolveAll sentence).head? :=
  List.head?_filterMap.symm

/-- The entries of all matches are those whose patterns occur in the sentence. -/
theorem map_entry_resolveAll (r : Registry) (sentence : String) :
    (r.resolveAll sentence).map Match.entry
      = r.entries.filter fun e => e.regex.occursIn (Text.trimmed sentence) := by
  rw [resolveAll]
  induction r.entries with
  | nil => rfl
  | cons entry entries ih =>
      rw [List.filterMap_cons, List.filter_cons, ← entry.isSome_recognise?]
      cases hown : entry.recognise? (Text.trimmed sentence) with
      | none => exact ih
      | some m =>
          obtain ⟨hentry, -⟩ := Entry.recognise?_eq_some_iff.mp hown
          rw [Option.isSome_some, if_pos rfl, List.map_cons, hentry]
          exact congrArg (entry :: ·) ih

/-- Entries that are picked by a test stand at places that increase. -/
theorem exists_places (r : Registry) (test : Entry → Bool) :
    ∃ places : List Nat, places.Pairwise (· < ·)
      ∧ (r.entries.filter test).map (fun e => r.position? e.key) = places.map some := by
  refine ⟨(r.entries.zipIdx.filter fun p => test p.1).map Prod.snd, ?_, ?_⟩
  · -- Picking keeps the order, and all places in order are the numbers from zero on.
    have hsublist : ((r.entries.zipIdx.filter fun p => test p.1).map Prod.snd).Sublist
        (r.entries.zipIdx.map Prod.snd) := List.filter_sublist.map _
    refine List.Pairwise.sublist hsublist ?_
    rw [List.zipIdx_map_snd]
    exact List.pairwise_lt_range'
  · have hentries : r.entries.filter test
        = (r.entries.zipIdx.filter fun p => test p.1).map Prod.fst := by
      conv_lhs => rw [← List.zipIdx_map_fst 0 r.entries, List.filter_map]
      rfl
    rw [hentries, List.map_map, List.map_map]
    refine List.map_congr_left fun p hp => ?_
    have hplace := List.mem_zipIdx_iff_getElem?.mp (List.mem_filter.mp hp).1
    show r.position? p.1.key = some p.2
    rw [position?_eq_some_iff, hplace, Option.map_some]

/-! ### What a registration changes -/

section

variable {r : Registry} {entry : Entry} {sentence : String}

/-- A new entry takes no sentence from the others. -/
theorem resolve?_put_of_not_mem (hnew : entry.key ∉ r.keys) {m : Match}
    (h : r.resolve? sentence = some m) : (r.put entry).resolve? sentence = some m := by
  rw [resolve?] at h ⊢
  rw [(put_of_not_mem hnew).1, List.findSome?_append, h, Option.some_or]

/-- What dispatch answers where the entry at one place is known. An entry that
recognises the sentence gets it unless an entry before it does. -/
theorem findSome?_of_place {before behind : List Entry} {key : String}
    (hkey : entry.key = key)
    (h : ((before ++ entry :: behind).findSome? (·.recognise? sentence)).map Match.key ≠ some key) :
    (before ++ entry :: behind).findSome? (·.recognise? sentence)
      = (before ++ behind).findSome? (·.recognise? sentence) := by
  rw [List.findSome?_append, List.findSome?_cons] at h
  rw [List.findSome?_append, List.findSome?_append, List.findSome?_cons]
  cases hbefore : before.findSome? (·.recognise? sentence) with
  | some first => rfl
  | none =>
      cases hown : entry.recognise? sentence with
      | none => rfl
      | some m =>
          -- The sentence would go to the entry at this place.
          obtain ⟨hentry, -⟩ := Entry.recognise?_eq_some_iff.mp hown
          rw [hbefore, hown] at h
          refine absurd ?_ h
          show some m.entry.key = some key
          rw [hentry, hkey]

/-- In the place of another one, it changes nothing for sentences that go to neither of the
two. -/
theorem resolve?_put_of_mem (htaken : entry.key ∈ r.keys)
    (hold : (r.resolve? sentence).map Match.key ≠ some entry.key)
    (hnew : ((r.put entry).resolve? sentence).map Match.key ≠ some entry.key) :
    (r.put entry).resolve? sentence = r.resolve? sentence := by
  obtain ⟨place, hplace⟩ := Option.isSome_iff_exists.mp (r.isSome_position?_iff.mpr htaken)
  obtain ⟨old, hentry, hkey⟩ := Option.map_eq_some_iff.mp (r.position?_eq_some_iff.mp hplace)
  obtain ⟨hlt, hget⟩ := List.getElem?_eq_some_iff.mp hentry
  have hentries : r.entries = r.entries.take place ++ old :: r.entries.drop (place + 1) := by
    rw [← hget, ← List.drop_eq_getElem_cons hlt, List.take_append_drop]
  have hput : (r.put entry).entries
      = r.entries.take place ++ entry :: r.entries.drop (place + 1) := by
    rw [(put_of_position? hplace).1, List.set_eq_take_append_cons_drop, if_pos hlt]
  -- Both registries answer as the entries at the other places do.
  rw [resolve?, hentries] at hold
  rw [resolve?, hput] at hnew
  rw [resolve?, resolve?, hput, findSome?_of_place rfl hnew]
  conv_rhs => rw [hentries, findSome?_of_place hkey hold]

end

/-- A registration that succeeds puts an entry with its key and pattern. -/
theorem exists_put_of_register {r r' : Registry} {key : String} {pattern : StepPattern}
    (h : (r.register key pattern).map Prod.snd = .ok r' ∨ r.registerNew key pattern = .ok r') :
    ∃ entry : Entry, entry.key = key ∧ entry.pattern = pattern ∧ r' = r.put entry := by
  have hregister : (r.register key pattern).map Prod.snd = .ok r' := by
    rcases h with h | h
    · exact h
    · rw [registerNew] at h
      split at h
      · cases h
      · exact h
  rw [register] at hregister
  cases hcheck : Entry.check key pattern with
  | error fault =>
      rw [hcheck] at hregister
      cases hregister
  | ok entry =>
      rw [hcheck] at hregister
      cases hregister
      obtain ⟨hkey, hpattern⟩ := Entry.of_check_eq_ok hcheck
      exact ⟨entry, hkey, hpattern, rfl⟩

/-- The first pattern that was registered wins. All matches of a sentence are the
entries whose patterns occur in the trimmed sentence, each once and at increasing
places, with what they capture there, and the sentence goes to the first of them. So
no registration under a new key moves a sentence that already went to an entry, and
one under a taken key moves only sentences that go to this key before or after. -/
theorem dispatch_by_priority (r : Registry) (sentence : String) :
    (r.resolveAll sentence).map Match.entry
        = r.entries.filter (fun e => e.regex.occursIn (Text.trimmed sentence))
      ∧ (∀ m ∈ r.resolveAll sentence,
          m.entry.regex.captures? (Text.trimmed sentence) = some m.captures)
      ∧ (∃ places : List Nat, places.Pairwise (· < ·)
          ∧ (r.resolveAll sentence).map (fun m => r.position? m.key) = places.map some)
      ∧ r.resolve? sentence = (r.resolveAll sentence).head?
      ∧ (r.resolve? sentence = none ↔ r.resolveAll sentence = [])
      ∧ ∀ (key : String) (pattern : StepPattern) (r' : Registry),
          (r.register key pattern).map Prod.snd = .ok r' ∨ r.registerNew key pattern = .ok r' →
            (key ∉ r.keys → ∀ m, r.resolve? sentence = some m → r'.resolve? sentence = some m)
            ∧ (key ∈ r.keys → (r.resolve? sentence).map Match.key ≠ some key →
                (r'.resolve? sentence).map Match.key ≠ some key →
                r'.resolve? sentence = r.resolve? sentence) := by
  have hhead := r.resolve?_eq_head? sentence
  refine ⟨r.map_entry_resolveAll sentence, ?_, ?_, hhead, ?_, ?_⟩
  · intro m hm
    obtain ⟨entry, -, hown⟩ := List.mem_filterMap.mp hm
    obtain ⟨rfl, hcaptures⟩ := Entry.recognise?_eq_some_iff.mp hown
    exact hcaptures
  -- Matches are entries picked by a test, and these stand at increasing places.
  · obtain ⟨places, hincrease, hplaces⟩ :=
      r.exists_places fun e => e.regex.occursIn (Text.trimmed sentence)
    refine ⟨places, hincrease, ?_⟩
    rw [← hplaces, ← map_entry_resolveAll, List.map_map]
    rfl
  · rw [hhead, List.head?_eq_none_iff]
  · intro key pattern r' h
    obtain ⟨entry, rfl, -, rfl⟩ := exists_put_of_register h
    exact ⟨fun hnew m hm => resolve?_put_of_not_mem hnew hm, resolve?_put_of_mem⟩

end Registry

end ScenarioSteps
