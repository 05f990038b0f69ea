import Mathlib.Data.List.Nodup
import ScenarioSteps.Toml.Read

/-!
# `ScenarioSteps.Proofs.Toml.Keys`: a document gives each key once

No name stands twice among the entries of a document (`distinct_of_read`), so what stands
under a key is one value, and taking that entry away leaves a document without the key.

Every operation on the tables either keeps the names of the outermost table or puts one
new name behind them. Reading is a chain of such operations, of which only the results
count here: `Scan.Yields` says what holds of the result of a scan.
-/

set_option autoImplicit false

namespace ScenarioSteps.Toml

namespace Entries

variable {entries entries' : Entries}

/-- The names of the keys. -/
def names (entries : Entries) : List String :=
  entries.map (·.1.name)

/-- No name stands twice. -/
def Distinct (entries : Entries) : Prop :=
  entries.names.Nodup

/-- A name that nothing is found under is no name of an entry. -/
theorem not_mem_names_iff (name : String) :
    name ∉ entries.names ↔ entries.get? name = none := by
  simp [names, get?, List.find?_eq_none]

/-- Behind the names of a table there is room for a new one. -/
theorem Distinct.append {key : Key} (hdistinct : entries.Distinct)
    (hnew : key.name ∉ entries.names) (node : Node) :
    Distinct (entries ++ [(key, node)]) := by
  rw [Distinct, names, List.map_append]
  exact List.Nodup.append hdistinct (List.nodup_singleton _) (List.disjoint_singleton.mpr hnew)

/-- What replaces the value under a key keeps the names, or puts the key behind them. -/
theorem names_alter {key : Key} {f : Option Node → Option Node}
    (h : entries.alter key f = some entries') :
    entries'.names = entries.names
      ∨ key.name ∉ entries.names ∧ entries'.names = entries.names ++ [key.name] := by
  induction entries generalizing entries' with
  | nil =>
      obtain ⟨node, -, rfl⟩ := Option.map_eq_some_iff.mp h
      exact .inr ⟨List.not_mem_nil, rfl⟩
  | cons entry rest ih =>
      obtain ⟨other, node⟩ := entry
      simp only [alter] at h
      split at h
      · obtain ⟨replaced, -, rfl⟩ := Option.map_eq_some_iff.mp h
        exact .inl rfl
      · next hother =>
          obtain ⟨rest', hrest, rfl⟩ := Option.map_eq_some_iff.mp h
          rcases ih hrest with heq | ⟨hnew, heq⟩
          · exact .inl (congrArg (other.name :: ·) heq)
          -- The key is new behind the first entry, and the first entry has another one.
          · refine .inr ⟨?_, congrArg (other.name :: ·) heq⟩
            intro hmem
            rcases List.mem_cons.mp hmem with hfirst | hmem
            · exact hother (beq_iff_eq.mpr hfirst.symm)
            · exact hnew hmem

/-- To alter what stands under a key keeps names distinct. -/
theorem Distinct.alter {key : Key} {f : Option Node → Option Node} (hdistinct : entries.Distinct)
    (h : entries.alter key f = some entries') : entries'.Distinct := by
  rcases names_alter h with heq | ⟨hnew, heq⟩
  · rw [Distinct, heq]
    exact hdistinct
  · rw [Distinct, heq]
    exact List.Nodup.append hdistinct (List.nodup_singleton _) (List.disjoint_singleton.mpr hnew)

/-- So does to put something under a key. -/
theorem Distinct.put {dotted : Bool} {key : Key} {node : Node} {form : Form}
    (hdistinct : entries.Distinct) (h : put dotted key node form entries = some entries') :
    entries'.Distinct := by
  unfold Entries.put at h
  split at h
  · cases h
  · next hallowed =>
      cases h
      simp only [Bool.or_eq_true, not_or, Option.not_isSome_iff_eq_none] at hallowed
      exact hdistinct.append ((not_mem_names_iff _).mpr hallowed.2) node

/-- So does to open a table there. -/
theorem Distinct.openHere {key : Key} (hdistinct : entries.Distinct)
    (h : openHere key entries = some entries') : entries'.Distinct := by
  unfold Entries.openHere at h
  split at h
  · next hnone =>
      cases h
      exact hdistinct.append ((not_mem_names_iff _).mpr hnone) _
  · cases h
    have hkept : Distinct (entries.remove key.name) :=
      List.Nodup.sublist (List.Sublist.map _ List.filter_sublist) hdistinct
    refine hkept.append ?_ _
    simp [names, remove]
  · cases h

/-- An edit keeps the names distinct if its change does so in the table it is made in. -/
theorem Distinct.edit {dotted : Bool} {change : Form → Entries → Option Entries}
    {path : List Key} {form : Form}
    (hchange : ∀ entries', entries.Distinct → change form entries = some entries' →
      entries'.Distinct)
    (hdistinct : entries.Distinct) (h : edit dotted change path form entries = some entries') :
    entries'.Distinct := by
  cases path with
  | nil => exact hchange entries' hdistinct h
  | cons key path =>
      rw [Entries.edit] at h
      exact hdistinct.alter h

/-- So does to assign a value along a path of keys. -/
theorem Distinct.assign {path : List Key} {key : Key} {node : Node} {form : Form}
    (hdistinct : entries.Distinct) (h : assign path key node form entries = some entries') :
    entries'.Distinct :=
  hdistinct.edit (fun _ hdistinct => hdistinct.put) h

/-- The entries around a key do not have that key. -/
theorem Distinct.exists_split {name : String} {node : Node} (hdistinct : entries.Distinct)
    (h : entries.get? name = some node) :
    ∃ (before : Entries) (line : Nat) (after : Entries),
      entries = before ++ (⟨name, line⟩, node) :: after
      ∧ entries.remove name = before ++ after ∧ name ∉ after.names := by
  obtain ⟨⟨⟨found, line⟩, node'⟩, hfind, rfl⟩ := Option.map_eq_some_iff.mp h
  obtain ⟨hname, before, after, rfl, hbefore⟩ := List.find?_eq_some_iff_append.mp hfind
  obtain rfl : found = name := beq_iff_eq.mp hname
  have hafter : found ∉ names after := by
    rw [Distinct, names, List.map_append] at hdistinct
    exact (List.nodup_cons.mp hdistinct.of_append_right).1
  refine ⟨before, line, after, rfl, ?_, hafter⟩
  have hkept : remove after found = after := by
    refine List.filter_eq_self.mpr fun entry hentry => bne_iff_ne.mpr ?_
    rintro rfl
    exact hafter (List.mem_map_of_mem hentry)
  have hkept' : remove before found = before :=
    List.filter_eq_self.mpr fun entry hentry => by simpa [bne] using hbefore entry hentry
  rw [remove, List.filter_append, List.filter_cons_of_neg (by simp)]
  exact congrArg₂ (· ++ ·) hkept' hkept

end Entries

namespace Draft

variable {d d' : Draft} {path : List Key} {key : Key}

/-- An assignment leaves the names of a document distinct. -/
theorem distinct_assign {node : Node} (hdistinct : d.root.Distinct)
    (h : d.assign path key node = some d') : d'.root.Distinct := by
  obtain ⟨root, hroot, rfl⟩ := Option.map_eq_some_iff.mp h
  exact hdistinct.edit (fun _ hdistinct => hdistinct.assign) hroot

/-- So does the header of a table. -/
theorem distinct_openTable (hdistinct : d.root.Distinct)
    (h : d.openTable path key = some d') : d'.root.Distinct := by
  obtain ⟨root, hroot, rfl⟩ := Option.map_eq_some_iff.mp h
  exact hdistinct.edit (fun _ hdistinct => hdistinct.openHere) hroot

/-- So does the header of an element of an array. -/
theorem distinct_openElement (hdistinct : d.root.Distinct)
    (h : d.openElement path key = some d') : d'.root.Distinct := by
  obtain ⟨root, hroot, rfl⟩ := Option.map_eq_some_iff.mp h
  exact hdistinct.edit (fun _ hdistinct => hdistinct.alter) hroot

end Draft

namespace Scan

variable {α β : Type}

/-- Whatever a scan gives satisfies a predicate. -/
def Yields (p : α → Prop) (scan : Scan α) : Prop :=
  ∀ cursor a cursor', scan.run cursor = .ok (a, cursor') → p a

/-- A scan that reads nothing yields what it is given. -/
theorem yields_pure {p : α → Prop} {a : α} (h : p a) : Yields p (pure a : Scan α) := by
  intro cursor b cursor' hrun
  cases hrun
  exact h

/-- A scan that fails yields nothing, so anything can be said of its result. -/
theorem yields_throw (p : α → Prop) (malformed : Malformed) :
    Yields p (throw malformed : Scan α) :=
  fun _ _ _ hrun => nomatch hrun

/-- Two scans one after the other yield what the second one does. -/
theorem yields_bind {q : α → Prop} {p : β → Prop} {scan : Scan α} {next : α → Scan β}
    (hscan : Yields q scan) (hnext : ∀ a, q a → Yields p (next a)) :
    Yields p (scan >>= next) := by
  intro cursor b cursor' hrun
  rw [StateT.run_bind] at hrun
  cases hfirst : scan.run cursor with
  | error malformed => rw [hfirst] at hrun; cases hrun
  | ok result =>
      rw [hfirst] at hrun
      exact hnext result.1 (hscan cursor result.1 result.2 hfirst) _ _ _ hrun

/-- Nothing need be known of what comes before the result. -/
theorem yields_after {p : β → Prop} {scan : Scan α} {next : α → Scan β}
    (hnext : ∀ a, Yields p (next a)) : Yields p (scan >>= next) :=
  yields_bind (q := fun _ => True) (fun _ _ _ _ => trivial) fun a _ => hnext a

variable {draft : Draft}

/-- A revision of a draft that keeps the keys distinct gives such a draft. -/
theorem yields_revise {line : Nat} {draft? : Option Draft}
    (h : ∀ draft', draft? = some draft' → draft'.root.Distinct) :
    Yields (fun draft' => draft'.root.Distinct) (revise line draft?) := by
  cases draft? with
  | none => exact yields_throw _ _
  | some draft' => exact yields_pure (h draft' rfl)

/-- A header leaves the names of a document distinct. -/
theorem yields_header (h : draft.root.Distinct) :
    Yields (fun draft' => draft'.root.Distinct) (header draft) := by
  refine yields_after fun line => yields_after fun _ => yields_after fun double => ?_
  cases double with
  | true =>
      refine yields_after fun _ => yields_after fun _ => yields_after fun _ => ?_
      exact yields_revise fun draft' => Draft.distinct_openElement h
  | false =>
      refine yields_after fun _ => yields_after fun _ => yields_after fun _ => ?_
      exact yields_revise fun draft' => Draft.distinct_openTable h

/-- So does a line with an assignment. -/
theorem yields_assignment (h : draft.root.Distinct) :
    Yields (fun draft' => draft'.root.Distinct) (assignment draft) := by
  refine yields_after fun line => yields_after fun _ => yields_after fun _ => ?_
  refine yields_after fun _ => yields_after fun _ => yields_after fun _ => ?_
  exact yields_revise fun draft' => Draft.distinct_assign h

/-- Every statement keeps the keys distinct, and so do all of them. -/
theorem yields_statements (fuel : Nat) (h : draft.root.Distinct) :
    Yields (fun draft' => draft'.root.Distinct) (statements fuel draft) := by
  induction fuel generalizing draft with
  | zero => exact yields_after fun _ => yields_throw _ _
  | succ fuel ih =>
      refine yields_after fun _ => yields_after fun left => ?_
      split
      · exact yields_pure h
      · exact yields_bind (yields_header h) fun draft' => ih
      · split
        · exact yields_after fun _ => ih h
        · exact yields_bind (yields_assignment h) fun draft' => ih

end Scan

/-- The entries of a document have distinct names. -/
theorem distinct_of_read {text : String} {entries : Entries} (h : read text = .ok entries) :
    entries.Distinct := by
  obtain ⟨cs, hread⟩ : ∃ cs : List Char,
      read text = ((Scan.statements (cs.length + 1) {}).run ⟨cs, 1⟩).map (·.1.root) := ⟨_, rfl⟩
  rw [hread] at h
  cases hrun : (Scan.statements (cs.length + 1) {}).run ⟨cs, 1⟩ with
  | error malformed => rw [hrun] at h; cases h
  | ok result =>
      rw [hrun] at h
      cases h
      have hstart : (({} : Draft).root).Distinct := List.nodup_nil
      exact Scan.yields_statements _ hstart _ result.1 result.2 hrun

end ScenarioSteps.Toml
