import ScenarioSteps.Pattern.Basic
import ScenarioSteps.Fault
import ScenarioSteps.Regex.Match
import ScenarioSteps.Regex.Parse

/-!
# `ScenarioSteps.Pattern.Registry`: patterns by key, in order of priority

A registry holds patterns under distinct keys, in the order in which the keys
were first registered. This order is the priority of dispatch. Registering a
key again replaces its pattern in place. An index finds the place of a key; a
registry carries the proof that it agrees with the entries (`Indexes`).

A pattern enters a registry as an `Entry`, which holds its regular expression
and the facts that registration checks: the source reads as that expression,
the number of groups is the declared arity, and the sample sentence matches.
A defect leaves the registry as it was, since an operation that fails answers
with no registry at all.
-/

set_option autoImplicit false

namespace ScenarioSteps

/-- A pattern that has passed registration. -/
structure Entry where
  key : String
  pattern : StepPattern
  regex : Regex
  reads : Regex.parse pattern.source = .ok regex
  arity_eq : regex.groupCount = pattern.arity
  sample_occurs : ∀ sample, pattern.sample? = some sample → regex.occursIn sample = true

namespace Entry

/-- Checks a pattern. Of several defects the first is reported: the source, the
arity, the sample. -/
def check (key : String) (pattern : StepPattern) : Except Fault Entry :=
  match reads : Regex.parse pattern.source with
  | .error defect => .error { cause := .invalidPattern key pattern.source defect.message }
  | .ok regex =>
    if arity_eq : regex.groupCount = pattern.arity then
      match sample_eq : pattern.sample? with
      | none => .ok { key, pattern, regex, reads, arity_eq, sample_occurs := by simp [sample_eq] }
      | some sample =>
        if occurs : regex.occursIn sample = true then
          .ok { key, pattern, regex, reads, arity_eq, sample_occurs := by simp [sample_eq, occurs] }
        else .error { cause := .exampleMismatch key sample }
    else .error { cause := .arityMismatch key pattern.arity regex.groupCount }

end Entry

/-- An index has the key of each entry, at the place of the entry, and nothing else. -/
def Indexes (index : List (String × Nat)) (entries : List Entry) : Prop :=
  ∀ key place, index.lookup key = some place ↔ entries[place]?.map Entry.key = some key

namespace Indexes

variable {index : List (String × Nat)} {entries : List Entry} {entry : Entry} {place : Nat}

/-- What stands first in an index is found first. -/
theorem lookup_cons_eq (index : List (String × Nat)) (taken key : String) (place : Nat) :
    ((taken, place) :: index).lookup key
      = if key = taken then some place else index.lookup key := by
  rw [List.lookup_cons]
  by_cases h : key = taken
  · rw [if_pos h, h, beq_self_eq_true]
  · rw [if_neg h, beq_false_of_ne h]

/-- An entry under a new key goes behind all others. -/
theorem push (h : Indexes index entries) (fresh : index.lookup entry.key = none) :
    Indexes ((entry.key, entries.length) :: index) (entries ++ [entry]) := by
  intro key i
  rw [lookup_cons_eq]
  rcases Nat.lt_trichotomy i entries.length with before | here | behind
  · rw [List.getElem?_append_left before, ← h key i]
    split
    · next hkey =>
        rw [hkey, fresh]
        simp [Nat.ne_of_gt before]
    · rfl
  · rw [here, List.getElem?_concat_length, Option.map_some]
    split
    · next hkey => simp [hkey]
    · next hkey => simp [Ne.symm hkey, h key]
  · have hnone : entries[i]? = none := List.getElem?_eq_none (Nat.le_of_lt behind)
    rw [List.getElem?_eq_none (by simp only [List.length_append, List.length_singleton]; omega)]
    split
    · simp [Nat.ne_of_lt behind]
    · rw [h key i, hnone]

/-- An entry under the key of another one takes its place. -/
theorem set (h : Indexes index entries) (taken : index.lookup entry.key = some place) :
    Indexes index (entries.set place entry) := by
  intro key i
  have hold := (h entry.key place).mp taken
  rw [h key i, List.getElem?_set]
  split
  · next hi =>
      subst hi
      split
      · rw [hold]
        rfl
      · next hlength =>
          rw [List.getElem?_eq_none (by omega)] at hold
          cases hold
  · rfl

end Indexes

/-- Patterns under distinct keys, in order of priority. -/
structure Registry where
  entries : List Entry
  /-- The place of each key in the order of priority. -/
  index : List (String × Nat)
  indexes : Indexes index entries

namespace Registry

/-- The registry without patterns. -/
def empty : Registry :=
  ⟨[], [], fun key place => by simp⟩

/-- The keys in order of priority. -/
def keys (r : Registry) : List String :=
  r.entries.map Entry.key

/-- The number of patterns. -/
def size (r : Registry) : Nat :=
  r.entries.length

/-- The place of a key in the order of priority, from zero. -/
def position? (r : Registry) (key : String) : Option Nat :=
  r.index.lookup key

/-- The entry under a key. -/
def get? (r : Registry) (key : String) : Option Entry :=
  (r.index.lookup key).bind (r.entries[·]?)

/-- The entry under a key that must be there. -/
def get (r : Registry) (key : String) : Except Fault Entry :=
  match r.get? key with
  | some entry => .ok entry
  | none => .error { cause := .patternNotFound key }

/-- Whether a key is taken. -/
def contains (r : Registry) (key : String) : Bool :=
  (r.index.lookup key).isSome

/-- The entries of one role, in order. -/
def ofKind (r : Registry) (kind : PatternKind) : List Entry :=
  r.entries.filter (·.pattern.kind == kind)

/-- The entries that carry a tag, in order. -/
def withTag (r : Registry) (tag : String) : List Entry :=
  r.entries.filter (·.pattern.hasTag tag)

/-- Puts an entry under its key: in the place of an entry with the same key,
or behind all others. -/
def put (r : Registry) (entry : Entry) : Registry :=
  match h : r.index.lookup entry.key with
  | some place => ⟨r.entries.set place entry, r.index, r.indexes.set h⟩
  | none =>
    ⟨r.entries ++ [entry], (entry.key, r.entries.length) :: r.index, r.indexes.push h⟩

/-- Registers a pattern, and answers what it replaced. -/
def register (r : Registry) (key : String) (pattern : StepPattern) :
    Except Fault (Option StepPattern × Registry) := do
  let entry ← Entry.check key pattern
  pure ((r.get? key).map Entry.pattern, r.put entry)

/-- Registers a pattern under a key that must be free. -/
def registerNew (r : Registry) (key : String) (pattern : StepPattern) :
    Except Fault Registry :=
  if r.contains key then .error { cause := .duplicateKey key }
  else (r.register key pattern).map Prod.snd

/-- Registers patterns one after another, up to the first defect. -/
def registerList (r : Registry) (patterns : List (String × StepPattern)) :
    Except Fault Registry :=
  patterns.foldlM (fun r p => (r.register p.1 p.2).map Prod.snd) r

end Registry

end ScenarioSteps
