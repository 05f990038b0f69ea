import ScenarioSteps.Proofs.Pattern.Registry

/-!
# `ScenarioSteps.Proofs.Pattern.Refusal`: a registration that fails leaves no trace

A pattern is refused for a `StepPattern.Defect`: of its source, of its arity or of its
sample, in this order. `Entry.check_eq_error_iff` says that a check fails for the defect
that a pattern has, and an entry has none (`StepPattern.Defect.not_entry`).

A registry holds two tables that refer to each other. `Registry.put` answers with both at
once. `RegistryTables` is an account of a registry that is changed in place instead, one
table after the other, where a fault does not undo what has been written before it.
`RegistryTables.run_register` and `RegistryTables.run_registerNew` say that both accounts
agree, and that no fault finds anything written.

`Registry.registration_refused` puts this together.
-/

set_option autoImplicit false

namespace ScenarioSteps

/-! ### Defects of patterns -/

/-- What a pattern is refused for under a key. A pattern is checked only as far as its first
defect. -/
inductive StepPattern.Defect (p : StepPattern) (key : String) : Fault.Cause → Prop
  /-- The source is no regular expression. -/
  | source {defect : Regex.Defect} (reads : Regex.parse p.source = .error defect) :
      p.Defect key (.invalidPattern key p.source defect.message)
  /-- The expression has another number of groups than was declared. -/
  | arity {regex : Regex} (reads : Regex.parse p.source = .ok regex)
      (differs : regex.groupCount ≠ p.arity) :
      p.Defect key (.arityMismatch key p.arity regex.groupCount)
  /-- The expression does not occur in the sample. -/
  | sample {regex : Regex} {sample : String} (reads : Regex.parse p.source = .ok regex)
      (arity_eq : regex.groupCount = p.arity) (sample_eq : p.sample? = some sample)
      (absent : regex.occursIn sample = false) :
      p.Defect key (.exampleMismatch key sample)

namespace StepPattern.Defect

variable {p : StepPattern} {key : String} {cause other : Fault.Cause}

/-- A pattern has one defect at most. -/
theorem unique (h : p.Defect key cause) (h' : p.Defect key other) : cause = other := by
  -- Reading the source decides between its defect and the other two, and these exclude each other
  -- by the arity.
  cases h with
  | source reads =>
      cases h' with
      | source reads' => rw [Except.error.inj (reads.symm.trans reads')]
      | arity reads' => cases reads.symm.trans reads'
      | sample reads' => cases reads.symm.trans reads'
  | arity reads differs =>
      cases h' with
      | source reads' => cases reads.symm.trans reads'
      | arity reads' => rw [Except.ok.inj (reads.symm.trans reads')]
      | sample reads' arity_eq' =>
          obtain rfl := Except.ok.inj (reads.symm.trans reads')
          exact absurd arity_eq' differs
  | sample reads arity_eq sample_eq =>
      cases h' with
      | source reads' => cases reads.symm.trans reads'
      | arity reads' differs' =>
          obtain rfl := Except.ok.inj (reads.symm.trans reads')
          exact absurd arity_eq differs'
      | sample _ _ sample_eq' => rw [Option.some.inj (sample_eq.symm.trans sample_eq')]

/-- The pattern of an entry has no defect. -/
theorem not_entry (entry : Entry) : ¬ entry.pattern.Defect key cause := by
  intro h
  cases h with
  | source reads => cases reads.symm.trans entry.reads
  | arity reads differs =>
      rw [Except.ok.inj (reads.symm.trans entry.reads)] at differs
      exact differs entry.arity_eq
  | sample reads _ sample_eq absent =>
      rw [Except.ok.inj (reads.symm.trans entry.reads), entry.sample_occurs _ sample_eq] at absent
      cases absent

end StepPattern.Defect

namespace Entry

variable {key : String} {pattern : StepPattern}

/-- A check that fails reports a defect. -/
theorem defect_of_check_eq_error {fault : Fault} (h : check key pattern = .error fault) :
    ∃ cause, pattern.Defect key cause ∧ fault = { cause } := by
  -- The check stops at the first defect, so each failing branch has the ones before it behind it.
  unfold check at h
  split at h
  · next reads =>
      cases h
      exact ⟨_, .source reads, rfl⟩
  · next reads =>
      split at h
      · next arity_eq =>
          split at h
          · cases h
          · next sample_eq =>
              split at h
              · cases h
              · next absent =>
                  cases h
                  exact ⟨_, .sample reads arity_eq sample_eq (eq_false_of_ne_true absent), rfl⟩
      · next differs =>
          cases h
          exact ⟨_, .arity reads differs, rfl⟩

/-- A check fails for the defect of the pattern. -/
theorem check_eq_error_iff {fault : Fault} :
    check key pattern = .error fault ↔ ∃ cause, pattern.Defect key cause ∧ fault = { cause } := by
  refine ⟨defect_of_check_eq_error, ?_⟩
  rintro ⟨cause, hdefect, rfl⟩
  cases hcheck : check key pattern with
  | error fault =>
      obtain ⟨other, hother, rfl⟩ := defect_of_check_eq_error hcheck
      rw [hdefect.unique hother]
  | ok entry =>
      obtain ⟨-, rfl⟩ := of_check_eq_ok hcheck
      exact absurd hdefect (StepPattern.Defect.not_entry entry)

end Entry

/-! ### Registration in place -/

/-- The tables of a registry while they are written. Between two writes they need not agree. -/
structure RegistryTables where
  entries : List Entry
  index : List (String × Nat)

/-- The tables of a registry. All its queries read these. -/
def Registry.tables (r : Registry) : RegistryTables :=
  ⟨r.entries, r.index⟩

namespace RegistryTables

/-- Writes an entry into the tables, and answers the pattern that it replaces. -/
def store (entry : Entry) : StateM RegistryTables (Option StepPattern) := do
  let tables ← get
  match tables.index.lookup entry.key with
  | some place =>
    set { tables with entries := tables.entries.set place entry }
    return tables.entries[place]?.map Entry.pattern
  | none =>
    set { tables with index := (entry.key, tables.entries.length) :: tables.index }
    modify fun tables => { tables with entries := tables.entries ++ [entry] }
    return none

/-- Registers a pattern in the tables. What has been written stays written when it fails. -/
def register (key : String) (pattern : StepPattern) :
    ExceptT Fault (StateM RegistryTables) (Option StepPattern) := do
  match Entry.check key pattern with
  | .error fault => throw fault
  | .ok entry => store entry

/-- Registers a pattern in the tables under a key that must be free. -/
def registerNew (key : String) (pattern : StepPattern) :
    ExceptT Fault (StateM RegistryTables) Unit := do
  let tables ← get
  if (tables.index.lookup key).isSome then throw { cause := .duplicateKey key }
  else
    let _ ← register key pattern
    return

variable (r : Registry) (key : String) (pattern : StepPattern)

/-- An entry is written where a registry puts it. -/
theorem run_store (entry : Entry) :
    (store entry).run r.tables = ((r.get? entry.key).map Entry.pattern, (r.put entry).tables) := by
  cases hplace : r.position? entry.key with
  | some place =>
      obtain ⟨hentries, hindex⟩ := Registry.put_of_position? hplace
      rw [Registry.tables, Registry.tables, hentries, hindex, r.get?_eq, hplace]
      rw [Registry.position?] at hplace
      simp only [store, StateT.run_bind, StateT.run_get, pure_bind, hplace]
      rfl
  | none =>
      obtain ⟨hentries, hindex⟩ := Registry.put_of_not_mem (r.position?_eq_none_iff.mp hplace)
      rw [Registry.tables, Registry.tables, hentries, hindex, r.get?_eq, hplace]
      rw [Registry.position?] at hplace
      simp only [store, StateT.run_bind, StateT.run_get, pure_bind, hplace]
      rfl

/-- In place, a registration leaves the tables that the registry has behind it, and a fault
leaves those it had before. -/
theorem run_register :
    (register key pattern).run.run r.tables
      = match r.register key pattern with
        | .error fault => (.error fault, r.tables)
        | .ok (previous?, r') => (.ok previous?, r'.tables) := by
  rw [register, Registry.register]
  cases hcheck : Entry.check key pattern with
  | error fault => rfl
  | ok entry =>
      obtain ⟨rfl, -⟩ := Entry.of_check_eq_ok hcheck
      have hstore := run_store r entry
      show (store entry >>= fun previous? => pure (Except.ok previous?)).run r.tables = _
      rw [StateT.run_bind, hstore]
      rfl

/-- The same under a key that must be free. -/
theorem run_registerNew :
    (registerNew key pattern).run.run r.tables
      = match r.registerNew key pattern with
        | .error fault => (.error fault, r.tables)
        | .ok r' => (.ok (), r'.tables) := by
  -- The key is looked up in the tables as they are before the registration.
  have hrun : (registerNew key pattern).run.run r.tables
      = if r.contains key then (.error { cause := .duplicateKey key }, r.tables)
        else (register key pattern >>= fun _ => pure ()).run.run r.tables := by
    show (ite ((r.tables.index.lookup key).isSome = true) _ _ :
      ExceptT Fault (StateM RegistryTables) Unit).run.run r.tables = _
    rw [show (r.tables.index.lookup key).isSome = r.contains key from rfl]
    split
    · rfl
    · rfl
  rw [hrun, Registry.registerNew]
  split
  · rfl
  · rw [ExceptT.run_bind, StateT.run_bind, run_register]
    cases r.register key pattern with
    | error fault => rfl
    | ok answer => rfl

end RegistryTables

namespace Registry

variable (r : Registry) (key : String) (pattern : StepPattern)

/-- A registration is a check, and then the entry is put. -/
theorem register_eq : r.register key pattern
    = (Entry.check key pattern).map fun entry =>
        ((r.get? key).map Entry.pattern, r.put entry) := by
  rw [register]
  cases Entry.check key pattern with
  | error fault => rfl
  | ok entry => rfl

/-- A registration fails exactly for a defect of the pattern. -/
theorem register_eq_error_iff {fault : Fault} :
    r.register key pattern = .error fault
      ↔ ∃ cause, pattern.Defect key cause ∧ fault = { cause } := by
  rw [← Entry.check_eq_error_iff, register_eq]
  cases Entry.check key pattern with
  | error other =>
      exact ⟨fun h => congrArg _ (Except.error.inj h), fun h => congrArg _ (Except.error.inj h)⟩
  | ok entry => exact ⟨nofun, nofun⟩

/-- A registration that succeeds answers what stood under the key, and puts the pattern there. -/
theorem get?_of_register {previous? : Option StepPattern} {r' : Registry}
    (h : r.register key pattern = .ok (previous?, r')) :
    previous? = (r.get? key).map Entry.pattern
      ∧ ∀ other, (r'.get? other).map Entry.pattern
          = if other = key then some pattern else (r.get? other).map Entry.pattern := by
  rw [register_eq] at h
  cases hcheck : Entry.check key pattern with
  | error fault =>
      rw [hcheck] at h
      cases h
  | ok entry =>
      rw [hcheck] at h
      cases h
      obtain ⟨rfl, rfl⟩ := Entry.of_check_eq_ok hcheck
      refine ⟨rfl, fun other => ?_⟩
      rw [get?_put, apply_ite (Option.map Entry.pattern)]
      rfl

/-- A registration succeeds if the pattern has no defect. -/
theorem exists_register_iff :
    (∃ previous? r', r.register key pattern = .ok (previous?, r'))
      ↔ ∀ cause, ¬ pattern.Defect key cause := by
  constructor
  · rintro ⟨previous?, r', hok⟩ cause hdefect
    rw [(r.register_eq_error_iff key pattern).mpr ⟨cause, hdefect, rfl⟩] at hok
    cases hok
  · intro hsound
    cases hanswer : r.register key pattern with
    | error fault =>
        obtain ⟨cause, hdefect, -⟩ := (r.register_eq_error_iff key pattern).mp hanswer
        exact absurd hdefect (hsound cause)
    | ok answer => exact ⟨answer.1, answer.2, rfl⟩

/-- Under a new key, both kinds of registration do the same. -/
theorem registerNew_of_not_mem (hkey : key ∉ r.keys) :
    r.registerNew key pattern = (r.register key pattern).map Prod.snd := by
  rw [registerNew, if_neg (mt r.contains_iff.mp hkey)]

/-- A key that is taken is the one reason to be refused as a duplicate. -/
theorem registerNew_eq_duplicateKey_iff :
    r.registerNew key pattern = .error { cause := .duplicateKey key } ↔ key ∈ r.keys := by
  refine ⟨fun htaken => ?_, fun htaken => ?_⟩
  · -- A registration of its own fails for defects of the pattern, and the key is none.
    by_contra hkey
    rw [r.registerNew_of_not_mem key pattern hkey] at htaken
    cases hanswer : r.register key pattern with
    | error fault =>
        rw [hanswer] at htaken
        cases htaken
        obtain ⟨cause, hdefect, hcause⟩ := (r.register_eq_error_iff key pattern).mp hanswer
        cases hcause
        cases hdefect
    | ok answer =>
        rw [hanswer] at htaken
        cases htaken
  · rw [registerNew, if_pos (r.contains_iff.mpr htaken)]

/-- Registration fails for a defect of the pattern and for nothing else: for its source if
this is no regular expression, else for its arity if that is not the number of groups, else
for its sample if the expression does not occur in it. If the pattern has no defect, the
answer is the pattern that stood under the key, and the new one stands there. Under a key
that must be free, a taken key is the first thing to fail for, and otherwise nothing is
different. In either case a fault leaves the tables as they were, also if they are changed
in place. -/
theorem registration_refused :
    (∀ fault, r.register key pattern = .error fault
        ↔ ∃ cause, pattern.Defect key cause ∧ fault = { cause })
      ∧ ((∃ previous? r', r.register key pattern = .ok (previous?, r'))
        ↔ ∀ cause, ¬ pattern.Defect key cause)
      ∧ (∀ previous? r', r.register key pattern = .ok (previous?, r') →
          previous? = (r.get? key).map Entry.pattern
          ∧ ∀ other, (r'.get? other).map Entry.pattern
              = if other = key then some pattern else (r.get? other).map Entry.pattern)
      ∧ (r.registerNew key pattern = .error { cause := .duplicateKey key } ↔ key ∈ r.keys)
      ∧ (key ∉ r.keys → r.registerNew key pattern = (r.register key pattern).map Prod.snd)
      ∧ (RegistryTables.register key pattern).run.run r.tables
        = (match r.register key pattern with
          | .error fault => (.error fault, r.tables)
          | .ok (previous?, r') => (.ok previous?, r'.tables))
      ∧ (RegistryTables.registerNew key pattern).run.run r.tables
        = (match r.registerNew key pattern with
          | .error fault => (.error fault, r.tables)
          | .ok r' => (.ok (), r'.tables)) := by
  exact ⟨fun fault => r.register_eq_error_iff key pattern,
    r.exists_register_iff key pattern,
    fun previous? r' => r.get?_of_register key pattern,
    r.registerNew_eq_duplicateKey_iff key pattern,
    r.registerNew_of_not_mem key pattern,
    RegistryTables.run_register r key pattern,
    RegistryTables.run_registerNew r key pattern⟩

end Registry

end ScenarioSteps
