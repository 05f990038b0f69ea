import ScenarioSteps.Proofs.Catalog.Standard

/-!
# `ScenarioSteps.Proofs.Pattern.Run`: what a sequence of registrations leaves

A registry starts empty and changes by three operations: a pattern is
registered, a pattern is registered under a key that must be free, or the whole
catalog is registered. Any of them can fail, and then the registry stays as it
is. `Registry.logFrom` is the log of the registrations that succeed in a run.

`Registry.Records.after` is the step: what is left of the log in the
registry stays right, and no key changes its place. By induction over the
operations, `Registry.run_agrees` says of every run that the order of the keys
is the order of their first registrations, that their places never change, that
the latest registration of a key counts, and that all queries agree.
-/

set_option autoImplicit false

namespace ScenarioSteps.Registry

/-- A call that changes a registry. -/
inductive Operation where
  | register (key : String) (pattern : StepPattern)
  /-- Registers a pattern under a key that must be free. -/
  | registerNew (key : String) (pattern : StepPattern)
  | registerCatalog

namespace Operation

/-- The registry after a call, if the call succeeds. -/
def run (op : Operation) (r : Registry) : Except Fault Registry :=
  match op with
  | register key pattern => (r.register key pattern).map Prod.snd
  | registerNew key pattern => r.registerNew key pattern
  | registerCatalog => r.registerCatalog

/-- What a call registers if it succeeds. -/
def patterns : Operation → RegistrationLog
  | register key pattern => [(key, pattern)]
  | registerNew key pattern => [(key, pattern)]
  | registerCatalog => catalog

end Operation

/-- The registry after a call. One that fails leaves it as it was. -/
def after (r : Registry) (op : Operation) : Registry :=
  match op.run r with
  | .ok r' => r'
  | .error _ => r

/-- What a call adds to the log. -/
def logged (r : Registry) (op : Operation) : RegistrationLog :=
  match op.run r with
  | .ok _ => op.patterns
  | .error _ => []

/-- The registry after calls one after another. -/
def runFrom (r : Registry) (ops : List Operation) : Registry :=
  ops.foldl after r

/-- The log of the calls that succeed. -/
def logFrom (r : Registry) : List Operation → RegistrationLog
  | [] => []
  | op :: ops => r.logged op ++ (r.after op).logFrom ops

/-! ### One call -/

/-- Putting entries one after another adds them to the log. -/
theorem Records.putAll {r : Registry} {log : RegistrationLog} (h : r.Records log)
    (entries : List Entry) :
    (r.putAll entries).Records (log ++ entries.map fun e => (e.key, e.pattern))
      ∧ r.keys <+: (r.putAll entries).keys := by
  induction entries generalizing r log with
  | nil => exact ⟨by rwa [List.map_nil, List.append_nil], List.prefix_refl _⟩
  | cons entry entries ih =>
      obtain ⟨hrecords, hprefix⟩ := ih (h.put entry)
      rw [List.append_assoc] at hrecords
      exact ⟨hrecords, (prefix_keys_put r entry).trans hprefix⟩

/-- A call that succeeds registers its patterns. -/
theorem Operation.records_of_run_eq_ok {r r' : Registry} {log : RegistrationLog}
    (h : r.Records log) {op : Operation} (hok : op.run r = .ok r') :
    r'.Records (log ++ op.patterns) ∧ r.keys <+: r'.keys := by
  have hregister {key : String} {pattern : StepPattern}
      (hok : (r.register key pattern).map Prod.snd = .ok r') :
      r'.Records (log ++ [(key, pattern)]) ∧ r.keys <+: r'.keys := by
    cases hanswer : r.register key pattern with
    | error fault =>
        rw [hanswer] at hok
        cases hok
    | ok answer =>
        rw [hanswer] at hok
        cases hok
        exact h.register hanswer
  cases op with
  | register key pattern => exact hregister hok
  | registerNew key pattern =>
      rw [Operation.run, Registry.registerNew] at hok
      split at hok
      · cases hok
      · exact hregister hok
  | registerCatalog =>
      -- The whole catalog passes its checks, so its entries are put one after another.
      obtain ⟨entries, hpatterns, -, hcatalog⟩ := exists_registerCatalog
      rw [Operation.run, hcatalog r] at hok
      cases hok
      rw [Operation.patterns, ← hpatterns]
      exact h.putAll entries

/-- A call keeps what the registry records, and every key keeps its place. -/
theorem Records.after {r : Registry} {log : RegistrationLog} (h : r.Records log)
    (op : Operation) :
    (r.after op).Records (log ++ r.logged op) ∧ r.keys <+: (r.after op).keys := by
  cases hrun : op.run r with
  | error fault =>
      simp only [Registry.after, logged, hrun]
      exact ⟨by rwa [List.append_nil], List.prefix_refl _⟩
  | ok r' =>
      simp only [Registry.after, logged, hrun]
      exact Operation.records_of_run_eq_ok h hrun

/-! ### A run -/

/-- A run keeps what the registry records, and every key keeps its place. -/
theorem Records.runFrom {r : Registry} {log : RegistrationLog} (h : r.Records log)
    (ops : List Operation) :
    (r.runFrom ops).Records (log ++ r.logFrom ops) ∧ r.keys <+: (r.runFrom ops).keys := by
  -- The log so far goes along, since a call is judged by the registry that it meets.
  induction ops generalizing r log with
  | nil => exact ⟨by rwa [logFrom, List.append_nil], List.prefix_refl _⟩
  | cons op ops ih =>
      obtain ⟨hstep, hprefix⟩ := h.after op
      obtain ⟨hrest, hprefix'⟩ := ih hstep
      rw [List.append_assoc] at hrest
      exact ⟨hrest, hprefix.trans hprefix'⟩

/-- Operations go on with the registry that others have left. -/
theorem runFrom_append (r : Registry) (ops later : List Operation) :
    r.runFrom (ops ++ later) = (r.runFrom ops).runFrom later :=
  List.foldl_append

/-- What holds after every run of registrations, failing ones among them: keys
are distinct, and they stand in the order in which they were first registered;
the index, the entries and the queries agree; the latest registration of a key
counts; no later run moves a key; and every entry has passed its checks. -/
theorem run_agrees (ops : List Operation) :
    let r := empty.runFrom ops
    let log := empty.logFrom ops
    r.keys.Nodup
      ∧ (∀ key i, r.position? key = some i ↔ r.entries[i]?.map Entry.key = some key)
      ∧ (∀ key entry, r.get? key = some entry ↔ entry ∈ r.entries ∧ entry.key = key)
      ∧ (∀ key, r.contains key = true ↔ key ∈ r.keys)
      ∧ r.size = log.keys.length
      ∧ r.keys = log.keys
      ∧ (∀ later key i, r.position? key = some i →
          (empty.runFrom (ops ++ later)).position? key = some i)
      ∧ (∀ key, (r.get? key).map Entry.pattern = log.latest? key)
      ∧ ∀ entry ∈ r.entries, Regex.parse entry.pattern.source = .ok entry.regex
          ∧ entry.regex.groupCount = entry.pattern.arity
          ∧ ∀ sample, entry.pattern.sample? = some sample → entry.regex.occursIn sample = true := by
  intro r log
  obtain ⟨hrecords, -⟩ := records_empty.runFrom ops
  rw [List.nil_append] at hrecords
  refine ⟨r.nodup_keys, fun key i => r.position?_eq_some_iff, fun key entry => r.get?_eq_some_iff,
    fun key => r.contains_iff, ?_, hrecords.keys_eq, ?_, hrecords.latest_eq, ?_⟩
  · rw [size_eq, hrecords.keys_eq]
  · intro later key i hplace
    rw [runFrom_append]
    exact position?_of_prefix (hrecords.runFrom later).2 hplace
  · exact fun entry _ => ⟨entry.reads, entry.arity_eq, entry.sample_occurs⟩

end ScenarioSteps.Registry
