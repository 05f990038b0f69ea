import Mathlib.Data.List.Chain
import ScenarioSteps.File.Assemble
import ScenarioSteps.Proofs.Script.Heading

/-!
# `ScenarioSteps.Proofs.File.Block`: what a block holds

`Block.ofSteps` splits the steps of a script without a look at its headers.
A block is a run of neighbouring steps with one `Heading`:

* `splits_ofSteps`: the blocks hold all steps in their order, none is empty,
  the steps of each have its heading, and neighbours have different ones,
* `ofSteps_eq_iff`: there is no other way to split the steps so,
* `agreesOn_iff_isChain`: what the steps of each block agree on is
  what neighbours with the same heading agree on.

The last one reduces a statement on whole blocks to pairs of neighbours.
-/

set_option autoImplicit false

namespace ScenarioSteps

namespace Block

/-- The heading of the steps in a block. -/
def heading (b : Block) : Heading :=
  ⟨b.scenario?, b.background⟩

/-- Whether a function takes one value on all steps of a block. -/
def AgreesOn {α : Type} (b : Block) (f : ScriptStep → α) : Prop :=
  ∀ s ∈ b.steps, ∀ t ∈ b.steps, f s = f t

/-- A block takes a step that has its heading. -/
theorem accepts_iff (b : Block) (step : ScriptStep) :
    b.accepts step = true ↔ step.heading = b.heading := by
  unfold accepts heading ScriptStep.heading
  rw [Bool.and_eq_true, beq_iff_eq, beq_iff_eq, Heading.mk.injEq, eq_comm,
    eq_comm (a := b.background)]

/-- The blocks of a script are made from its end. -/
theorem ofSteps_cons (step : ScriptStep) (rest : List ScriptStep) :
    ofSteps (step :: rest) = cons step (ofSteps rest) :=
  rfl

/-- A step joins a block with its heading. -/
theorem cons_of_eq {step : ScriptStep} {b : Block} (later : List Block)
    (h : step.heading = b.heading) :
    cons step (b :: later) = { b with steps := step :: b.steps } :: later :=
  if_pos ((accepts_iff b step).mpr h)

/-- A step opens a block before one with another heading. -/
theorem cons_of_ne {step : ScriptStep} {b : Block} (later : List Block)
    (h : step.heading ≠ b.heading) :
    cons step (b :: later)
      = ⟨step.scenario?, step.background, [step]⟩ :: b :: later :=
  if_neg fun haccepts => h ((accepts_iff b step).mp haccepts)

/-- The first block starts with the first step and has its heading. -/
theorem exists_ofSteps_cons (step : ScriptStep) (rest : List ScriptStep) :
    ∃ more later, ofSteps (step :: rest)
      = ⟨step.scenario?, step.background, step :: more⟩ :: later := by
  rw [ofSteps_cons]
  cases ofSteps rest with
  | nil => exact ⟨[], [], rfl⟩
  | cons b later =>
      by_cases h : step.heading = b.heading
      · obtain ⟨hscenario, hbackground⟩ := Heading.mk.inj h
        refine ⟨b.steps, later, ?_⟩
        rw [cons_of_eq later h, hscenario, hbackground]
      · exact ⟨[], b :: later, cons_of_ne later h⟩

/-! ### The one way to split steps -/

/-- Blocks that split steps into runs of one heading, each as long as possible. -/
structure Splits (blocks : List Block) (steps : List ScriptStep) : Prop where
  /-- Together, the blocks hold all steps in their order. -/
  flatMap_steps : blocks.flatMap Block.steps = steps
  ne_nil : ∀ b ∈ blocks, b.steps ≠ []
  heading : ∀ b ∈ blocks, ∀ step ∈ b.steps, step.heading = b.heading
  /-- Neighbours could not be one block. -/
  isChain : blocks.IsChain fun b next => b.heading ≠ next.heading

/-- With a step in front, blocks split one step more. It joins the first block or stands in one of
its own. -/
theorem Splits.cons {blocks : List Block} {steps : List ScriptStep} (h : Splits blocks steps)
    (step : ScriptStep) : Splits (Block.cons step blocks) (step :: steps) := by
  obtain ⟨rfl, hne, hheading, hchain⟩ := h
  have hown : ∀ s ∈ [step],
      s.heading = Block.heading ⟨step.scenario?, step.background, [step]⟩ :=
    List.forall_mem_singleton.mpr rfl
  cases blocks with
  | nil =>
      exact ⟨rfl, List.forall_mem_singleton.mpr (List.cons_ne_nil step []),
        List.forall_mem_singleton.mpr hown, .singleton _⟩
  | cons b later =>
      -- With the heading of the first block the step joins it. Otherwise the two blocks differ in
      -- theirs.
      by_cases hsame : step.heading = b.heading
      · rw [cons_of_eq later hsame]
        rw [List.forall_mem_cons] at hne hheading
        rw [List.isChain_cons] at hchain
        exact ⟨rfl, List.forall_mem_cons.mpr ⟨List.cons_ne_nil step b.steps, hne.2⟩,
          List.forall_mem_cons.mpr ⟨List.forall_mem_cons.mpr ⟨hsame, hheading.1⟩, hheading.2⟩,
          List.isChain_cons.mpr hchain⟩
      · rw [cons_of_ne later hsame]
        exact ⟨rfl, List.forall_mem_cons.mpr ⟨List.cons_ne_nil step [], hne⟩,
          List.forall_mem_cons.mpr ⟨hown, hheading⟩, .cons_cons hsame hchain⟩

/-- The blocks of steps split them. -/
theorem splits_ofSteps (steps : List ScriptStep) : Splits (ofSteps steps) steps := by
  induction steps with
  | nil =>
      exact ⟨rfl, List.forall_mem_nil _, List.forall_mem_nil _, .nil⟩
  | cons step rest ih => exact ih.cons step

/-- A run of steps in front of blocks makes one block, if the first of these has another
heading. -/
theorem foldr_cons_of_heading {b : Block} {later : List Block}
    (hlater : ∀ next ∈ later.head?, b.heading ≠ next.heading) {run : List ScriptStep}
    (hne : run ≠ []) (hrun : ∀ step ∈ run, step.heading = b.heading) :
    run.foldr cons later = { b with steps := run } :: later := by
  induction run with
  | nil => contradiction
  | cons step rest ih =>
      rw [List.forall_mem_cons] at hrun
      rw [List.foldr_cons]
      cases rest with
      | nil =>
          -- The last step of the run meets the block behind it.
          obtain ⟨hscenario, hbackground⟩ := Heading.mk.inj hrun.1
          cases later with
          | nil =>
              rw [List.foldr_nil, cons, hscenario, hbackground]
          | cons next later =>
              have hnext : step.heading ≠ next.heading := hrun.1 ▸ hlater next rfl
              rw [List.foldr_nil, cons_of_ne later hnext, hscenario, hbackground]
      | cons second rest =>
          rw [ih (List.cons_ne_nil second rest) hrun.2]
          exact cons_of_eq later hrun.1

/-- There is only one way to split steps. -/
theorem Splits.ofSteps_eq {blocks : List Block} {steps : List ScriptStep}
    (h : Splits blocks steps) : ofSteps steps = blocks := by
  obtain ⟨rfl, hne, hheading, hchain⟩ := h
  -- The steps are put together from behind, one run of them after another.
  induction blocks with
  | nil => rfl
  | cons b later ih =>
      rw [List.forall_mem_cons] at hne hheading
      rw [List.isChain_cons] at hchain
      have hlater : ofSteps (later.flatMap Block.steps) = later := ih hne.2 hheading.2 hchain.2
      rw [List.flatMap_cons, ofSteps, List.foldr_append, ← ofSteps, hlater]
      exact foldr_cons_of_heading hchain.1 hne.1 hheading.1

/-- The blocks of steps are the one way to split them. -/
theorem ofSteps_eq_iff (steps : List ScriptStep) (blocks : List Block) :
    ofSteps steps = blocks ↔ Splits blocks steps := by
  refine ⟨?_, Splits.ofSteps_eq⟩
  rintro rfl
  exact splits_ofSteps steps

/-- A scenario that comes again has a block of its own. -/
example :
    (ofSteps (["a", "a", "b", "a"].map fun title =>
      { ScriptStep.bare .given .given "x" 1 with scenario? := some title })).map
        (·.steps.length) = [2, 1, 1] := by
  decide

/-- The blocks hold all steps, in their order. -/
theorem flatMap_steps_ofSteps (steps : List ScriptStep) :
    (ofSteps steps).flatMap Block.steps = steps :=
  (splits_ofSteps steps).flatMap_steps

/-- A step of a block is a step of the script. -/
theorem mem_of_mem_ofSteps {steps : List ScriptStep} {b : Block} {step : ScriptStep}
    (hb : b ∈ ofSteps steps) (hstep : step ∈ b.steps) : step ∈ steps := by
  rw [← flatMap_steps_ofSteps steps]
  exact List.mem_flatMap.mpr ⟨b, hb, hstep⟩

/-- The steps of a block have its heading. -/
theorem heading_of_mem_ofSteps {steps : List ScriptStep} :
    ∀ b ∈ ofSteps steps, ∀ step ∈ b.steps, step.heading = b.heading :=
  (splits_ofSteps steps).heading

/-! ### What the steps of a block agree on -/

/-- A first step agrees with a block if it agrees with the next step. -/
theorem agreesOn_cons {α : Type} (f : ScriptStep → α) (scenario? : Option String)
    (background : Bool) (step next : ScriptStep) (more : List ScriptStep) :
    AgreesOn ⟨scenario?, background, step :: next :: more⟩ f
      ↔ f step = f next ∧ AgreesOn ⟨scenario?, background, next :: more⟩ f := by
  constructor
  · intro hsame
    refine ⟨hsame step (by simp) next (by simp), fun s hs t ht => ?_⟩
    exact hsame s (List.mem_cons_of_mem _ hs) t (List.mem_cons_of_mem _ ht)
  · rintro ⟨hnext, hsame⟩ s hs t ht
    have hall : ∀ s ∈ step :: next :: more, f s = f next := by
      refine List.forall_mem_cons.mpr ⟨hnext, fun s hs => ?_⟩
      exact hsame s hs next List.mem_cons_self
    exact (hall s hs).trans (hall t ht).symm

/-- What the steps of each block agree on is what neighbours with the same
heading agree on. -/
theorem agreesOn_iff_isChain {α : Type} (f : ScriptStep → α) (steps : List ScriptStep) :
    (∀ b ∈ ofSteps steps, b.AgreesOn f)
      ↔ steps.IsChain fun s t => s.heading = t.heading → f s = f t := by
  induction steps with
  | nil => simp [ofSteps]
  | cons step rest ih =>
      cases rest with
      | nil => simp [ofSteps, cons, AgreesOn]
      | cons next rest =>
          obtain ⟨more, later, hblocks⟩ := exists_ofSteps_cons next rest
          rw [List.isChain_cons_cons, ← ih, ofSteps_cons, hblocks]
          by_cases h : step.heading = next.heading
          · -- The step joins the block that its neighbour starts.
            rw [cons_of_eq later h, List.forall_mem_cons, List.forall_mem_cons,
              agreesOn_cons, and_assoc, forall_prop_of_true h]
          · have hown : AgreesOn ⟨step.scenario?, step.background, [step]⟩ f := by
              simp [AgreesOn]
            rw [cons_of_ne later h, List.forall_mem_cons]
            simp [h, hown]

end Block

end ScenarioSteps
