import ScenarioSteps.File.Assemble

/-!
# `ScenarioSteps.Proofs.File.Arrange`: which steps a layout declares

A layout may leave out steps and change their order. Two facts hold for each
layout:

* `mem_of_mem_arrange`: it declares no step but those it is given,
* `exists_mem_arrange`: it declares a step with the sentence of each of them.
-/

set_option autoImplicit false

namespace ScenarioSteps

/-- To leave out repetitions adds no step. -/
theorem mem_of_mem_firstOfEach {seen : List String} {steps : List ScriptStep}
    {step : ScriptStep} (h : step ∈ firstOfEach seen steps) : step ∈ steps := by
  induction steps generalizing seen with
  | nil => exact h
  | cons first rest ih =>
      unfold firstOfEach at h
      split at h
      · exact List.mem_cons_of_mem _ (ih h)
      · rcases List.mem_cons.mp h with rfl | h
        · exact List.mem_cons_self
        · exact List.mem_cons_of_mem _ (ih h)

/-- A sentence that was not seen before is kept once more. -/
theorem exists_mem_firstOfEach {seen : List String} {steps : List ScriptStep}
    {step : ScriptStep} (hstep : step ∈ steps) (hseen : step.text ∉ seen) :
    ∃ kept ∈ firstOfEach seen steps, kept.text = step.text := by
  induction steps generalizing seen with
  | nil => simp at hstep
  | cons first rest ih =>
      unfold firstOfEach
      split
      · rename_i hfirst
        rcases List.mem_cons.mp hstep with rfl | hstep
        · exact absurd (List.contains_iff_mem.mp hfirst) hseen
        · exact ih hstep hseen
      · -- The first step with the sentence is kept, be it this one or not.
        by_cases htext : step.text = first.text
        · exact ⟨first, List.mem_cons_self, htext.symm⟩
        · rcases List.mem_cons.mp hstep with rfl | hstep
          · exact absurd rfl htext
          · have hnot : step.text ∉ first.text :: seen :=
              List.not_mem_cons_of_ne_of_not_mem htext hseen
            obtain ⟨kept, hkept, hkeptText⟩ := ih hstep hnot
            exact ⟨kept, List.mem_cons_of_mem _ hkept, hkeptText⟩

/-- To group by kind neither adds a step nor loses one. -/
theorem mem_byKind {steps : List ScriptStep} {step : ScriptStep} :
    step ∈ byKind steps ↔ step ∈ steps := by
  unfold byKind
  rw [List.mem_flatMap]
  constructor
  · rintro ⟨kind, -, h⟩
    exact (List.mem_filter.mp h).1
  · intro h
    refine ⟨step.kind, ?_, List.mem_filter.mpr ⟨h, beq_self_eq_true _⟩⟩
    cases step.kind <;> decide

namespace Layout

/-- The grouping by kind keeps the steps. -/
theorem mem_arrange {layout : Layout} {steps : List ScriptStep} {step : ScriptStep} :
    step ∈ layout.arrange steps
      ↔ step ∈ if layout.deduplicate then firstOfEach [] steps else steps := by
  unfold arrange
  dsimp only
  split
  · exact mem_byKind
  · exact Iff.rfl

/-- A layout declares no step but those it is given. -/
theorem mem_of_mem_arrange {layout : Layout} {steps : List ScriptStep} {step : ScriptStep}
    (h : step ∈ layout.arrange steps) : step ∈ steps := by
  rw [mem_arrange] at h
  split at h
  · exact mem_of_mem_firstOfEach h
  · exact h

/-- A layout declares a step with the sentence of each step it is given. -/
theorem exists_mem_arrange (layout : Layout) {steps : List ScriptStep} {step : ScriptStep}
    (h : step ∈ steps) : ∃ kept ∈ layout.arrange steps, kept.text = step.text := by
  simp only [mem_arrange]
  split
  · exact exists_mem_firstOfEach h List.not_mem_nil
  · exact ⟨step, h, rfl⟩

end Layout

end ScenarioSteps
