import Mathlib.Data.List.Nodup
import ScenarioSteps.Proofs.Declaration.ReadBack
import ScenarioSteps.Proofs.File.Arrange
import ScenarioSteps.Proofs.File.Grouping
import ScenarioSteps.Proofs.Literal.Delimited

/-!
# `ScenarioSteps.Proofs.File.Repetition`: a sentence is declared where it first stands

A layout may leave out a step whose sentence was declared before, and it may group what is
left by kind. Which steps are left is settled by the document alone: `firstOccurrences`
looks at the steps in front of a step, and at nothing else. `firstOfEach` remembers the
sentences instead. The two agree by induction from the end of the document, since the last
step of it is looked at last (`firstOfEach_concat`, `firstOccurrences_concat`).

Grouping comes second, and it is a stable sort (`byKind_eq_sortByKind`). So it changes
neither which steps are left nor the order of those of one kind, and
`Layout.arrange_steps` puts the two together. Steps that have been arranged stay as they are
(`Layout.arrange_arrange`).

For Cucumber, sentences that differ become regular expressions that differ. They are
compared as JavaScript reads them (`Declaration.expression?`).
-/

set_option autoImplicit false

namespace ScenarioSteps

/-! ### The steps that are left -/

/-- The steps whose sentence is not that of a step before them, in the order of the
document. -/
def firstOccurrences (steps : List ScriptStep) : List ScriptStep :=
  (steps.zipIdx.filter fun p =>
    (steps.take p.2).all fun earlier => earlier.text != p.1.text).map Prod.fst

/-- The last step is left unless its sentence stands before it. -/
theorem firstOccurrences_concat (steps : List ScriptStep) (last : ScriptStep) :
    firstOccurrences (steps ++ [last])
      = firstOccurrences steps
        ++ if last.text ∈ steps.map ScriptStep.text then [] else [last] := by
  -- For the steps before the last one, there are as many steps above as without it.
  have hfirst : ∀ p ∈ steps.zipIdx,
      ((steps ++ [last]).take p.2).all (fun earlier => earlier.text != p.1.text)
        = (steps.take p.2).all fun earlier => earlier.text != p.1.text := by
    intro p hp
    have hlt : p.2 < steps.length := (List.getElem?_eq_some_iff.mp
      (List.mem_zipIdx_iff_getElem?.mp hp)).1
    rw [List.take_append_of_le_length (Nat.le_of_lt hlt)]
  have hlast : ((steps ++ [last]).take steps.length).all (fun earlier => earlier.text != last.text)
      = !decide (last.text ∈ steps.map ScriptStep.text) := by
    rw [List.take_left, Bool.eq_iff_iff]
    simp [List.all_eq_true]
  rw [firstOccurrences, List.zipIdx_append, List.filter_append, List.map_append,
    List.filter_congr hfirst, Nat.zero_add, List.zipIdx_singleton, List.filter_singleton, hlast]
  by_cases hmem : last.text ∈ steps.map ScriptStep.text
  · simp [hmem, firstOccurrences]
  · simp [hmem, firstOccurrences]

/-- Whether the last step is left out is settled by the sentences seen before it. -/
theorem firstOfEach_concat (seen : List String) (steps : List ScriptStep) (last : ScriptStep) :
    firstOfEach seen (steps ++ [last])
      = firstOfEach seen steps
        ++ if last.text ∈ seen ++ steps.map ScriptStep.text then [] else [last] := by
  induction steps generalizing seen with
  | nil => by_cases hmem : last.text ∈ seen <;> simp [firstOfEach, hmem]
  | cons first rest ih =>
      rw [List.cons_append, firstOfEach, firstOfEach]
      -- What has been seen before the rest is what was seen before, and the first sentence.
      have hseen : last.text ∈ first.text :: seen ++ rest.map ScriptStep.text
          ↔ last.text ∈ seen ++ (first :: rest).map ScriptStep.text := by
        simp only [List.map_cons, List.cons_append, List.mem_append, List.mem_cons]
        tauto
      split
      · next hfirst =>
          have hmem : first.text ∈ seen := List.contains_iff_mem.mp hfirst
          rw [ih]
          by_cases hlast : last.text = first.text
          · simp [hlast, hmem]
          · simp [hlast]
      · rw [ih]
        simp only [hseen]
        rfl

/-- To remember sentences is to look back at the steps in front. -/
theorem firstOfEach_eq_firstOccurrences (steps : List ScriptStep) :
    firstOfEach [] steps = firstOccurrences steps := by
  induction steps using List.reverseRecOn with
  | nil => rfl
  | append_singleton steps last ih =>
      rw [firstOfEach_concat, firstOccurrences_concat, ih, List.nil_append]

/-- No sentence is left twice. -/
theorem nodup_map_text_firstOfEach (steps : List ScriptStep) :
    ((firstOfEach [] steps).map ScriptStep.text).Nodup := by
  induction steps using List.reverseRecOn with
  | nil => exact List.nodup_nil
  | append_singleton steps last ih =>
      rw [firstOfEach_concat, List.nil_append]
      split
      · rwa [List.append_nil]
      · next hlast =>
          rw [List.map_append, List.map_singleton, List.nodup_append]
          refine ⟨ih, List.nodup_singleton _, ?_⟩
          intro sentence hmem other hother hsame
          obtain ⟨kept, hkept, rfl⟩ := List.mem_map.mp hmem
          rw [List.mem_singleton.mp hother] at hsame
          exact hlast (hsame ▸ List.mem_map_of_mem (mem_of_mem_firstOfEach hkept))

/-- Steps with different sentences are all left. -/
theorem firstOfEach_of_nodup {steps : List ScriptStep}
    (h : (steps.map ScriptStep.text).Nodup) : firstOfEach [] steps = steps := by
  induction steps using List.reverseRecOn with
  | nil => rfl
  | append_singleton steps last ih =>
      rw [List.map_append, List.map_singleton, List.nodup_append] at h
      obtain ⟨hsteps, -, hlast⟩ := h
      have hnew : last.text ∉ steps.map ScriptStep.text := fun hmem =>
        hlast _ hmem _ (List.mem_singleton_self _) rfl
      rw [firstOfEach_concat, List.nil_append, if_neg hnew, ih hsteps]

/-! ### Grouping what is left -/

/-- Grouped steps stand in the order of their kinds. -/
theorem pairwise_byKind (steps : List ScriptStep) :
    (byKind steps).Pairwise (ScriptStep.kindLE · ·) := by
  rw [byKind_eq_sortByKind]
  exact List.pairwise_mergeSort ScriptStep.kindLE_trans ScriptStep.kindLE_total steps

/-- Grouping neither drops a step nor adds one. -/
theorem byKind_perm (steps : List ScriptStep) : (byKind steps).Perm steps := by
  rw [byKind_eq_sortByKind]
  exact List.mergeSort_perm steps ScriptStep.kindLE

/-! ### Regular expressions of declarations -/

namespace Declaration

/-- The regular expression of a declaration, as JavaScript reads it: the literal that the
first slash behind a parenthesis opens. -/
def expression? (declaration : String) : Option (List Literal.Term) :=
  ((splitAt? ['(', '/'] declaration.toList).bind fun cut =>
    Literal.inSlashes.read? cut.2).map Prod.fst

/-- The expression in a declaration for Cucumber is made of the sentence between the two
ends of the subject, whatever the sentence and the body hold. -/
theorem expression?_format (kind : StepKind) (sentence body : String) :
    expression? (format .cucumber kind sentence body)
      = some (.start :: (sentence.toList.map .char ++ [.finish])) := by
  obtain ⟨rest, htext⟩ := toList_format .cucumber kind sentence body
  obtain ⟨behind, hbehind⟩ : ∃ behind, (ending .cucumber).toList = '$' :: '/' :: behind :=
    ⟨_, rfl⟩
  -- The text up to each of the two places where the reader cuts it.
  have hcut : (format .cucumber kind sentence body).toList
      = kind.word.toList ++ ['(', '/']
        ++ (['^'] ++ ((Literal.escapeRegex sentence).toList ++ ['$']
          ++ '/' :: (behind ++ '\n' :: rest))) := by
    have hbetween : (between .cucumber).toList = ['(', '/', '^'] := rfl
    rw [htext, firstLine, hbehind, hbetween, Literal.escapeRegex, Literal.escapeWith,
      String.toList_ofList]
    simp [start, escape]
  have hstart : Literal.inSlashes.Reads ['^'] [.start] :=
    Literal.Delimited.reads_plain (by decide) (by decide) (by decide) rfl
  have hparenthesis : '(' ∉ kind.word.toList := by cases kind <;> decide
  -- The escaped sentence reads back, and what is left of the literal is its last term.
  have hread : Literal.inSlashes.read?
        ((Literal.escapeRegex sentence).toList ++ ['$'] ++ '/' :: (behind ++ '\n' :: rest))
      = some (sentence.toList.map .char ++ [.finish], behind ++ '\n' :: rest) :=
    (Literal.closes_escapeRegex sentence).1 _
  rw [expression?, hcut, splitAt?_append '(' ['/'] _ _ hparenthesis, Option.bind_some, hstart,
    hread]
  rfl

/-- An expression gives away its sentence. -/
theorem expression_injective : Function.Injective fun sentence : String =>
    Literal.Term.start :: (sentence.toList.map .char ++ [.finish]) := by
  intro sentence other hsame
  have hchars := List.append_cancel_right (List.cons.inj hsame).2
  have hchar : Function.Injective Literal.Term.char := fun _ _ h => Literal.Term.char.inj h
  exact String.toList_inj.mp (hchar.list_map hchars)

end Declaration

/-! ### Arranging -/

namespace Layout

variable (layout : Layout) (steps : List ScriptStep)

/-- The steps that a layout declares, in the order of the document. -/
def kept : List ScriptStep :=
  if layout.deduplicate then firstOccurrences steps else steps

/-- A layout first leaves steps out and then groups what is left. -/
theorem arrange_eq : layout.arrange steps
    = if layout.groupByKind then byKind (layout.kept steps) else layout.kept steps := by
  simp only [arrange, kept, firstOfEach_eq_firstOccurrences]

/-- So what it declares are the steps that it keeps, in some order. -/
theorem arrange_perm : (layout.arrange steps).Perm (layout.kept steps) := by
  rw [arrange_eq]
  split
  · exact byKind_perm _
  · exact List.Perm.refl _

variable {steps} in
/-- Arranging loses no sentence. -/
theorem mem_map_text_arrange_iff {sentence : String} :
    sentence ∈ (layout.arrange steps).map ScriptStep.text
      ↔ sentence ∈ steps.map ScriptStep.text := by
  rw [List.mem_map, List.mem_map]
  constructor
  · rintro ⟨step, hstep, htext⟩
    exact ⟨step, mem_of_mem_arrange hstep, htext⟩
  · rintro ⟨step, hstep, rfl⟩
    exact layout.exists_mem_arrange hstep

variable {layout} in
/-- A layout without repetitions declares no sentence twice. -/
theorem nodup_map_text_arrange (h : layout.deduplicate = true) :
    ((layout.arrange steps).map ScriptStep.text).Nodup := by
  rw [((layout.arrange_perm steps).map ScriptStep.text).nodup_iff, kept, if_pos h,
    ← firstOfEach_eq_firstOccurrences]
  exact nodup_map_text_firstOfEach steps

/-- What has been arranged is arranged as it is: its sentences differ already if they have
to, and it is grouped already. -/
theorem arrange_arrange : layout.arrange (layout.arrange steps) = layout.arrange steps := by
  have hkept : layout.kept (layout.arrange steps) = layout.arrange steps := by
    rw [kept, ← firstOfEach_eq_firstOccurrences]
    split
    · next h => exact firstOfEach_of_nodup (nodup_map_text_arrange steps h)
    · rfl
  rw [arrange_eq, hkept, arrange_eq]
  split
  · exact byKind_of_sorted (pairwise_byKind _)
  · rfl

/-- What a layout makes of steps. With repeated sentences left out, it has the first step of
the document with each sentence, so no two of its declarations for Cucumber have the same
regular expression. Otherwise it has all steps. Grouping puts kinds into their order and
keeps the order of the document within each, and without it that order stays. No sentence is
lost, and what has been arranged is arranged as it is. -/
theorem arrange_steps :
    let kept := if layout.deduplicate then firstOccurrences steps else steps
    let arranged := layout.arrange steps
    arranged.Perm kept
      ∧ (∀ sentence, sentence ∈ arranged.map ScriptStep.text
          ↔ sentence ∈ steps.map ScriptStep.text)
      ∧ (layout.deduplicate = true →
          (arranged.map ScriptStep.text).Nodup
          ∧ ∀ (r : Registry) (options : Options), options.output = .cucumber →
            ∃ expressions : List (List Literal.Term), expressions.Nodup
              ∧ arranged.map (fun step => Declaration.expression? (r.declareStep options step))
                = expressions.map some)
      ∧ (layout.groupByKind = true →
          arranged.Pairwise (fun s t => s.kind.rank ≤ t.kind.rank)
          ∧ ∀ kind, arranged.filter (·.kind == kind) = kept.filter (·.kind == kind))
      ∧ (layout.groupByKind = false → arranged = kept)
      ∧ layout.arrange arranged = arranged := by
  intro kept arranged
  have harranged : arranged = if layout.groupByKind then byKind kept else kept :=
    layout.arrange_eq steps
  refine ⟨layout.arrange_perm steps, fun sentence => layout.mem_map_text_arrange_iff,
    fun hdeduplicate => ?_, fun hgroup => ?_, fun hgroup => ?_, layout.arrange_arrange steps⟩
  -- The sentences are distinct, and expressions of distinct sentences are too.
  · have hnodup := nodup_map_text_arrange steps hdeduplicate
    refine ⟨hnodup, fun r options houtput => ?_⟩
    refine ⟨arranged.map fun step => .start :: (step.text.toList.map .char ++ [.finish]), ?_, ?_⟩
    · have hexpressions := List.Nodup.map Declaration.expression_injective hnodup
      rwa [List.map_map] at hexpressions
    · rw [List.map_map]
      refine List.map_congr_left fun step _ => ?_
      rw [Registry.declareStep, houtput]
      exact Declaration.expression?_format step.kind step.text _
  · rw [harranged, if_pos hgroup]
    refine ⟨(pairwise_byKind kept).imp fun h => of_decide_eq_true h, fun kind => ?_⟩
    rw [byKind_eq_sortByKind, filter_sortByKind]
  · rw [harranged, hgroup, if_neg Bool.false_ne_true]

/-- The `Then` comes first in the document, so it keeps the sentence that a `Given` repeats,
and the file has the other `Given` in front of it. -/
example :
    let steps : List ScriptStep :=
      [.bare .then .then "x" 1, .bare .given .given "x" 2, .bare .given .given "y" 3]
    (Layout.arrange { groupByKind := true, deduplicate := true } steps).map (·.line) = [3, 1] := by
  decide

end Layout

end ScenarioSteps
