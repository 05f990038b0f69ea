import ScenarioSteps.Proofs.Regex.Groups
import ScenarioSteps.Proofs.Text.LetterCase

/-!
# `ScenarioSteps.Proofs.Regex.LetterCase`: searches that do not see letter case

A set of characters ignores case if it has both forms of an ASCII letter or neither, and an
expression does if all its sets do (`Regex.ignoresCase`). Conditions on a place ask for line
feeds and word characters only, so they ignore case in any expression.

A text and its form in small letters are run side by side. A spot of the one is a spot of
the other at the same position (`Spot.small`), and a goal that ignores case does the same at
both. `attempt_ignoresCase` goes through the expression with that. So a search finds the same
places in two texts that differ in letter case only (`search?_eq_of_sameAscii`), and the
groups capture the parts of both that stand at the same places (`rel_captures?`).
-/

set_option autoImplicit false

namespace ScenarioSteps

/-- Whether a set has both forms of each ASCII letter or neither. -/
def CharSet.ignoresCase (s : CharSet) : Bool :=
  Text.asciiLetters.all fun c => s.mem c.toLower == s.mem c

/-- A set that ignores case has a character exactly if it has the small form of it. -/
theorem CharSet.mem_toLower {s : CharSet} (h : s.ignoresCase = true) (c : Char) :
    s.mem c.toLower = s.mem c := by
  by_cases hc : c ∈ Text.asciiLetters
  · exact beq_iff_eq.mp (List.all_eq_true.mp h c hc)
  · rw [Text.toLower_of_not_mem hc]

namespace Regex

/-- Whether all sets of an expression ignore case. -/
def ignoresCase : Regex → Bool
  | empty | anchor _ => true
  | literal text => text.all fun c => (CharSet.single c).ignoresCase
  | set chars => chars.ignoresCase
  | seq a b | alt a b => a.ignoresCase && b.ignoresCase
  | .repeat _ body | group _ body => body.ignoresCase

/-- The same spot of the text in small letters. -/
def Spot.small (s : Spot) : Spot :=
  ⟨s.before.map Char.toLower, s.position, s.rest.map Char.toLower⟩

/-- A goal that does the same at a spot of a text and of its form in small letters. -/
def Goal.IgnoresCase (goal : Goal) : Prop :=
  ∀ (s : Spot) (trail : Trail), goal s.small trail = goal s trail

/-- A condition on a place holds between two characters exactly if it holds between their
small forms. -/
theorem holds_toLower (condition : Anchor) (before after : Option Char) :
    condition.holds (before.map Char.toLower) (after.map Char.toLower)
      = condition.holds before after := by
  have hword : CharSet.word.ignoresCase = true := by decide
  have hwords (c? : Option Char) :
      (c?.map Char.toLower).any Text.isWordChar = c?.any Text.isWordChar := by
    cases c? with
    | none => rfl
    | some c => exact CharSet.mem_toLower hword c
  have hline (c? : Option Char) : (c?.map Char.toLower == some '\n') = (c? == some '\n') := by
    have hfeed : (CharSet.single '\n').ignoresCase = true := by decide
    cases c? with
    | none => rfl
    | some c =>
        have hmem := CharSet.mem_toLower hfeed c
        rw [Bool.eq_iff_iff, mem_single_iff, mem_single_iff] at hmem
        rw [Bool.eq_iff_iff]
        simpa using hmem
  cases condition <;> simp only [Anchor.holds, Option.isNone_map, hwords, hline]

/-! ### From the parts of an expression to the expression -/

namespace Goal.IgnoresCase

variable {a b : Goal}

/-- To eat a character ignores case if its set does. -/
theorem eat {chars : CharSet} (hchars : chars.ignoresCase = true) (h : IgnoresCase a) :
    IgnoresCase (.eat chars a) := by
  rintro ⟨before, position, text⟩ trail
  cases text with
  | nil => rfl
  | cons c rest =>
      simp only [Goal.eat, Spot.small, List.map_cons, CharSet.mem_toLower hchars]
      split
      · exact h ⟨some c, position + 1, rest⟩ trail
      · rfl

/-- To eat a fixed text ignores case if no character of it is a letter of ASCII. -/
theorem eatAll {text : List Char}
    (htext : ∀ c ∈ text, (CharSet.single c).ignoresCase = true) (h : IgnoresCase a) :
    IgnoresCase (.eatAll text a) := by
  induction text with
  | nil => exact h
  | cons c text ih =>
      rw [List.forall_mem_cons] at htext
      exact (ih htext.2).eat htext.1

/-- To check a condition ignores case. -/
theorem check (condition : Anchor) (h : IgnoresCase a) : IgnoresCase (.check condition a) := by
  intro s trail
  have hhead : s.small.rest.head? = s.rest.head?.map Char.toLower := List.head?_map
  simp only [Goal.check, hhead, h s trail]
  rw [show s.small.before = s.before.map Char.toLower from rfl, holds_toLower]

/-- So does to remember a place. -/
theorem save (mark : Mark) (h : IgnoresCase a) : IgnoresCase (.save mark a) :=
  fun s trail => h s ((mark, s.position) :: trail)

/-- A choice ignores case if both branches do. -/
theorem either (ha : IgnoresCase a) (hb : IgnoresCase b) : IgnoresCase (.either a b) := by
  intro s trail
  simp only [Goal.either, ha s trail, hb s trail]

/-- So does the fork of a loop. -/
theorem roundOrLeave (greedy : Bool) (ha : IgnoresCase a) (hb : IgnoresCase b) :
    IgnoresCase (.roundOrLeave greedy a b) := by
  cases greedy with
  | true => exact ha.either hb
  | false => exact hb.either ha

variable {body : Goal → Goal} (hbody : ∀ {goal : Goal}, IgnoresCase goal → IgnoresCase (body goal))

include hbody

/-- A loop with a bound ignores case if its body does. -/
theorem rounds (greedy : Bool) (n : Nat) (h : IgnoresCase a) :
    IgnoresCase (.rounds greedy body a n) := by
  induction n with
  | zero => exact h
  | succ n ih => exact (hbody ih).roundOrLeave greedy h

/-- So does a loop without one. -/
theorem allRounds (greedy : Bool) (h : IgnoresCase a) :
    IgnoresCase (.allRounds greedy body a) := by
  intro s trail
  have hlength : s.small.rest.length = s.rest.length := List.length_map _
  simp only [Goal.allRounds, hlength]
  exact rounds hbody greedy s.rest.length h s trail

/-- A body ignores case when it is done a fixed number of times. -/
theorem times (n : Nat) (h : IgnoresCase a) : IgnoresCase (.times body n a) := by
  induction n with
  | zero => exact h
  | succ n ih => exact hbody ih

end Goal.IgnoresCase

/-- An expression whose sets ignore case is matched in the same way, whatever the case. -/
theorem attempt_ignoresCase {r : Regex} (hr : r.ignoresCase = true) {goal : Goal}
    (h : goal.IgnoresCase) : (r.attempt goal).IgnoresCase := by
  induction r generalizing goal with
  | empty => exact h
  | literal text => exact h.eatAll (List.all_eq_true.mp hr)
  | set chars => exact h.eat hr
  | anchor condition => exact h.check condition
  | seq a b iha ihb =>
      rw [ignoresCase, Bool.and_eq_true] at hr
      exact iha hr.1 (ihb hr.2 h)
  | alt a b iha ihb =>
      rw [ignoresCase, Bool.and_eq_true] at hr
      exact (iha hr.1 h).either (ihb hr.2 h)
  | «repeat» count body ih =>
      rw [attempt]
      refine Goal.IgnoresCase.times (ih hr) count.least ?_
      split
      · exact h.rounds (ih hr) count.greedy _
      · exact h.allRounds (ih hr) count.greedy
  | group index body ih => exact (ih hr (h.save ⟨index, true⟩)).save ⟨index, false⟩

/-! ### Searches -/

/-- The search finds the same in a text and in its small form. -/
theorem leftmostFrom?_small {r : Regex} (hr : r.ignoresCase = true) (before : Option Char)
    (position : Nat) (text : List Char) :
    r.leftmostFrom? (before.map Char.toLower) position (text.map Char.toLower)
      = r.leftmostFrom? before position text := by
  have haccept : Goal.IgnoresCase .accept := fun _ _ => rfl
  have hhere := attempt_ignoresCase hr haccept
  induction text generalizing before position with
  | nil => exact hhere ⟨before, position, []⟩ []
  | cons c rest ih =>
      have hspot := hhere ⟨before, position, c :: rest⟩ []
      have hlater := ih (some c) (position + 1)
      rw [List.map_cons, leftmostFrom?, leftmostFrom?]
      exact congrArg₂ Option.or hspot hlater

/-- A search finds the same places in two texts that differ in letter case only. -/
theorem search?_eq_of_sameAscii {r : Regex} (hloops : r.loopsConsume = true)
    (hr : r.ignoresCase = true) {a b : List Char}
    (h : a.map Char.toLower = b.map Char.toLower) : r.search? a = r.search? b := by
  have hsmall (text : List Char) : r.search? (text.map Char.toLower) = r.search? text := by
    rw [search?_eq_leftmost? hloops, search?_eq_leftmost? hloops]
    exact leftmostFrom?_small hr none 0 text
  rw [← hsmall a, h, hsmall b]

/-- The place of a group in the text. -/
def Trail.span? (trail : Trail) (index : Nat) : Option Text.Span := do
  let start ← trail.lookup ⟨index, false⟩
  let stop ← trail.lookup ⟨index, true⟩
  pure ⟨start, stop - start⟩

/-- The text of a group is the part of the whole text at the places that are remembered for
it. -/
theorem group?_eq_map_part (trail : Trail) (text : List Char) (index : Nat) :
    trail.group? text index = (trail.span? index).map (Text.part text) := by
  cases hstart : trail.lookup ⟨index, false⟩ <;> cases hstop : trail.lookup ⟨index, true⟩ <;>
    simp [Trail.group?, Trail.span?, Text.part, hstart, hstop]

/-- The places of groups that a search finds lie in the text. -/
theorem span?_le_of_search? {r : Regex} (hloops : r.loopsConsume = true) {text : List Char}
    {trail : Trail} (h : r.search? text = some trail) (index : Nat) :
    ∀ span ∈ trail.span? index, span.start + span.length ≤ text.length := by
  obtain ⟨skipped, found, rest, rfl, hreads⟩ := exists_reads_of_search? hloops h
  have hencloses : Encloses (r.GroupReads index) index skipped.length found trail :=
    encloses_of_reads hreads
  rintro span hspan
  rcases hencloses with ⟨hopen, -⟩ | ⟨before, inside, behind, rfl, hopen, hclose, -⟩
  · simp [Trail.span?, hopen] at hspan
  · simp only [Trail.span?, hopen, hclose, Option.mem_def] at hspan
    obtain rfl := Option.some.inj hspan
    simp only [List.length_append]
    omega

/-- What is captured in two texts that differ in letter case only stands at the same
places. -/
theorem rel_captures? {r : Regex} (hloops : r.loopsConsume = true) (hr : r.ignoresCase = true)
    {a b : String} (h : a.toList.map Char.toLower = b.toList.map Char.toLower) :
    Option.Rel (Text.SamePlaces a.toList b.toList) (r.captures? a) (r.captures? b) := by
  have hsearch := search?_eq_of_sameAscii hloops hr h
  rw [captures?, captures?, ← hsearch]
  cases hfound : r.search? a.toList with
  | none => exact .none
  | some trail =>
      -- Both searches leave the same trail, so its places serve for both texts.
      refine .some ⟨(List.range r.groupCount).map fun i => trail.span? (i + 1), ?_, ?_, ?_⟩
      · intro span? hspan?
        obtain ⟨i, -, rfl⟩ := List.mem_map.mp hspan?
        exact span?_le_of_search? hloops hfound (i + 1)
      all_goals
        rw [List.map_map]
        exact List.map_congr_left fun i _ => group?_eq_map_part trail _ (i + 1)

end Regex

end ScenarioSteps
