import ScenarioSteps.Proofs.Regex.Language
import ScenarioSteps.Proofs.Script.Line

/-!
# `ScenarioSteps.Proofs.Regex.Runs`: loops over single characters

A loop over the characters of a set tries its ways in an order, but often at most one of them
lets the rest be done. These lemmas say which one, so that the backtracking reference can be
computed for such an expression.

* A greedy loop takes all characters that it can, if what is left to do begins with none of
  them (`allRounds_eq_skip`), or if it can be done there (`allRounds_eq_some`).
* Words are tried one after another (`attempt_ofBranches_literal`).
* An expression that begins at the start of a text is tried there only (`search?_anchored`).
-/

set_option autoImplicit false

namespace ScenarioSteps.Regex

/-- The spot behind characters that have been read. -/
def Spot.after (s : Spot) (read rest : List Char) : Spot :=
  ⟨read.getLast?.or s.before, s.position + read.length, rest⟩

/-- The spot behind a text with a first character is the spot behind the rest of it. -/
theorem Spot.after_cons (s : Spot) (c : Char) (read rest rest' : List Char) :
    (s.next c rest').after read rest = s.after (c :: read) rest := by
  have hlast : read.getLast?.or (some c) = (c :: read).getLast?.or s.before := by
    rw [List.getLast?_cons]
    cases read.getLast? <;> rfl
  rw [Spot.after, Spot.after, ← hlast, List.length_cons]
  simp only [Spot.next, Spot.mk.injEq, true_and, and_true]
  omega

/-- A character in sight is eaten if it is in the set. -/
theorem eat_cons (chars : CharSet) (goal : Goal) (before : Option Char) (position : Nat) (c : Char)
    (rest : List Char) (trail : Trail) :
    Goal.eat chars goal ⟨before, position, c :: rest⟩ trail
      = if chars.mem c then goal ⟨some c, position + 1, rest⟩ trail else none :=
  rfl

/-- A literal is read where the text goes on with it. -/
theorem eatAll_eq (text : List Char) (goal : Goal) (s : Spot) (trail : Trail) :
    Goal.eatAll text goal s trail
      = (Text.after? text s.rest).bind fun rest => goal (s.after text rest) trail := by
  induction text generalizing s with
  | nil => rfl
  | cons c text ih =>
      obtain ⟨before, position, cs⟩ := s
      cases cs with
      | nil => rfl
      | cons d cs =>
          rw [Goal.eatAll, eat_cons, Text.after?_cons]
          by_cases hsame : d = c
          · subst hsame
            rw [if_pos (mem_single_iff.mpr rfl), if_pos rfl, ih]
            exact Option.bind_congr fun rest _ => congrArg (goal · trail)
              (Spot.after_cons ⟨before, position, d :: cs⟩ d text rest cs)
          · rw [if_neg (mem_single_iff.not.mpr hsame), if_neg hsame]
            rfl

/-- One of several words is read, the first one with which the rest can be done. -/
theorem attempt_ofBranches_literal (words : List (List Char)) (goal : Goal) (s : Spot)
    (trail : Trail) :
    (ofBranches (words.map .literal)).attempt goal s trail
      = words.findSome? fun word =>
          (Text.after? word s.rest).bind fun rest => goal (s.after word rest) trail := by
  induction words with
  | nil =>
      obtain ⟨before, position, cs⟩ := s
      cases cs <;> rfl
  | cons word words ih =>
      rw [List.findSome?_cons, ← eatAll_eq]
      cases words with
      | nil =>
          show Goal.eatAll word goal s trail = _
          cases Goal.eatAll word goal s trail <;> rfl
      | cons next words =>
          show (Goal.eatAll word goal s trail).or _ = _
          rw [ih]
          cases Goal.eatAll word goal s trail <;> rfl

/-! ### Loops -/

section

variable {chars : CharSet} {leave : Goal}

/-- At the end of the text no loop makes a round. -/
theorem allRounds_nil (greedy : Bool) (before : Option Char) (position : Nat) (trail : Trail) :
    Goal.allRounds greedy (Goal.eat chars) leave ⟨before, position, []⟩ trail
      = leave ⟨before, position, []⟩ trail :=
  rfl

/-- A greedy loop prefers one more round. -/
theorem allRounds_greedy_cons (before : Option Char) (position : Nat) (c : Char)
    (rest : List Char) (trail : Trail) :
    Goal.allRounds true (Goal.eat chars) leave ⟨before, position, c :: rest⟩ trail
      = (if chars.mem c then
          Goal.allRounds true (Goal.eat chars) leave ⟨some c, position + 1, rest⟩ trail
        else none).or (leave ⟨before, position, c :: rest⟩ trail) :=
  rfl

/-- A lazy loop prefers to be left. -/
theorem allRounds_lazy_cons (before : Option Char) (position : Nat) (c : Char)
    (rest : List Char) (trail : Trail) :
    Goal.allRounds false (Goal.eat chars) leave ⟨before, position, c :: rest⟩ trail
      = (leave ⟨before, position, c :: rest⟩ trail).or
        (if chars.mem c then
          Goal.allRounds false (Goal.eat chars) leave ⟨some c, position + 1, rest⟩ trail
        else none) :=
  rfl

/-- The spot behind all characters of a set. -/
def Spot.skip (s : Spot) (chars : CharSet) : Spot :=
  s.after (s.rest.takeWhile chars.mem) (s.rest.dropWhile chars.mem)

/-- A character of the set is skipped. -/
theorem Spot.skip_of_mem (before : Option Char) {position : Nat} {c : Char} {rest : List Char}
    (hc : chars.mem c = true) :
    (⟨before, position, c :: rest⟩ : Spot).skip chars
      = (⟨some c, position + 1, rest⟩ : Spot).skip chars := by
  rw [Spot.skip, List.takeWhile_cons_of_pos hc, List.dropWhile_cons_of_pos hc]
  exact (Spot.after_cons ⟨before, position, c :: rest⟩ c _ _ rest).symm

/-- At any other character, nothing is. -/
theorem Spot.skip_of_not_mem {before : Option Char} {position : Nat} {c : Char}
    {rest : List Char} (hc : chars.mem c = false) :
    (⟨before, position, c :: rest⟩ : Spot).skip chars = ⟨before, position, c :: rest⟩ := by
  rw [Spot.skip, List.takeWhile_cons_of_neg (by simp [hc]),
    List.dropWhile_cons_of_neg (by simp [hc])]
  rfl

/-- A greedy loop takes all characters that it can if the rest cannot be done in front of
any of them. -/
theorem allRounds_eq_skip
    (hleave : ∀ (s : Spot) (trail : Trail) (c : Char) (rest : List Char),
      s.rest = c :: rest → chars.mem c = true → leave s trail = none)
    (s : Spot) (trail : Trail) :
    Goal.allRounds true (Goal.eat chars) leave s trail = leave (s.skip chars) trail := by
  obtain ⟨before, position, cs⟩ := s
  induction cs generalizing before position with
  | nil => rfl
  | cons c rest ih =>
      rw [allRounds_greedy_cons]
      cases hc : chars.mem c with
      | true =>
          rw [hleave _ trail c rest rfl hc, Option.or_none, if_pos rfl, Spot.skip_of_mem before hc]
          exact ih _ _
      | false =>
          rw [if_neg Bool.false_ne_true, Option.none_or, Spot.skip_of_not_mem hc]

/-- A greedy loop takes all characters that it can if the rest can be done behind them. -/
theorem allRounds_eq_some {s : Spot} {trail out : Trail}
    (h : leave (s.skip chars) trail = some out) :
    Goal.allRounds true (Goal.eat chars) leave s trail = some out := by
  obtain ⟨before, position, cs⟩ := s
  induction cs generalizing before position with
  | nil => exact h
  | cons c rest ih =>
      rw [allRounds_greedy_cons]
      cases hc : chars.mem c with
      | true =>
          rw [Spot.skip_of_mem before hc] at h
          rw [if_pos rfl, ih _ _ h, Option.some_or]
      | false =>
          rw [Spot.skip_of_not_mem hc] at h
          rw [if_neg Bool.false_ne_true, Option.none_or, h]

end

/-! ### The start of the text -/

/-- An expression that begins at the start of a text is tried there only. -/
theorem search?_anchored {r : Regex} (hloops : r.loopsConsume = true) (text : List Char) :
    (seq (anchor .textStart) r).search? text = r.attempt .accept (Spot.start text) [] := by
  have hloops' : (seq (anchor .textStart) r).loopsConsume = true := by
    rw [loopsConsume, hloops]
    rfl
  have hlater (c : Char) (position : Nat) (text : List Char) :
      (seq (anchor .textStart) r).leftmostFrom? (some c) position text = none := by
    induction text generalizing c position with
    | nil => rfl
    | cons d rest ih =>
        rw [leftmostFrom?, ih]
        rfl
  rw [search?_eq_leftmost? hloops', leftmost?]
  cases text with
  | nil => rfl
  | cons c rest =>
      rw [leftmostFrom?, hlater, Option.or_none]
      rfl

end ScenarioSteps.Regex
