import ScenarioSteps.Regex.Match

/-!
# `ScenarioSteps.Proofs.Regex.Backtrack`: trying one way after another

The search of `Regex.Match` follows all threads of a program at once. The
reference for what it finds is a backtracking matcher that works on the
expression itself. `attempt` matches an expression at a spot of a text and
hands each way to do so, the most preferred first, to what is left to do (a
`Goal`). The first way in which the rest can be done is the answer.

`leftmost?` tries all spots of a text from left to right.

An unbounded repetition makes as many rounds as characters are left. That is
enough if each round consumes, so the reference is for expressions of which
all loops do (`loopsConsume`).

* `attempt_congr`: what is left to do matters only at spots that lie behind
  the shortest match of the expression.
* `Goal.eq_allRounds`: a loop that is given by its equation makes as
  many rounds as are needed.
-/

set_option autoImplicit false

namespace ScenarioSteps.Regex

/-- A place between two characters of a text, with the text behind it. -/
structure Spot where
  before : Option Char
  /-- The number of characters before it. -/
  position : Nat
  rest : List Char

/-- The spot in front of a text. -/
def Spot.start (text : List Char) : Spot :=
  ⟨none, 0, text⟩

/-- The spot behind the next character. -/
def Spot.next (s : Spot) (c : Char) (rest : List Char) : Spot :=
  ⟨some c, s.position + 1, rest⟩

/-- What is left to do at a spot, given the places remembered so far. It
answers all places remembered at the end, or nothing if it cannot be done. -/
abbrev Goal :=
  Spot → Trail → Option Trail

namespace Goal

/-- Nothing is left to do. -/
def accept : Goal := fun _ trail =>
  some trail

/-- Moves over a character of a set. -/
def eat (chars : CharSet) (goal : Goal) : Goal := fun s trail =>
  match s.rest with
  | [] => none
  | c :: rest => if chars.mem c then goal (s.next c rest) trail else none

/-- Moves over the characters of a literal. -/
def eatAll : List Char → Goal → Goal
  | [], goal => goal
  | c :: text, goal => eat (.single c) (eatAll text goal)

/-- Goes on if a condition holds at the spot. -/
def check (condition : Anchor) (goal : Goal) : Goal := fun s trail =>
  if condition.holds s.before s.rest.head? then goal s trail else none

/-- Remembers the spot. -/
def save (mark : Mark) (goal : Goal) : Goal := fun s trail =>
  goal s ((mark, s.position) :: trail)

/-- The first goal, or else the second. -/
def either (first second : Goal) : Goal := fun s trail =>
  (first s trail).or (second s trail)

/-- Another round of a repetition or the way out of it. -/
def roundOrLeave (greedy : Bool) (round leave : Goal) : Goal :=
  if greedy then either round leave else either leave round

/-- At most so many rounds. -/
def rounds (greedy : Bool) (body : Goal → Goal) (leave : Goal) : Nat → Goal
  | 0 => leave
  | n + 1 => roundOrLeave greedy (body (rounds greedy body leave n)) leave

/-- As many rounds as there are characters left. -/
def allRounds (greedy : Bool) (body : Goal → Goal) (leave : Goal) : Goal := fun s =>
  rounds greedy body leave s.rest.length s

/-- So many times. -/
def times (body : Goal → Goal) : Nat → Goal → Goal
  | 0, goal => goal
  | n + 1, goal => body (times body n goal)

end Goal

/-- Matches an expression, and then does what is left to do. -/
def attempt : Regex → Goal → Goal
  | empty, goal => goal
  | literal text, goal => .eatAll text goal
  | set chars, goal => .eat chars goal
  | anchor condition, goal => .check condition goal
  | seq a b, goal => a.attempt (b.attempt goal)
  | alt a b, goal => .either (a.attempt goal) (b.attempt goal)
  | .repeat count body, goal =>
    .times body.attempt count.least <|
      match count.most? with
      | some most => .rounds count.greedy body.attempt goal (most - count.least)
      | none => .allRounds count.greedy body.attempt goal
  | group index body, goal => .save ⟨index, false⟩ (body.attempt (.save ⟨index, true⟩ goal))

/-- The best match that starts at the first spot from which there is one. -/
def leftmostFrom? (r : Regex) (before : Option Char) (position : Nat) :
    List Char → Option Trail
  | [] => r.attempt .accept ⟨before, position, []⟩ []
  | c :: rest =>
    (r.attempt .accept ⟨before, position, c :: rest⟩ []).or
      (leftmostFrom? r (some c) (position + 1) rest)

/-- The best match that starts as far to the left as possible. -/
def leftmost? (r : Regex) (text : List Char) : Option Trail :=
  r.leftmostFrom? none 0 text

/-- Whether all unbounded repetitions consume in each round. -/
def loopsConsume : Regex → Bool
  | empty | literal _ | set _ | anchor _ => true
  | seq a b | alt a b => a.loopsConsume && b.loopsConsume
  | .repeat count body => body.loopsConsume && (count.most?.isSome || body.consumes)
  | group _ body => body.loopsConsume

/-! ### Where a goal is asked -/

/-- Two goals agree wherever fewer than so many characters are left. -/
def Goal.AgreeBelow (n : Nat) (a b : Goal) : Prop :=
  ∀ (s : Spot) (trail : Trail), s.rest.length < n → a s trail = b s trail

namespace Goal.AgreeBelow

variable {n : Nat} {a b : Goal}

/-- Goals that agree below a bound agree below a smaller one. -/
theorem mono {m : Nat} (h : AgreeBelow n a b) (hmn : m ≤ n) : AgreeBelow m a b :=
  fun s trail hs => h s trail (Nat.lt_of_lt_of_le hs hmn)

/-- If goals agree, so do those that eat a character first, with one character more to go. -/
theorem eat (chars : CharSet) (h : AgreeBelow n a b) :
    AgreeBelow (n + 1) (.eat chars a) (.eat chars b) := by
  rintro ⟨before, position, text⟩ trail hs
  cases text with
  | nil => rfl
  | cons c rest =>
      have hrest : rest.length < n := Nat.lt_of_succ_lt_succ hs
      simp only [Goal.eat, h ((⟨before, position, c :: rest⟩ : Spot).next c rest) trail hrest]

/-- If a fixed text is eaten first, there are as many more to go as it has characters. -/
theorem eatAll (text : List Char) (h : AgreeBelow n a b) :
    AgreeBelow (n + text.length) (.eatAll text a) (.eatAll text b) := by
  induction text with
  | nil => exact h
  | cons c text ih => exact ih.eat (.single c)

/-- A condition in front of goals changes nothing in where they agree. -/
theorem check (condition : Anchor) (h : AgreeBelow n a b) :
    AgreeBelow n (.check condition a) (.check condition b) := by
  intro s trail hs
  simp only [Goal.check, h s trail hs]

/-- Nor does a place that is remembered. -/
theorem save (mark : Mark) (h : AgreeBelow n a b) :
    AgreeBelow n (.save mark a) (.save mark b) :=
  fun s _ hs => h s _ hs

/-- Two choices agree where their branches do. -/
theorem either {a' b' : Goal} (h : AgreeBelow n a b) (h' : AgreeBelow n a' b') :
    AgreeBelow n (.either a a') (.either b b') := by
  intro s trail hs
  simp only [Goal.either, h s trail hs, h' s trail hs]

/-- So do two forks of a loop. -/
theorem roundOrLeave (greedy : Bool) {a' b' : Goal} (h : AgreeBelow n a b)
    (h' : AgreeBelow n a' b') :
    AgreeBelow n (.roundOrLeave greedy a a') (.roundOrLeave greedy b b') := by
  cases greedy with
  | true => exact h.either h'
  | false => exact h'.either h

/-- If a body keeps that goals agree, so does a loop over it with a bound. -/
theorem rounds {body : Goal → Goal} (greedy : Bool) (times : Nat)
    (hbody : ∀ {a b : Goal}, AgreeBelow n a b → AgreeBelow n (body a) (body b))
    (h : AgreeBelow n a b) :
    AgreeBelow n (.rounds greedy body a times) (.rounds greedy body b times) := by
  induction times with
  | zero => exact h
  | succ times ih => exact (hbody ih).roundOrLeave greedy h

/-- If a body moves on by some characters, it does so each of a fixed number of times. -/
theorem times {body : Goal → Goal} {shortest : Nat} (times : Nat)
    (hbody : ∀ {n : Nat} {a b : Goal},
      AgreeBelow n a b → AgreeBelow (n + shortest) (body a) (body b))
    (h : AgreeBelow n a b) :
    AgreeBelow (n + times * shortest) (.times body times a) (.times body times b) := by
  induction times with
  | zero => exact h.mono (by omega)
  | succ times ih =>
      rw [Nat.succ_mul, ← Nat.add_assoc]
      exact hbody ih

end Goal.AgreeBelow

/-- What is left to do is asked only behind the shortest match. -/
theorem attempt_congr (r : Regex) {n : Nat} {a b : Goal} (h : Goal.AgreeBelow n a b) :
    Goal.AgreeBelow (n + r.shortest?.getD 0) (r.attempt a) (r.attempt b) := by
  induction r generalizing n a b with
  | empty => exact h
  | literal text => exact h.eatAll text
  | set chars =>
      refine (h.eat chars).mono ?_
      unfold shortest?
      split <;> simp
  | anchor condition => exact h.check condition
  | seq first rest ihFirst ihRest =>
      refine (ihFirst (ihRest h)).mono ?_
      cases hfirst : first.shortest? with
      | none => simp [shortest?, hfirst]
      | some m =>
          cases hrest : rest.shortest? with
          | none => simp [shortest?, hfirst, hrest]
          | some k =>
              simp only [shortest?, hfirst, hrest, Option.bind_some, Option.map_some,
                Option.getD_some]
              omega
  | alt first rest ihFirst ihRest =>
      -- A branch may be longer than the shortest one.
      have hle : (alt first rest).shortest?.getD 0 ≤ first.shortest?.getD 0
          ∧ (alt first rest).shortest?.getD 0 ≤ rest.shortest?.getD 0 := by
        cases hfirst : first.shortest? with
        | none => simp [shortest?, hfirst]
        | some m =>
            cases hrest : rest.shortest? with
            | none => simp [shortest?, hfirst, hrest]
            | some k =>
                simp only [shortest?, hfirst, hrest, Option.bind_some, Option.map_some,
                  Option.getD_some]
                exact ⟨Nat.min_le_left m k, Nat.min_le_right m k⟩
      exact ((ihFirst h).mono (by omega)).either ((ihRest h).mono (by omega))
  | «repeat» count body ih =>
      have hbody : ∀ {n : Nat} {a b : Goal}, Goal.AgreeBelow n a b →
          Goal.AgreeBelow n (body.attempt a) (body.attempt b) :=
        fun h => (ih h).mono (by omega)
      have hleast : ((Regex.repeat count body).shortest?.getD 0)
          = count.least * body.shortest?.getD 0 := by
        cases hshort : body.shortest? <;> simp [shortest?, hshort]
      rw [hleast]
      refine Goal.AgreeBelow.times count.least ih ?_
      split
      · exact h.rounds count.greedy _ hbody
      · intro s trail hs
        exact (h.rounds count.greedy s.rest.length hbody) s trail hs
  | group index body ih => exact (ih (h.save ⟨index, true⟩)).save ⟨index, false⟩

/-- A goal that cannot be done. -/
def Goal.fail : Goal := fun _ _ =>
  none

/-- If the rest cannot be done, no way to match an expression helps. -/
theorem attempt_fail (r : Regex) : r.attempt .fail = .fail := by
  have heat (chars : CharSet) : Goal.eat chars .fail = .fail := by
    funext s trail
    simp only [Goal.eat, Goal.fail]
    split <;> simp
  have heither : Goal.either .fail .fail = .fail := rfl
  have hchoice (greedy : Bool) : Goal.roundOrLeave greedy .fail .fail = .fail := by
    cases greedy <;> rfl
  induction r with
  | empty => rfl
  | literal text =>
      show Goal.eatAll text .fail = .fail
      induction text with
      | nil => rfl
      | cons c text ih => rw [Goal.eatAll, ih, heat]
  | set chars => exact heat chars
  | anchor condition =>
      funext s trail
      simp [attempt, Goal.check, Goal.fail]
  | seq first rest ihFirst ihRest => rw [attempt, ihRest, ihFirst]
  | alt first rest ihFirst ihRest => rw [attempt, ihFirst, ihRest, heither]
  | «repeat» count body ih =>
      -- Neither another round nor the way out of the loop can be done.
      have hrounds (n : Nat) :
          Goal.rounds count.greedy body.attempt .fail n = .fail := by
        induction n with
        | zero => rfl
        | succ n ihn => rw [Goal.rounds, ihn, ih, hchoice]
      have htimes (n : Nat) : Goal.times body.attempt n .fail = .fail := by
        induction n with
        | zero => rfl
        | succ n ihn => rw [Goal.times, ihn, ih]
      have hall : Goal.allRounds count.greedy body.attempt .fail = .fail := by
        funext s trail
        rw [Goal.allRounds, hrounds]
      rw [attempt]
      split
      · rw [hrounds, htimes]
      · rw [hall, htimes]
  | group index body ih =>
      have hsave (mark : Mark) : Goal.save mark .fail = .fail := rfl
      rw [attempt, hsave, ih, hsave]

/-- A loop over a body that consumes is determined by its equation. -/
theorem Goal.eq_allRounds {body : Regex} (hconsumes : body.consumes = true) (greedy : Bool)
    {loop leave : Goal}
    (hloop : loop = .roundOrLeave greedy (body.attempt loop) leave) :
    loop = .allRounds greedy body.attempt leave := by
  have hpos : 0 < body.shortest?.getD 0 := by
    unfold consumes at hconsumes
    cases hshort : body.shortest? <;> simp_all
  have hrounds : ∀ n, Goal.AgreeBelow (n + 1) loop (.rounds greedy body.attempt leave n) := by
    intro n
    induction n with
    | zero =>
        -- Nothing is left to read, so no further round succeeds.
        have hbody : Goal.AgreeBelow 1 (body.attempt loop) .fail := by
          have hnone : Goal.AgreeBelow 0 loop .fail := fun _ _ h => absurd h (Nat.not_lt_zero _)
          rw [← attempt_fail body]
          exact (attempt_congr body hnone).mono (by omega)
        intro s trail hs
        rw [hloop, Goal.rounds]
        cases greedy <;> simp [roundOrLeave, either, hbody s trail hs, Goal.fail]
    | succ n ih =>
        have hbody := (attempt_congr body ih).mono (show n + 2 ≤ _ by omega)
        intro s trail hs
        rw [hloop, Goal.rounds]
        exact hbody.roundOrLeave greedy (fun _ _ _ => rfl) s trail hs
  funext s trail
  exact hrounds s.rest.length s trail (Nat.lt_succ_self _)

end ScenarioSteps.Regex
