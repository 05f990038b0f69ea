import ScenarioSteps.Proofs.Regex.Search

/-!
# `ScenarioSteps.Proofs.Regex.Language`: the texts that an expression reads

`Reads` says without any order of preference which texts an expression
matches and which places it remembers there. Conditions on a place are left
out, so an expression with conditions may read more than it matches.

* `reads_of_attempt`: what backtracking matches is read.
* `isSome_attempt_of_reads`: without conditions, what is read is matched,
  if the rest can be done.
* `occursIn_iff`: so an expression without conditions occurs in a text if
  and only if it reads a part of it.
-/

set_option autoImplicit false

namespace ScenarioSteps

/-- A number of rounds that a repetition can make. -/
def Count.Allows (count : Count) (rounds : Nat) : Prop :=
  count.least ≤ rounds ∧ ∀ most ∈ count.most?, rounds ≤ max count.least most

namespace Regex

/-- A relation between a position, the text that is read from there on, and
the places that are remembered, the latest first. -/
abbrev Reading :=
  Nat → List Char → Trail → Prop

/-- So many readings, one after another. -/
def Reading.times (reads : Reading) : Nat → Reading
  | 0, _, text, marks => text = [] ∧ marks = []
  | n + 1, position, text, marks => ∃ first rest before behind,
    text = first ++ rest ∧ marks = behind ++ before ∧ reads position first before
      ∧ Reading.times reads n (position + first.length) rest behind

/-- The texts that an expression reads from a position on. -/
def Reads : Regex → Reading
  | empty, _, text, marks | anchor _, _, text, marks => text = [] ∧ marks = []
  | literal fixed, _, text, marks => text = fixed ∧ marks = []
  | set chars, _, text, marks => marks = [] ∧ ∃ c, chars.mem c = true ∧ text = [c]
  | seq a b, position, text, marks => ∃ first rest before behind,
    text = first ++ rest ∧ marks = behind ++ before ∧ a.Reads position first before
      ∧ b.Reads (position + first.length) rest behind
  | alt a b, position, text, marks => a.Reads position text marks ∨ b.Reads position text marks
  | .repeat count body, position, text, marks =>
    ∃ rounds, count.Allows rounds ∧ Reading.times body.Reads rounds position text marks
  | group index body, position, text, marks => ∃ inner, body.Reads position text inner
    ∧ marks = (⟨index, true⟩, position + text.length) :: inner ++ [(⟨index, false⟩, position)]

/-- Whether an expression sets no condition on a place. -/
def isUnconditional : Regex → Bool
  | empty | literal _ | set _ => true
  | anchor _ => false
  | seq a b | alt a b => a.isUnconditional && b.isUnconditional
  | .repeat _ body | group _ body => body.isUnconditional

/-- Two runs of readings, one right behind the other, are one run. -/
theorem Reading.times_add {reads : Reading} {m n position : Nat} {first rest : List Char}
    {before behind : Trail} (hfirst : Reading.times reads m position first before)
    (hrest : Reading.times reads n (position + first.length) rest behind) :
    Reading.times reads (m + n) position (first ++ rest) (behind ++ before) := by
  induction m generalizing position first before with
  | zero =>
      obtain ⟨rfl, rfl⟩ := hfirst
      simpa using hrest
  | succ m ih =>
      obtain ⟨u, v, earlier, later, rfl, rfl, hu, hv⟩ := hfirst
      rw [Nat.add_right_comm]
      refine ⟨u, v ++ rest, earlier, behind ++ later, by simp, by simp, hu, ih hv ?_⟩
      rwa [List.length_append, ← Nat.add_assoc] at hrest

/-- A run of readings can be cut after any number of them. -/
theorem Reading.exists_of_times_add {reads : Reading} {m n position : Nat} {text : List Char}
    {marks : Trail} (h : Reading.times reads (m + n) position text marks) :
    ∃ first rest before behind, text = first ++ rest ∧ marks = behind ++ before
      ∧ Reading.times reads m position first before
      ∧ Reading.times reads n (position + first.length) rest behind := by
  induction m generalizing position text marks with
  | zero => exact ⟨[], text, [], marks, rfl, by simp, ⟨rfl, rfl⟩, by simpa using h⟩
  | succ m ih =>
      rw [Nat.add_right_comm] at h
      obtain ⟨u, v, earlier, later, rfl, rfl, hu, hv⟩ := h
      obtain ⟨first, rest, before, behind, rfl, rfl, hfirst, hrest⟩ := ih hv
      refine ⟨u ++ first, rest, before ++ earlier, behind, by simp, by simp,
        ⟨u, first, earlier, before, rfl, rfl, hu, hfirst⟩, ?_⟩
      rwa [List.length_append, ← Nat.add_assoc]

/-! ### What is matched is read -/

/-- A part of a matcher goes over a text that is read, and then does what is
left to do. -/
def Sound (reads : Reading) (step : Goal → Goal) : Prop :=
  ∀ (goal : Goal) (s : Spot) (trail out : Trail), step goal s trail = some out →
    ∃ before text rest marks, s.rest = text ++ rest ∧ reads s.position text marks
      ∧ goal ⟨before, s.position + text.length, rest⟩ (marks ++ trail) = some out

/-- Of two sound parts one after the other, the second reads on where the first one stops. -/
theorem Sound.seq {reads reads' : Reading} {step step' : Goal → Goal} (h : Sound reads step)
    (h' : Sound reads' step') {goal : Goal} {s : Spot} {trail out : Trail}
    (hout : step (step' goal) s trail = some out) :
    ∃ before first rest behind marks marks', s.rest = first ++ rest ++ behind
      ∧ reads s.position first marks ∧ reads' (s.position + first.length) rest marks'
      ∧ goal ⟨before, s.position + (first ++ rest).length, behind⟩ (marks' ++ marks ++ trail)
        = some out := by
  obtain ⟨before, first, tail, marks, hfirst, hreads, hgoal⟩ := h _ _ _ _ hout
  obtain ⟨before', rest, behind, marks', hrest, hreads', hgoal'⟩ := h' _ _ _ _ hgoal
  refine ⟨before', first, rest, behind, marks, marks', ?_, hreads, hreads', ?_⟩
  · rw [hfirst, List.append_assoc]
    exact congrArg _ hrest
  · rw [List.length_append, ← Nat.add_assoc, List.append_assoc]
    exact hgoal'

/-- A sound part is sound when it is done a fixed number of times. -/
theorem Sound.times {reads : Reading} {step : Goal → Goal} (h : Sound reads step) (n : Nat) :
    Sound (Reading.times reads n) (Goal.times step n) := by
  induction n with
  | zero => exact fun goal s trail out hout => ⟨s.before, [], s.rest, [], rfl, ⟨rfl, rfl⟩, hout⟩
  | succ n ih =>
      intro goal s trail out hout
      obtain ⟨before, first, rest, behind, marks, marks', hsplit, hfirst, hrest, hgoal⟩ :=
        h.seq ih hout
      exact ⟨before, first ++ rest, behind, marks' ++ marks, hsplit,
        ⟨first, rest, marks, marks', rfl, rfl, hfirst, hrest⟩, hgoal⟩

/-- What one of two goals finds is found by one of them alone. -/
theorem either_eq_some {a b : Goal} {s : Spot} {trail out : Trail}
    (h : Goal.either a b s trail = some out) : a s trail = some out ∨ b s trail = some out := by
  rw [Goal.either, Option.or_eq_some_iff] at h
  exact h.imp_right And.right

/-- It does not matter for this in which order the two are tried. -/
theorem roundOrLeave_eq_some {greedy : Bool} {a b : Goal} {s : Spot} {trail out : Trail}
    (h : Goal.roundOrLeave greedy a b s trail = some out) :
    a s trail = some out ∨ b s trail = some out := by
  cases greedy with
  | true => exact either_eq_some h
  | false => exact (either_eq_some h).symm

/-- A sound part is sound when it is done as often as possible, up to a bound. -/
theorem Sound.rounds {reads : Reading} {step : Goal → Goal} (h : Sound reads step)
    (greedy : Bool) (most : Nat) :
    Sound (fun position text marks => ∃ n ≤ most, Reading.times reads n position text marks)
      (fun goal => Goal.rounds greedy step goal most) := by
  induction most with
  | zero =>
      exact fun goal s trail out hout =>
        ⟨s.before, [], s.rest, [], rfl, ⟨0, Nat.le_refl 0, rfl, rfl⟩, hout⟩
  | succ most ih =>
      intro goal s trail out hout
      rcases roundOrLeave_eq_some hout with hround | hleave
      · obtain ⟨before, first, rest, behind, marks, marks', hsplit, hfirst, ⟨n, hn, hrest⟩, hgoal⟩ :=
          h.seq ih hround
        exact ⟨before, first ++ rest, behind, marks' ++ marks, hsplit,
          ⟨n + 1, Nat.succ_le_succ hn, first, rest, marks, marks', rfl, rfl, hfirst, hrest⟩, hgoal⟩
      · exact ⟨s.before, [], s.rest, [], rfl, ⟨0, Nat.zero_le _, rfl, rfl⟩, hleave⟩

/-- To eat a character is to read one of the set. -/
theorem Sound.eat (chars : CharSet) :
    Sound (fun _ text marks => marks = [] ∧ ∃ c, chars.mem c = true ∧ text = [c])
      (Goal.eat chars) := by
  intro goal s trail out hout
  obtain ⟨before, position, text⟩ := s
  cases text with
  | nil => cases hout
  | cons c rest =>
      simp only [Goal.eat] at hout
      split at hout
      · next hmem => exact ⟨some c, [c], rest, [], rfl, ⟨rfl, c, hmem, rfl⟩, hout⟩
      · cases hout

/-- A set of one character has that character only. -/
theorem mem_single_iff {c d : Char} : (CharSet.single c).mem d = true ↔ d = c := by
  rw [← Char.toNat_inj]
  simp [CharSet.single, CharSet.mem, Text.within]
  omega

/-- To eat a fixed text is to read it. -/
theorem Sound.eatAll (fixed : List Char) :
    Sound (fun _ text marks => text = fixed ∧ marks = []) (Goal.eatAll fixed) := by
  induction fixed with
  | nil => exact fun goal s trail out hout => ⟨s.before, [], s.rest, [], rfl, ⟨rfl, rfl⟩, hout⟩
  | cons c fixed ih =>
      intro goal s trail out hout
      obtain ⟨before, first, rest, behind, marks, marks', hsplit, ⟨rfl, d, hd, rfl⟩, ⟨rfl, rfl⟩,
        hgoal⟩ := (Sound.eat (.single c)).seq ih hout
      rw [mem_single_iff] at hd
      subst hd
      exact ⟨before, _, behind, [], hsplit, ⟨rfl, rfl⟩, hgoal⟩

/-- What backtracking matches is read, and the rest is done behind it. -/
theorem reads_of_attempt (r : Regex) : Sound r.Reads r.attempt := by
  induction r with
  | empty => exact fun goal s trail out hout => ⟨s.before, [], s.rest, [], rfl, ⟨rfl, rfl⟩, hout⟩
  | literal text => exact .eatAll text
  | set chars => exact .eat chars
  | anchor condition =>
      intro goal s trail out hout
      simp only [attempt, Goal.check] at hout
      split at hout
      · exact ⟨s.before, [], s.rest, [], rfl, ⟨rfl, rfl⟩, hout⟩
      · cases hout
  | seq first rest ihFirst ihRest =>
      intro goal s trail out hout
      obtain ⟨before, u, v, behind, marks, marks', hsplit, hu, hv, hgoal⟩ :=
        ihFirst.seq ihRest hout
      exact ⟨before, u ++ v, behind, marks' ++ marks, hsplit,
        ⟨u, v, marks, marks', rfl, rfl, hu, hv⟩, hgoal⟩
  | alt first rest ihFirst ihRest =>
      intro goal s trail out hout
      rcases either_eq_some hout with h | h
      · obtain ⟨before, text, behind, marks, hsplit, hreads, hgoal⟩ := ihFirst _ _ _ _ h
        exact ⟨before, text, behind, marks, hsplit, .inl hreads, hgoal⟩
      · obtain ⟨before, text, behind, marks, hsplit, hreads, hgoal⟩ := ihRest _ _ _ _ h
        exact ⟨before, text, behind, marks, hsplit, .inr hreads, hgoal⟩
  | «repeat» count body ih =>
      intro goal s trail out hout
      -- Required rounds and further ones make up a number of rounds that is allowed.
      have hall {n : Nat} {u : List Char} {marks : Trail} {position : Nat}
          {v : List Char} {marks' : Trail}
          (hu : Reading.times body.Reads count.least position u marks)
          (hv : Reading.times body.Reads n (position + u.length) v marks')
          (hn : ∀ most ∈ count.most?, n ≤ most - count.least) :
          (Regex.repeat count body).Reads position (u ++ v) (marks' ++ marks) := by
        refine ⟨count.least + n, ⟨Nat.le_add_right _ _, fun most hmost => ?_⟩,
          Reading.times_add hu hv⟩
        have := hn most hmost
        omega
      rw [attempt] at hout
      split at hout
      · next most hmost =>
          obtain ⟨before, u, v, behind, marks, marks', hsplit, hu, ⟨n, hn, hv⟩, hgoal⟩ :=
            (ih.times count.least).seq (ih.rounds count.greedy (most - count.least)) hout
          refine ⟨before, u ++ v, behind, marks' ++ marks, hsplit, hall hu hv ?_, hgoal⟩
          intro other hother
          rw [hmost] at hother
          cases hother
          exact hn
      · next hmost =>
          -- The further rounds are bounded by the length of the rest, so by where they start. The
          -- two parts are put together by hand.
          obtain ⟨before, u, tail, marks, htail, hu, hloop⟩ := ih.times count.least _ _ _ _ hout
          obtain ⟨before', v, behind, marks', hv, ⟨n, -, hreads⟩, hgoal⟩ :=
            ih.rounds count.greedy _ _ _ _ _ hloop
          refine ⟨before', u ++ v, behind, marks' ++ marks, ?_, hall hu hreads ?_, ?_⟩
          · rw [htail, List.append_assoc]
            exact congrArg _ hv
          · rw [hmost]
            simp
          · rw [List.length_append, ← Nat.add_assoc, List.append_assoc]
            exact hgoal
  | group index body ih =>
      intro goal s trail out hout
      obtain ⟨before, text, behind, marks, hsplit, hreads, hgoal⟩ := ih _ _ _ _ hout
      refine ⟨before, text, behind, _, hsplit, ⟨marks, hreads, rfl⟩, ?_⟩
      simpa [Goal.save] using hgoal

/-! ### What is read is matched -/

/-- Readings that each take so much text take so much for each of them together. -/
theorem Reading.length_times {reads : Reading} {shortest : Nat}
    (h : ∀ {position text marks}, reads position text marks → shortest ≤ text.length)
    {n position : Nat} {text : List Char} {marks : Trail}
    (htext : Reading.times reads n position text marks) : n * shortest ≤ text.length := by
  induction n generalizing position text marks with
  | zero => exact (Nat.zero_mul shortest).symm ▸ Nat.zero_le _
  | succ n ih =>
      obtain ⟨first, rest, before, behind, rfl, -, hfirst, hrest⟩ := htext
      have h1 := h hfirst
      have h2 := ih hrest
      rw [Nat.succ_mul, List.length_append]
      omega

/-- No text that is read is shorter than the shortest match. -/
theorem shortest_le (r : Regex) {position : Nat} {text : List Char} {marks : Trail}
    (h : r.Reads position text marks) : r.shortest?.getD 0 ≤ text.length := by
  induction r generalizing position text marks with
  | empty => exact Nat.zero_le _
  | literal fixed => rw [h.1]; exact Nat.le_refl _
  | set chars =>
      obtain ⟨-, c, -, rfl⟩ := h
      unfold shortest?
      split <;> simp
  | anchor condition => exact Nat.zero_le _
  | seq first rest ihFirst ihRest =>
      obtain ⟨u, v, before, behind, rfl, -, hu, hv⟩ := h
      have h1 := ihFirst hu
      have h2 := ihRest hv
      rw [List.length_append]
      cases hf : first.shortest? <;> cases hr : rest.shortest? <;>
        simp_all [shortest?]
      omega
  | alt first rest ihFirst ihRest =>
      have hle := h.imp ihFirst ihRest
      cases hf : first.shortest? <;> cases hr : rest.shortest? <;>
        simp_all [shortest?]
  | «repeat» count body ih =>
      obtain ⟨rounds, ⟨hleast, -⟩, htext⟩ := h
      have hlength := Reading.length_times ih htext
      -- More rounds than required only make the text longer.
      have hmul := Nat.mul_le_mul_right (body.shortest?.getD 0) hleast
      cases hs : body.shortest? with
      | none => simp [shortest?, hs]
      | some n =>
          simp only [hs, Option.getD_some] at hmul hlength
          simp only [shortest?, hs, Option.map_some, Option.getD_some]
          omega
  | group index body ih =>
      obtain ⟨inner, hbody, -⟩ := h
      exact ih hbody

/-- A part of a matcher that goes over a text that is read can be done if the
rest can. -/
def Complete (reads : Reading) (step : Goal → Goal) : Prop :=
  ∀ (goal : Goal) (s : Spot) (text rest : List Char) (marks : Trail), s.rest = text ++ rest →
    reads s.position text marks →
    (∀ before trail, (goal ⟨before, s.position + text.length, rest⟩ trail).isSome = true) →
    ∀ trail, (step goal s trail).isSome = true

/-- If two parts are complete and the goal behind them can be done, so can both parts and the
goal. -/
theorem Complete.seq {reads reads' : Reading} {step step' : Goal → Goal}
    (h : Complete reads step) (h' : Complete reads' step') {goal : Goal} {s : Spot}
    {first rest behind : List Char} {marks marks' : Trail}
    (hsplit : s.rest = first ++ rest ++ behind) (hfirst : reads s.position first marks)
    (hrest : reads' (s.position + first.length) rest marks')
    (hgoal : ∀ before trail,
      (goal ⟨before, s.position + (first ++ rest).length, behind⟩ trail).isSome = true)
    (trail : Trail) : (step (step' goal) s trail).isSome = true := by
  refine h _ s first (rest ++ behind) marks (by rw [hsplit, List.append_assoc]) hfirst ?_ trail
  intro before trail'
  refine h' _ ⟨before, s.position + first.length, rest ++ behind⟩ rest behind marks' rfl hrest ?_
    trail'
  rw [List.length_append, ← Nat.add_assoc] at hgoal
  exact hgoal

/-- A complete part is complete when it is done a fixed number of times. -/
theorem Complete.times {reads : Reading} {step : Goal → Goal} (h : Complete reads step)
    (n : Nat) : Complete (Reading.times reads n) (Goal.times step n) := by
  induction n with
  | zero =>
      rintro goal ⟨before, position, text⟩ _ rest marks hsplit ⟨rfl, rfl⟩ hgoal trail
      cases hsplit
      exact hgoal before trail
  | succ n ih =>
      rintro goal s _ behind _ hsplit ⟨u, v, before, later, rfl, rfl, hu, hv⟩ hgoal trail
      exact h.seq ih hsplit hu hv hgoal trail

/-- Two goals can be done together if one of them can. -/
theorem isSome_either {a b : Goal} {s : Spot} {trail : Trail}
    (h : (a s trail).isSome = true ∨ (b s trail).isSome = true) :
    (Goal.either a b s trail).isSome = true := by
  rwa [Goal.either, Option.isSome_or, Bool.or_eq_true]

/-- It does not matter for this in which order the two are tried. -/
theorem isSome_roundOrLeave {greedy : Bool} {a b : Goal} {s : Spot} {trail : Trail}
    (h : (a s trail).isSome = true ∨ (b s trail).isSome = true) :
    (Goal.roundOrLeave greedy a b s trail).isSome = true := by
  cases greedy with
  | true => exact isSome_either h
  | false => exact isSome_either h.symm

/-- A loop with a bound is complete for any number of rounds up to the bound. -/
theorem Complete.rounds {reads : Reading} {step : Goal → Goal} (h : Complete reads step)
    (greedy : Bool) {n most : Nat} (hn : n ≤ most) :
    Complete (Reading.times reads n) (fun goal => Goal.rounds greedy step goal most) := by
  induction n generalizing most with
  | zero =>
      rintro goal ⟨before, position, text⟩ _ rest marks hsplit ⟨rfl, rfl⟩ hgoal trail
      cases hsplit
      cases most with
      | zero => exact hgoal before trail
      | succ most => exact isSome_roundOrLeave (.inr (hgoal before trail))
  | succ n ih =>
      obtain ⟨most, rfl⟩ : ∃ m, most = m + 1 := ⟨most - 1, by omega⟩
      rintro goal s _ behind _ hsplit ⟨u, v, before, later, rfl, rfl, hu, hv⟩ hgoal trail
      exact isSome_roundOrLeave
        (.inl (h.seq (ih (Nat.le_of_succ_le_succ hn)) hsplit hu hv hgoal trail))

/-- A character of the set can be eaten. -/
theorem Complete.eat (chars : CharSet) :
    Complete (fun _ text marks => marks = [] ∧ ∃ c, chars.mem c = true ∧ text = [c])
      (Goal.eat chars) := by
  rintro goal ⟨before, position, _⟩ _ rest marks rfl ⟨-, c, hc, rfl⟩ hgoal trail
  simp only [Goal.eat, List.singleton_append, hc, if_true]
  exact hgoal (some c) trail

/-- So can a fixed text. -/
theorem Complete.eatAll (fixed : List Char) :
    Complete (fun _ text marks => text = fixed ∧ marks = []) (Goal.eatAll fixed) := by
  induction fixed with
  | nil =>
      rintro goal ⟨before, position, text⟩ _ rest marks hsplit ⟨rfl, rfl⟩ hgoal trail
      cases hsplit
      exact hgoal before trail
  | cons c fixed ih =>
      rintro goal s _ rest marks hsplit ⟨rfl, rfl⟩ hgoal trail
      have hfirst : ([] : Trail) = [] ∧ ∃ d, (CharSet.single c).mem d = true ∧ [c] = [d] :=
        ⟨rfl, c, mem_single_iff.mpr rfl, rfl⟩
      exact (Complete.eat (.single c)).seq ih hsplit hfirst ⟨rfl, rfl⟩ hgoal trail

/-- Without conditions, what is read is matched if the rest can be done. -/
theorem isSome_attempt_of_reads (r : Regex) (hloops : r.loopsConsume = true)
    (hplain : r.isUnconditional = true) : Complete r.Reads r.attempt := by
  induction r with
  | empty =>
      rintro goal ⟨before, position, text⟩ _ rest marks hsplit ⟨rfl, rfl⟩ hgoal trail
      cases hsplit
      exact hgoal before trail
  | literal text => exact .eatAll text
  | set chars => exact .eat chars
  | anchor condition => cases hplain
  | seq first rest ihFirst ihRest =>
      simp only [loopsConsume, isUnconditional, Bool.and_eq_true] at hloops hplain
      rintro goal s _ behind _ hsplit ⟨u, v, before, later, rfl, rfl, hu, hv⟩ hgoal trail
      exact (ihFirst hloops.1 hplain.1).seq (ihRest hloops.2 hplain.2) hsplit hu hv hgoal trail
  | alt first rest ihFirst ihRest =>
      simp only [loopsConsume, isUnconditional, Bool.and_eq_true] at hloops hplain
      intro goal s text behind marks hsplit hreads hgoal trail
      refine isSome_either (hreads.imp (fun h => ?_) fun h => ?_)
      · exact ihFirst hloops.1 hplain.1 _ _ _ _ _ hsplit h hgoal trail
      · exact ihRest hloops.2 hplain.2 _ _ _ _ _ hsplit h hgoal trail
  | «repeat» count body ih =>
      simp only [loopsConsume, Bool.and_eq_true, Bool.or_eq_true] at hloops
      have hbody := ih hloops.1 hplain
      rintro goal s _ behind _ hsplit ⟨rounds, ⟨hleast, hmost⟩, hreads⟩ hgoal trail
      obtain ⟨n, rfl⟩ := Nat.exists_eq_add_of_le hleast
      obtain ⟨u, v, before, later, rfl, rfl, hu, hv⟩ := Reading.exists_of_times_add hreads
      rw [attempt]
      split
      · next most hbound =>
          have hn : n ≤ most - count.least := by
            have := hmost most hbound
            omega
          exact (hbody.times count.least).seq (hbody.rounds count.greedy hn) hsplit hu hv hgoal trail
      · next hbound =>
          have hconsumes : body.consumes = true := by simpa [hbound] using hloops.2
          -- Each round takes a character, so there are enough rounds.
          have hn : n ≤ v.length := by
            have hlength := Reading.length_times (shortest_le body) hv
            have hpos : 0 < body.shortest?.getD 0 := by
              unfold consumes at hconsumes
              cases hs : body.shortest? <;> simp_all
            exact Nat.le_trans (Nat.le_mul_of_pos_right n hpos) hlength
          refine hbody.times count.least _ s u (v ++ behind) before (by simpa using hsplit) hu ?_ trail
          intro before' trail'
          have hmost : n ≤ (v ++ behind).length :=
            Nat.le_trans hn (by rw [List.length_append]; exact Nat.le_add_right ..)
          refine hbody.rounds count.greedy hmost goal
            ⟨before', s.position + u.length, v ++ behind⟩ v behind later rfl hv ?_ trail'
          rwa [List.length_append, ← Nat.add_assoc] at hgoal
  | group index body ih =>
      rintro goal s text behind _ hsplit ⟨inner, hbody, rfl⟩ hgoal trail
      refine ih hloops hplain _ s text behind inner hsplit hbody (fun before trail' => ?_) _
      exact hgoal before _

/-! ### Occurrences -/

/-- The same text can be read from any position. -/
theorem exists_reads_at {r : Regex} {position : Nat} {text : List Char} {marks : Trail}
    (h : r.Reads position text marks) (position' : Nat) :
    ∃ marks', r.Reads position' text marks' := by
  induction r generalizing position position' text marks with
  | empty | literal _ | set _ | anchor _ => exact ⟨marks, h⟩
  | seq first rest ihFirst ihRest =>
      obtain ⟨u, v, before, behind, rfl, rfl, hu, hv⟩ := h
      obtain ⟨before', hu'⟩ := ihFirst hu position'
      obtain ⟨behind', hv'⟩ := ihRest hv (position' + u.length)
      exact ⟨_, u, v, before', behind', rfl, rfl, hu', hv'⟩
  | alt first rest ihFirst ihRest =>
      rcases h with h | h
      · exact (ihFirst h position').imp fun _ => .inl
      · exact (ihRest h position').imp fun _ => .inr
  | «repeat» count body ih =>
      obtain ⟨rounds, hallows, htimes⟩ := h
      -- How many rounds are allowed does not depend on the position.
      suffices ∃ marks', Reading.times body.Reads rounds position' text marks' from
        this.imp fun _ h => ⟨rounds, hallows, h⟩
      clear hallows
      induction rounds generalizing position position' text marks with
      | zero => exact ⟨marks, htimes⟩
      | succ rounds ihRounds =>
          obtain ⟨u, v, before, behind, rfl, rfl, hu, hv⟩ := htimes
          obtain ⟨before', hu'⟩ := ih hu position'
          obtain ⟨behind', hv'⟩ := ihRounds (position' + u.length) hv
          exact ⟨_, u, v, before', behind', rfl, rfl, hu', hv'⟩
  | group index body ih =>
      obtain ⟨inner, hbody, rfl⟩ := h
      obtain ⟨inner', hbody'⟩ := ih hbody position'
      exact ⟨_, inner', hbody', rfl⟩

/-- The leftmost match starts at some spot of the text. -/
theorem exists_of_leftmostFrom? {r : Regex} {before : Option Char} {position : Nat}
    {text : List Char} {out : Trail} (h : r.leftmostFrom? before position text = some out) :
    ∃ before' skipped rest, text = skipped ++ rest
      ∧ r.attempt .accept ⟨before', position + skipped.length, rest⟩ [] = some out := by
  induction text generalizing before position with
  | nil => exact ⟨before, [], [], rfl, h⟩
  | cons c rest ih =>
      rw [leftmostFrom?, Option.or_eq_some_iff] at h
      rcases h with hhere | ⟨-, hlater⟩
      · exact ⟨before, [], c :: rest, rfl, hhere⟩
      · obtain ⟨before', skipped, rest', rfl, hmatch⟩ := ih hlater
        refine ⟨before', c :: skipped, rest', rfl, ?_⟩
        rwa [List.length_cons, Nat.add_comm skipped.length, ← Nat.add_assoc]

/-- The search succeeds if a match begins behind some of the text. -/
theorem isSome_leftmostFrom? {r : Regex} (before : Option Char) {position : Nat}
    {skipped rest : List Char}
    (h : ∀ before',
      (r.attempt .accept ⟨before', position + skipped.length, rest⟩ []).isSome = true) :
    (r.leftmostFrom? before position (skipped ++ rest)).isSome = true := by
  induction skipped generalizing before position with
  | nil =>
      cases rest with
      | nil => exact h before
      | cons c rest =>
          rw [List.nil_append, leftmostFrom?, Option.isSome_or, Bool.or_eq_true]
          exact .inl (h before)
  | cons c skipped ih =>
      rw [List.cons_append, leftmostFrom?, Option.isSome_or, Bool.or_eq_true]
      refine .inr (ih _ fun before' => ?_)
      rw [Nat.add_assoc, Nat.add_comm 1]
      exact h before'

/-- What a search finds is a part of the text that is read. -/
theorem exists_reads_of_search? {r : Regex} (hloops : r.loopsConsume = true) {text : List Char}
    {out : Trail} (h : r.search? text = some out) :
    ∃ skipped found rest, text = skipped ++ found ++ rest ∧ r.Reads skipped.length found out := by
  rw [search?_eq_leftmost? hloops] at h
  obtain ⟨before, skipped, tail, rfl, hmatch⟩ := exists_of_leftmostFrom? h
  obtain ⟨before', found, rest, marks, rfl, hreads, hout⟩ :=
    reads_of_attempt r _ _ _ _ hmatch
  rw [Goal.accept, List.append_nil, Option.some_inj] at hout
  rw [Nat.zero_add, hout] at hreads
  exact ⟨skipped, found, rest, (List.append_assoc _ _ _).symm, hreads⟩

/-- An expression without conditions occurs in a text if and only if it reads a
part of it. -/
theorem occursIn_iff {r : Regex} (hloops : r.loopsConsume = true)
    (hplain : r.isUnconditional = true) (text : String) :
    r.occursIn text = true
      ↔ ∃ skipped found rest marks, text.toList = skipped ++ found ++ rest
        ∧ r.Reads skipped.length found marks := by
  rw [occursIn]
  constructor
  · intro h
    obtain ⟨out, hout⟩ := Option.isSome_iff_exists.mp h
    obtain ⟨skipped, found, rest, htext, hreads⟩ := exists_reads_of_search? hloops hout
    exact ⟨skipped, found, rest, out, htext, hreads⟩
  · rintro ⟨skipped, found, rest, marks, htext, hreads⟩
    rw [search?_eq_leftmost? hloops, htext, List.append_assoc]
    -- The match need not be the leftmost one, but there is one then.
    refine isSome_leftmostFrom? none fun before' => ?_
    refine isSome_attempt_of_reads r hloops hplain .accept
      ⟨before', 0 + skipped.length, found ++ rest⟩ found rest marks rfl ?_ (fun _ _ => rfl) []
    rwa [Nat.zero_add]

end Regex

end ScenarioSteps
