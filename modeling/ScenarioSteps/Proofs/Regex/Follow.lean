import ScenarioSteps.Proofs.Regex.Template

/-!
# `ScenarioSteps.Proofs.Regex.Follow`: one match for all texts in the gaps

`Regex.follow` matches an expression at the beginning of a template as
backtracking does, and remembers places by the rests of the template behind
them. Where the answer depends on the texts in the gaps it is `unclear`. A
gap can only be passed as a whole, by a repetition of all characters but the
quotation mark.

If the match is found on the template, the search finds it in every text of
the template (`search?_of_follow`), and a group has the text of the pieces
between its marks (`exists_captures?_of_follow`).
-/

set_option autoImplicit false

namespace ScenarioSteps

/-- All characters but the quotation mark. -/
def CharSet.unquoted : CharSet :=
  (CharSet.single '"').compl

/-- All characters but the quotation mark are in the set of those. -/
theorem CharSet.mem_unquoted_iff {c : Char} : CharSet.unquoted.mem c = true ↔ c ≠ '"' := by
  have hall : CharSet.unquoted.intervals = [(0, 33), (35, 0xd7ff), (0xe000, 0x10ffff)] := by decide
  have hvalid : c.toNat < 0xd800 ∨ (0xdfff < c.toNat ∧ c.toNat < 0x110000) := c.valid
  have hquote : c = '"' ↔ c.toNat = 34 := by rw [← Char.toNat_inj]; rfl
  rw [ne_eq, hquote]
  simp only [mem, hall, Text.within]
  split <;> simp <;> omega

namespace Template

/-- The text of a template with given texts in its gaps. -/
def fill (inside : Nat → List Char) : Template → List Char
  | [] => []
  | .char c :: rest => c :: fill inside rest
  | .gap index _ :: rest => inside index ++ fill inside rest

/-- Without gaps there is nothing to fill. -/
theorem fill_chars (inside : Nat → List Char) (text : List Char) :
    fill inside (text.map .char) = text := by
  induction text with
  | nil => rfl
  | cons c text ih => rw [List.map_cons, fill, ih]

/-- Marks, each with the rest of the template behind it. -/
abbrev Marks :=
  List (Regex.Mark × Template)

/-- How a match on a template ends. -/
inductive Verdict where
  | finds (marks : Marks)
  | fails
  /-- It depends on the texts in the gaps. -/
  | unclear

/-- Whether a match is found. -/
def Verdict.isFound : Verdict → Bool
  | finds _ => true
  | fails | unclear => false

/-- What is left to do on the rest of a template. -/
abbrev Plan :=
  Template → Marks → Verdict

/-- The rest of a template behind as many characters of a set as possible. -/
def passAll? (chars : CharSet) : Template → Option Template
  | [] => some []
  | .char c :: rest => if chars.mem c then passAll? chars rest else some (.char c :: rest)
  | .gap _ _ :: rest => if chars = .unquoted then passAll? chars rest else none

namespace Plan

/-- Nothing is left to do. -/
def accept : Plan := fun _ marks =>
  .finds marks

/-- Moves over a character of a set. -/
def eat (chars : CharSet) (plan : Plan) : Plan := fun τ marks =>
  match τ with
  | [] => .fails
  | .char c :: rest => if chars.mem c then plan rest marks else .fails
  | .gap _ _ :: _ => .unclear

/-- Moves over the characters of a literal. -/
def eatAll : List Char → Plan → Plan
  | [], plan => plan
  | c :: text, plan => eat (.single c) (eatAll text plan)

/-- Moves over as many characters of a set as possible. -/
def pass (chars : CharSet) (plan : Plan) : Plan := fun τ marks =>
  match passAll? chars τ with
  | none => .unclear
  | some rest =>
    match plan rest marks with
    | .finds found => .finds found
    | .fails | .unclear => .unclear

/-- Remembers the place. -/
def save (mark : Regex.Mark) (plan : Plan) : Plan := fun τ marks =>
  plan τ ((mark, τ) :: marks)

/-- The first plan, or else the second. -/
def either (first second : Plan) : Plan := fun τ marks =>
  match first τ marks with
  | .fails => second τ marks
  | verdict => verdict

/-- Another round of a repetition or the way out of it. -/
def roundOrLeave (greedy : Bool) (round leave : Plan) : Plan :=
  if greedy then either round leave else either leave round

/-- At most so many rounds. -/
def rounds (greedy : Bool) (body : Plan → Plan) (leave : Plan) : Nat → Plan
  | 0 => leave
  | n + 1 => roundOrLeave greedy (body (rounds greedy body leave n)) leave

/-- So many times. -/
def times (body : Plan → Plan) : Nat → Plan → Plan
  | 0, plan => plan
  | n + 1, plan => body (times body n plan)

end Plan

end Template

/-- Matches an expression on a template, and then does what is left to do. -/
def Regex.follow : Regex → Template.Plan → Template.Plan
  | empty, plan => plan
  | literal text, plan => .eatAll text plan
  | set chars, plan => .eat chars plan
  | anchor _, _ => fun _ _ => .unclear
  | seq a b, plan => a.follow (b.follow plan)
  | alt a b, plan => .either (a.follow plan) (b.follow plan)
  | .repeat ⟨least, some most, greedy⟩ body, plan =>
    .times body.follow least (.rounds greedy body.follow plan (most - least))
  | .repeat ⟨0, none, true⟩ (set chars), plan => .pass chars plan
  | .repeat _ _, _ => fun _ _ => .unclear
  | group index body, plan => .save ⟨index, false⟩ (body.follow (.save ⟨index, true⟩ plan))

namespace Template

/-- The places of marks in a text of so many characters. -/
def Marks.places (inside : Nat → List Char) (total : Nat) (marks : Marks) : Regex.Trail :=
  marks.map fun m => (m.1, total - (m.2.fill inside).length)

/-- A verdict is right about the answer of a goal. -/
def Verdict.Fits (inside : Nat → List Char) (total : Nat) (answer : Option Regex.Trail) :
    Verdict → Prop
  | .finds found => answer = some (found.places inside total)
  | .fails => answer = none
  | .unclear => True

/-- A plan says what becomes of a goal in the texts of a template. -/
def Plan.Predicts (inside : Nat → List Char) (total : Nat) (plan : Plan) (goal : Regex.Goal) :
    Prop :=
  ∀ (τ : Template) (marks : Marks) (s : Regex.Spot), s.rest = τ.fill inside →
    s.position + s.rest.length = total →
    (plan τ marks).Fits inside total (goal s (marks.places inside total))

namespace Plan.Predicts

variable {inside : Nat → List Char} {total : Nat} {plan plan' : Plan} {goal goal' : Regex.Goal}

/-- To accept is predicted by a plan to accept. -/
theorem accept : Predicts inside total .accept .accept :=
  fun _ _ _ _ _ => rfl

/-- An unclear plan predicts anything. -/
theorem unclear : Predicts inside total (fun _ _ => .unclear) goal :=
  fun _ _ _ _ _ => trivial

/-- A plan that eats a character predicts a goal that does. -/
theorem eat (chars : CharSet) (h : Predicts inside total plan goal) :
    Predicts inside total (.eat chars plan) (.eat chars goal) := by
  rintro τ marks ⟨before, position, text⟩ hrest htotal
  simp only at hrest htotal
  subst hrest
  cases τ with
  | nil => rfl
  | cons piece rest =>
      cases piece with
      | gap index avoid => trivial
      | char c =>
          rw [fill, List.length_cons] at htotal
          simp only [Plan.eat, fill, Regex.Goal.eat]
          split
          · refine h rest marks ⟨some c, position + 1, fill inside rest⟩ rfl ?_
            rw [← htotal, Nat.add_assoc, Nat.add_comm 1]
          · rfl

/-- So does a plan that eats a fixed text. -/
theorem eatAll (text : List Char) (h : Predicts inside total plan goal) :
    Predicts inside total (.eatAll text plan) (.eatAll text goal) := by
  induction text with
  | nil => exact h
  | cons c text ih => exact ih.eat (.single c)

/-- A place is predicted by the rest of the template behind it. -/
theorem save (mark : Regex.Mark) (h : Predicts inside total plan goal) :
    Predicts inside total (.save mark plan) (.save mark goal) := by
  intro τ marks s hrest htotal
  have hplace : s.position = total - (τ.fill inside).length := by
    rw [← hrest]
    omega
  have hmarks := h τ ((mark, τ) :: marks) s hrest htotal
  simp only [Marks.places, List.map_cons, ← hplace] at hmarks
  exact hmarks

/-- A choice is predicted by a choice of plans. -/
theorem either (h : Predicts inside total plan goal) (h' : Predicts inside total plan' goal') :
    Predicts inside total (.either plan plan') (.either goal goal') := by
  intro τ marks s hrest htotal
  have hfirst := h τ marks s hrest htotal
  have hsecond := h' τ marks s hrest htotal
  simp only [Plan.either, Regex.Goal.either]
  cases hverdict : plan τ marks with
  | finds found =>
      rw [hverdict] at hfirst
      rw [show goal s _ = _ from hfirst]
      rfl
  | fails =>
      rw [hverdict] at hfirst
      rw [show goal s _ = _ from hfirst]
      exact hsecond
  | unclear => trivial

/-- So is the fork of a loop. -/
theorem roundOrLeave (greedy : Bool) (h : Predicts inside total plan goal)
    (h' : Predicts inside total plan' goal') :
    Predicts inside total (.roundOrLeave greedy plan plan') (.roundOrLeave greedy goal goal') := by
  cases greedy with
  | true => exact h.either h'
  | false => exact h'.either h

/-- A loop with a bound is predicted if its body is. -/
theorem rounds {body : Plan → Plan} {step : Regex.Goal → Regex.Goal} (greedy : Bool)
    (hbody : ∀ {plan : Plan} {goal : Regex.Goal}, Predicts inside total plan goal →
      Predicts inside total (body plan) (step goal))
    (h : Predicts inside total plan goal) (n : Nat) :
    Predicts inside total (.rounds greedy body plan n) (.rounds greedy step goal n) := by
  induction n with
  | zero => exact h
  | succ n ih => exact (hbody ih).roundOrLeave greedy h

/-- So is a body that is done a fixed number of times. -/
theorem times {body : Plan → Plan} {step : Regex.Goal → Regex.Goal}
    (hbody : ∀ {plan : Plan} {goal : Regex.Goal}, Predicts inside total plan goal →
      Predicts inside total (body plan) (step goal))
    (h : Predicts inside total plan goal) (n : Nat) :
    Predicts inside total (.times body n plan) (.times step n goal) := by
  induction n with
  | zero => exact h
  | succ n ih => exact hbody ih

/-- Passing all characters of a set takes a text of the set, behind which
there is no further one. -/
theorem exists_of_passAll? {chars : CharSet} (hinside : ∀ index, '"' ∉ inside index)
    {τ rest : Template} (h : passAll? chars τ = some rest) :
    ∃ taken, τ.fill inside = taken ++ rest.fill inside ∧ (∀ c ∈ taken, chars.mem c = true)
      ∧ ∀ c ∈ (rest.fill inside).head?, chars.mem c = false := by
  induction τ with
  | nil =>
      cases h
      exact ⟨[], rfl, by simp, by simp [fill]⟩
  | cons piece τ ih =>
      cases piece with
      | char c =>
          simp only [passAll?] at h
          split at h
          · next hc =>
              obtain ⟨taken, htaken, hmem, hnext⟩ := ih h
              exact ⟨c :: taken, by simp [fill, htaken], by simpa [hc] using hmem, hnext⟩
          · next hc =>
              cases h
              exact ⟨[], rfl, by simp, by simpa [fill] using hc⟩
      | gap index avoid =>
          simp only [passAll?] at h
          split at h
          · next hchars =>
              obtain ⟨taken, htaken, hmem, hnext⟩ := ih h
              refine ⟨inside index ++ taken, by simp [fill, htaken], ?_, hnext⟩
              rw [List.forall_mem_append]
              refine ⟨fun c hc => ?_, hmem⟩
              -- Only the set of all characters but quotation marks passes a gap.
              rw [hchars]
              exact CharSet.mem_unquoted_iff.mpr fun heq => hinside index (heq ▸ hc)
          · cases h

/-- A greedy loop over a set takes all that it can if the rest can be done then. -/
theorem rounds_eq_some {chars : CharSet} {rest taken : List Char} {s : Regex.Spot}
    {trail out : Regex.Trail} {n : Nat} (hrest : s.rest = taken ++ rest)
    (htaken : ∀ c ∈ taken, chars.mem c = true) (hnext : ∀ c ∈ rest.head?, chars.mem c = false)
    (hn : taken.length ≤ n)
    (hgoal : ∀ before, goal ⟨before, s.position + taken.length, rest⟩ trail = some out) :
    Regex.Goal.rounds true (.eat chars) goal n s trail = some out := by
  induction taken generalizing s n with
  | nil =>
      obtain ⟨before, position, text⟩ := s
      cases hrest
      have hhere : goal ⟨before, position, rest⟩ trail = some out := hgoal before
      cases n with
      | zero => exact hhere
      | succ n =>
          -- A further round fails on the next character, so the loop is left here.
          have hstop : Regex.Goal.eat chars (.rounds true (.eat chars) goal n)
              ⟨before, position, rest⟩ trail = none := by
            cases rest with
            | nil => rfl
            | cons c rest => simp [Regex.Goal.eat, hnext c rfl]
          rw [Regex.Goal.rounds, Regex.Goal.roundOrLeave, if_pos rfl, Regex.Goal.either, hstop,
            Option.none_or, hhere]
  | cons c taken ih =>
      obtain ⟨n, rfl⟩ : ∃ m, n = m + 1 := ⟨n - 1, by rw [List.length_cons] at hn; omega⟩
      rw [List.forall_mem_cons] at htaken
      -- A round is preferred to leaving, and it leads to the answer.
      have hround : Regex.Goal.eat chars (.rounds true (.eat chars) goal n) s trail = some out := by
        rw [Regex.Goal.eat, hrest]
        simp only [List.cons_append, htaken.1, if_true]
        refine ih rfl htaken.2 (Nat.le_of_succ_le_succ hn) fun before => ?_
        rw [Regex.Spot.next, Nat.add_assoc, Nat.add_comm 1]
        exact hgoal before
      rw [Regex.Goal.rounds, Regex.Goal.roundOrLeave, if_pos rfl, Regex.Goal.either, hround,
        Option.some_or]

/-- A loop over all characters of a set can pass a gap as a whole. -/
theorem pass (chars : CharSet) (hinside : ∀ index, '"' ∉ inside index)
    (h : Predicts inside total plan goal) :
    Predicts inside total (.pass chars plan) (.allRounds true (.eat chars) goal) := by
  intro τ marks s hrest htotal
  simp only [Plan.pass]
  split
  · trivial
  · next rest hpass =>
      obtain ⟨taken, htaken, hmem, hnext⟩ := exists_of_passAll? hinside hpass
      split
      · next found hfound =>
          rw [htaken] at hrest
          -- The loop takes all characters of the set first. If the plan fails behind them, fewer
          -- might do, and nothing is predicted.
          refine rounds_eq_some hrest hmem hnext (by rw [hrest]; simp) fun before => ?_
          have hfits := h rest marks ⟨before, s.position + taken.length, rest.fill inside⟩ rfl
            (by rw [← htotal, hrest, List.length_append, Nat.add_assoc])
          rw [hfound] at hfits
          exact hfits
      · trivial
      · trivial

end Plan.Predicts

end Template

namespace Regex

variable {inside : Nat → List Char} {total : Nat}

/-- Following an expression on a template predicts backtracking. -/
theorem follow_predicts (hinside : ∀ index, '"' ∉ inside index) (r : Regex)
    {plan : Template.Plan} {goal : Goal} (h : plan.Predicts inside total goal) :
    (r.follow plan).Predicts inside total (r.attempt goal) := by
  induction r generalizing plan goal with
  | empty => exact h
  | literal text => exact h.eatAll text
  | set chars => exact h.eat chars
  | anchor condition => exact .unclear
  | seq first rest ihFirst ihRest => exact ihFirst (ihRest h)
  | alt first rest ihFirst ihRest => exact (ihFirst h).either (ihRest h)
  | «repeat» count body ih =>
      obtain ⟨least, most?, greedy⟩ := count
      cases most? with
      | some most => exact .times ih (.rounds greedy ih h (most - least)) least
      | none =>
          -- Only a greedy loop over a set is followed.
          cases least with
          | succ least => exact .unclear
          | zero =>
              cases greedy with
              | false => exact .unclear
              | true =>
                  cases body with
                  | set chars => exact h.pass chars hinside
                  | _ => exact .unclear
  | group index body ih => exact (ih (h.save ⟨index, true⟩)).save ⟨index, false⟩

/-- A match that is found on a template is found in all its texts. -/
theorem search?_of_follow (hinside : ∀ index, '"' ∉ inside index) {r : Regex}
    (hloops : r.loopsConsume = true) {τ : Template} {found : Template.Marks}
    (h : r.follow .accept τ [] = .finds found) :
    r.search? (τ.fill inside) = some (found.places inside (τ.fill inside).length) := by
  have hpredicts : (r.follow .accept).Predicts inside (τ.fill inside).length (r.attempt .accept) :=
    follow_predicts hinside r .accept
  have hfits := hpredicts τ [] ⟨none, 0, τ.fill inside⟩ rfl (Nat.zero_add _)
  rw [h] at hfits
  have hmatch : r.attempt .accept ⟨none, 0, τ.fill inside⟩ []
      = some (found.places inside (τ.fill inside).length) := hfits
  -- A match at the first place is the leftmost one.
  rw [search?_eq_leftmost? hloops, leftmost?]
  cases htext : τ.fill inside with
  | nil =>
      rw [htext] at hmatch
      exact hmatch
  | cons c rest =>
      rw [htext] at hmatch
      rw [leftmostFrom?, hmatch, Option.some_or]

/-- What is found at the beginning of a text occurs in it. -/
theorem occursIn_of_follow {r : Regex} (hloops : r.loopsConsume = true) {text : List Char}
    (h : (r.follow .accept (text.map .char) []).isFound = true) :
    r.occursIn (String.ofList text) = true := by
  have hfill : Template.fill (fun _ => []) (text.map .char) = text := Template.fill_chars _ text
  unfold Template.Verdict.isFound at h
  split at h
  · next found hfound =>
      rw [occursIn, String.toList_ofList, ← hfill,
        search?_of_follow (fun _ => List.not_mem_nil) hloops hfound]
      rfl
  · cases h
  · cases h

end Regex

namespace Template

/-- The pieces between the marks of a group. -/
def Marks.segment? (marks : Marks) (τ : Template) (index : Nat) : Option Template :=
  match marks.lookup ⟨index, false⟩, marks.lookup ⟨index, true⟩ with
  | some start, some stop =>
    if start <:+ τ ∧ stop <:+ start then some (start.take (start.length - stop.length)) else none
  | _, _ => none

/-- The place of a mark is known from its rest of the template: it is the whole length less
that of the rest, filled. -/
theorem lookup_places (inside : Nat → List Char) (total : Nat) (marks : Marks)
    (mark : Regex.Mark) :
    (marks.places inside total).lookup mark
      = (marks.lookup mark).map fun τ => total - (τ.fill inside).length := by
  induction marks with
  | nil => rfl
  | cons m marks ih =>
      obtain ⟨first, rest⟩ := m
      simp only [Marks.places, List.map_cons, List.lookup_cons] at ih ⊢
      cases mark == first with
      | true => rfl
      | false => exact ih

/-- Templates one behind the other are filled one behind the other. -/
theorem fill_append (inside : Nat → List Char) (σ τ : Template) :
    fill inside (σ ++ τ) = σ.fill inside ++ τ.fill inside := by
  induction σ with
  | nil => rfl
  | cons piece σ ih => cases piece <;> simp [fill, ih]

/-- The text of a group is that of the pieces between its marks. -/
theorem group?_places (inside : Nat → List Char) {marks : Marks} {τ segment : Template}
    {index : Nat} (h : marks.segment? τ index = some segment) :
    (marks.places inside (τ.fill inside).length).group? (τ.fill inside) index
      = some (String.ofList (segment.fill inside)) := by
  simp only [Marks.segment?] at h
  split at h
  · next start stop hstart hstop =>
      split at h
      · next hsuffix =>
          obtain ⟨⟨front, rfl⟩, ⟨between, rfl⟩⟩ := hsuffix
          have hsegment : (between ++ stop).take ((between ++ stop).length - stop.length)
              = between := by simp
          rw [hsegment] at h
          cases h
          -- Marks are placed by what is left behind them, so a group's length is a difference.
          have hlength (a b c : Nat) : a + (b + c) - c - a = b := by omega
          simp [Regex.Trail.group?, lookup_places, hstart, hstop, fill_append, hlength]
      · cases h
  · cases h

end Template

/-- The groups of a match that is found on a template have the texts of their
pieces. -/
theorem Regex.exists_captures?_of_follow {inside : Nat → List Char}
    (hinside : ∀ index, '"' ∉ inside index) {r : Regex} (hloops : r.loopsConsume = true)
    {τ : Template} {found : Template.Marks} (h : r.follow .accept τ [] = .finds found) :
    ∃ captures, r.captures? (String.ofList (τ.fill inside)) = some captures
      ∧ ∀ group segment, group < r.groupCount → found.segment? τ (group + 1) = some segment →
          captures[group]? = some (some (String.ofList (segment.fill inside))) := by
  refine ⟨_, by
    rw [captures?, String.toList_ofList, search?_of_follow hinside hloops h, Option.map_some],
    fun group segment hgroup hsegment => ?_⟩
  rw [List.getElem?_map, List.getElem?_range hgroup, Option.map_some,
    Template.group?_places inside hsegment]

/-- If each gap gets a text that can stand in it, then the template stands for the
whole text. -/
theorem Template.shows_fill {inside : Nat → List Char} {τ : Template}
    (h : ∀ index avoid, Piece.gap index avoid ∈ τ → Text.FillsGap avoid (inside index)) :
    τ.Shows (τ.fill inside) := by
  induction τ with
  | nil => rfl
  | cons piece rest ih =>
      have hrest := ih fun index avoid hmem => h index avoid (List.mem_cons_of_mem _ hmem)
      cases piece with
      | char c => exact ⟨_, rfl, hrest⟩
      | gap index avoid =>
          exact ⟨inside index, _, rfl, h index avoid List.mem_cons_self, hrest⟩

end ScenarioSteps
