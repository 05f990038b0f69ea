import ScenarioSteps.Proofs.Regex.Language

/-!
# `ScenarioSteps.Proofs.Regex.Groups`: what a group captures

A group remembers where its text begins and ends. `Encloses` says that what is
remembered is a part of the text that was read, and that this part has some
property. It holds of what an expression reads with the property that the body of
the group reads such a text (`GroupReads`), because a later passage through the
group remembers both places again.

Two theorems go over to the texts that a search captures. What a group captures is
what its body reads (`groupReads_of_captures?`), so if the body cannot read some
characters, none of them is captured (`not_mem_of_captures?`). A group that no
reading leaves out captures a text in every match (`exists_captured`).
-/

set_option autoImplicit false

namespace ScenarioSteps.Regex

/-- Whether an expression reads no character of a list. -/
def avoids (avoided : List Char) : Regex → Bool
  | empty | anchor _ => true
  | literal text => text.all fun c => !avoided.contains c
  | set chars => avoided.all fun c => !chars.mem c
  | seq a b | alt a b => a.avoids avoided && b.avoids avoided
  | .repeat _ body | group _ body => body.avoids avoided

/-- Whether a group reads no character of a list. -/
def groupAvoids (avoided : List Char) (index : Nat) : Regex → Bool
  | empty | literal _ | set _ | anchor _ => true
  | seq a b | alt a b => a.groupAvoids avoided index && b.groupAvoids avoided index
  | .repeat _ body => body.groupAvoids avoided index
  | group i body => (i != index || body.avoids avoided) && body.groupAvoids avoided index

/-- The bodies of the groups with a number. -/
def groupBodies (index : Nat) : Regex → List Regex
  | empty | literal _ | set _ | anchor _ => []
  | seq a b | alt a b => a.groupBodies index ++ b.groupBodies index
  | .repeat _ body => body.groupBodies index
  | group i body => if i = index then body :: body.groupBodies index else body.groupBodies index

/-- Whether every reading passes through a group. -/
def alwaysPasses (index : Nat) : Regex → Bool
  | empty | literal _ | set _ | anchor _ => false
  | seq a b => a.alwaysPasses index || b.alwaysPasses index
  | alt a b => a.alwaysPasses index && b.alwaysPasses index
  | .repeat count body => 0 < count.least && body.alwaysPasses index
  | group i body => i == index || body.alwaysPasses index

/-- What a group with a number can capture: a text that its body reads, or only the end
of one if the body has such a group as well. -/
def GroupReads (r : Regex) (index : Nat) (inside : List Char) : Prop :=
  ∃ body ∈ r.groupBodies index, ∃ position lead marks,
    body.Reads position (lead ++ inside) marks ∧ (body.groupBodies index = [] → lead = [])

/-- What a group reads in an expression, it reads in any other that has all its bodies. -/
theorem GroupReads.mono {r s : Regex} {index : Nat} {inside : List Char}
    (hbodies : ∀ body ∈ r.groupBodies index, body ∈ s.groupBodies index)
    (h : r.GroupReads index inside) : s.GroupReads index inside := by
  obtain ⟨body, hbody, hreads⟩ := h
  exact ⟨body, hbodies body hbody, hreads⟩

/-- What marks remember of a group, if anything: a part of the text from
`position` on that has a property. -/
def Encloses (P : List Char → Prop) (index position : Nat) (text : List Char) (marks : Trail) :
    Prop :=
  (marks.lookup ⟨index, false⟩ = none ∧ marks.lookup ⟨index, true⟩ = none)
    ∨ ∃ before inside behind, text = before ++ inside ++ behind
      ∧ marks.lookup ⟨index, false⟩ = some (position + before.length)
      ∧ marks.lookup ⟨index, true⟩ = some (position + before.length + inside.length)
      ∧ P inside

/-! ### Characters that are not read -/

/-- A group avoids characters exactly if all of its bodies do. -/
theorem groupAvoids_iff {avoided : List Char} {index : Nat} {r : Regex} :
    r.groupAvoids avoided index = true
      ↔ ∀ body ∈ r.groupBodies index, body.avoids avoided = true := by
  induction r with
  | empty | literal _ | set _ | anchor _ => simp [groupAvoids, groupBodies]
  | seq a b iha ihb | alt a b iha ihb =>
      rw [groupAvoids, groupBodies, Bool.and_eq_true, iha, ihb, List.forall_mem_append]
  | «repeat» count body ih => exact ih
  | group i body ih =>
      rw [groupAvoids, groupBodies, Bool.and_eq_true, ih]
      by_cases hi : i = index <;> simp [hi]

/-- Characters that an expression avoids are in no text that it reads. -/
theorem not_mem_of_reads {avoided : List Char} {r : Regex} (h : r.avoids avoided = true)
    {position : Nat} {text : List Char} {marks : Trail} (hreads : r.Reads position text marks) :
    ∀ c ∈ text, c ∉ avoided := by
  induction r generalizing position text marks with
  | empty | anchor _ =>
      rw [hreads.1]
      exact List.forall_mem_nil _
  | literal fixed =>
      obtain ⟨rfl, -⟩ := hreads
      simpa [avoids] using h
  | set chars =>
      obtain ⟨-, c, hc, rfl⟩ := hreads
      rw [List.forall_mem_singleton]
      intro hmem
      have hout := List.all_eq_true.mp h c hmem
      simp [hc] at hout
  | seq a b iha ihb =>
      rw [avoids, Bool.and_eq_true] at h
      obtain ⟨first, rest, before, behind, rfl, -, hfirst, hrest⟩ := hreads
      exact List.forall_mem_append.mpr ⟨iha h.1 hfirst, ihb h.2 hrest⟩
  | alt a b iha ihb =>
      rw [avoids, Bool.and_eq_true] at h
      rcases hreads with hreads | hreads
      · exact iha h.1 hreads
      · exact ihb h.2 hreads
  | «repeat» count body ih =>
      -- The rounds need an induction of their own, with the body's as its step.
      obtain ⟨rounds, -, htimes⟩ := hreads
      induction rounds generalizing position text marks with
      | zero =>
          rw [htimes.1]
          exact List.forall_mem_nil _
      | succ rounds ihRounds =>
          obtain ⟨first, rest, before, behind, rfl, -, hfirst, hrest⟩ := htimes
          exact List.forall_mem_append.mpr ⟨ih h hfirst, ihRounds hrest⟩
  | group i body ih =>
      obtain ⟨inner, hbody, -⟩ := hreads
      exact ih h hbody

/-! ### What is read in a group -/

section

variable {P : List Char → Prop} {index position : Nat} {text : List Char} {marks : Trail}

/-- If nothing is remembered, there is nothing to enclose. -/
theorem encloses_nil (text : List Char) : Encloses P index position text [] :=
  .inl ⟨rfl, rfl⟩

/-- A property of the enclosed part can be weakened. -/
theorem Encloses.mono {Q : List Char → Prop} (h : Encloses P index position text marks)
    (hPQ : ∀ inside, P inside → Q inside) : Encloses Q index position text marks :=
  h.imp_right fun ⟨before, inside, behind, heq, hopen, hclose, hinside⟩ =>
    ⟨before, inside, behind, heq, hopen, hclose, hPQ inside hinside⟩

/-- The later of two parts counts if it passes through the group. -/
theorem Encloses.append {first rest : List Char} {before behind : Trail}
    (hfirst : Encloses P index position first before)
    (hrest : Encloses P index (position + first.length) rest behind) :
    Encloses P index position (first ++ rest) (behind ++ before) := by
  -- Later marks stand in front of earlier ones, so they are found first.
  simp only [Encloses, List.lookup_append]
  rcases hrest with ⟨hopen, hclose⟩ | ⟨u, inside, v, rfl, hopen, hclose, hinside⟩
  · rw [hopen, hclose]
    rcases hfirst with hnone | ⟨u, inside, v, rfl, hopen', hclose', hinside⟩
    · exact .inl hnone
    · exact .inr ⟨u, inside, v ++ rest, by simp, hopen', hclose', hinside⟩
  · refine .inr ⟨first ++ u, inside, v, by simp, ?_, ?_, hinside⟩
    · rw [hopen, List.length_append, ← Nat.add_assoc]
      rfl
    · rw [hclose, List.length_append, ← Nat.add_assoc]
      rfl

/-- The marks of a group around others are those of the group, or the others. -/
theorem lookup_around (i start stop : Nat) (inner : Trail) (closing : Bool) :
    ((⟨i, true⟩, stop) :: inner ++ [(⟨i, false⟩, start)] : Trail).lookup ⟨index, closing⟩
      = if i ≠ index then inner.lookup ⟨index, closing⟩
        else if closing then some stop else (inner.lookup ⟨index, false⟩).or (some start) := by
  by_cases hi : i = index
  · subst hi
    have hne : ((⟨i, false⟩ : Mark) == ⟨i, true⟩) = false := by simp
    cases closing <;> simp [List.lookup_cons, List.lookup_append, hne]
  · have hne (c : Bool) : ((⟨index, closing⟩ : Mark) == ⟨i, c⟩) = false :=
      beq_eq_false_iff_ne.mpr fun h => hi (Mark.mk.inj h).1.symm
    simp [List.lookup_cons, List.lookup_append, hne, hi]

/-- Marks of another group around the text do not matter. -/
theorem Encloses.of_other {i start stop : Nat} (h : Encloses P index position text marks)
    (hi : i ≠ index) :
    Encloses P index position text
      ((⟨i, true⟩, stop) :: marks ++ [(⟨i, false⟩, start)]) := by
  simp only [Encloses, lookup_around, if_pos hi]
  exact h

/-- Marks of the group around the text. If a part of the text passed through a group
with the same number, it is the beginning of that part that counts. -/
theorem Encloses.of_group {body : Regex}
    (h : Encloses (body.GroupReads index) index position text marks)
    (hbody : body.Reads position text marks) :
    Encloses ((group index body).GroupReads index) index position text
      ((⟨index, true⟩, position + text.length) :: marks ++ [(⟨index, false⟩, position)]) := by
  have hmem : body ∈ (group index body).groupBodies index := by
    rw [groupBodies, if_pos rfl]
    exact List.mem_cons_self
  simp only [Encloses, lookup_around, ne_eq, not_true_eq_false, if_false, if_true,
    Bool.false_eq_true]
  refine .inr ?_
  -- The closing mark is the group's own, but an opening mark from inside is found before it.
  rcases h with ⟨hnone, -⟩ | ⟨before, inside, behind, rfl, hstart, -, hinside⟩
  · refine ⟨[], text, [], by simp, by rw [hnone]; rfl, rfl, body, hmem, position, [], marks, ?_⟩
    exact ⟨hbody, fun _ => rfl⟩
  · refine ⟨before, inside ++ behind, [], by simp, by rw [hstart]; rfl, by simp [Nat.add_assoc],
      body, hmem, position, before, marks, by rwa [← List.append_assoc], fun hnil => ?_⟩
    obtain ⟨_, hinner, -⟩ := hinside
    rw [hnil] at hinner
    cases hinner

/-- What is remembered for a group encloses a text that a body of the group reads. -/
theorem encloses_of_reads {r : Regex} (hreads : r.Reads position text marks) :
    Encloses (r.GroupReads index) index position text marks := by
  induction r generalizing position text marks with
  | empty | literal _ | anchor _ =>
      rw [hreads.2]
      exact encloses_nil text
  | set chars =>
      rw [hreads.1]
      exact encloses_nil text
  | seq a b iha ihb =>
      obtain ⟨first, rest, before, behind, rfl, rfl, hfirst, hrest⟩ := hreads
      -- A group of a part is a group of the whole, so both halves may speak of the whole.
      have hleft := (iha hfirst).mono fun _ => GroupReads.mono (s := seq a b) fun _ =>
        List.mem_append_left _
      have hright := (ihb hrest).mono fun _ => GroupReads.mono (s := seq a b) fun _ =>
        List.mem_append_right _
      exact hleft.append hright
  | alt a b iha ihb =>
      rcases hreads with hreads | hreads
      · exact (iha hreads).mono fun _ => GroupReads.mono fun _ => List.mem_append_left _
      · exact (ihb hreads).mono fun _ => GroupReads.mono fun _ => List.mem_append_right _
  | «repeat» count body ih =>
      obtain ⟨rounds, -, htimes⟩ := hreads
      induction rounds generalizing position text marks with
      | zero =>
          rw [htimes.2]
          exact encloses_nil text
      | succ rounds ihRounds =>
          obtain ⟨first, rest, before, behind, rfl, rfl, hfirst, hrest⟩ := htimes
          exact (ih hfirst).append (ihRounds hrest)
  | group i body ih =>
      obtain ⟨inner, hbody, rfl⟩ := hreads
      -- This is the group that is asked for, or a group around it.
      by_cases hi : i = index
      · subst hi
        exact (ih hbody).of_group hbody
      · refine ((ih hbody).mono fun _ => GroupReads.mono fun _ hmem => ?_).of_other hi
        rwa [groupBodies, if_neg hi]

/-- A group that every reading passes through leaves its marks. -/
theorem lookup_ne_none {r : Regex} (h : r.alwaysPasses index = true)
    (hreads : r.Reads position text marks) (closing : Bool) :
    marks.lookup ⟨index, closing⟩ ≠ none := by
  induction r generalizing position text marks with
  | empty | literal _ | set _ | anchor _ => cases h
  | seq a b iha ihb =>
      rw [alwaysPasses, Bool.or_eq_true] at h
      obtain ⟨first, rest, before, behind, rfl, rfl, hfirst, hrest⟩ := hreads
      rw [List.lookup_append, ne_eq, Option.or_eq_none_iff, not_and_or]
      exact h.symm.imp (fun h => ihb h hrest) fun h => iha h hfirst
  | alt a b iha ihb =>
      rw [alwaysPasses, Bool.and_eq_true] at h
      rcases hreads with hreads | hreads
      · exact iha h.1 hreads
      · exact ihb h.2 hreads
  | «repeat» count body ih =>
      rw [alwaysPasses, Bool.and_eq_true, decide_eq_true_iff] at h
      obtain ⟨rounds, ⟨hleast, -⟩, htimes⟩ := hreads
      -- There is a first round, and whatever comes later keeps its marks or replaces them.
      obtain ⟨rounds, rfl⟩ : ∃ n, rounds = n + 1 := ⟨rounds - 1, by omega⟩
      obtain ⟨first, rest, before, behind, rfl, rfl, hfirst, -⟩ := htimes
      rw [List.lookup_append, ne_eq, Option.or_eq_none_iff, not_and_or]
      exact .inr (ih h.2 hfirst)
  | group i body ih =>
      obtain ⟨inner, hbody, rfl⟩ := hreads
      rw [lookup_around]
      by_cases hi : i = index
      · cases closing <;> simp [hi]
      · rw [alwaysPasses, Bool.or_eq_true, beq_iff_eq] at h
        rw [if_pos hi]
        exact ih (h.resolve_left hi) hbody

end

/-! ### What a search captures -/

/-- A match captures one text for each group, or notes that the group took no part. -/
theorem length_of_captures? {r : Regex} {sentence : String} {values : List (Option String)}
    (h : r.captures? sentence = some values) : values.length = r.groupCount := by
  obtain ⟨trail, -, rfl⟩ := Option.map_eq_some_iff.mp h
  rw [List.length_map, List.length_range]

/-- What is captured stands between marks that a reading leaves. -/
theorem exists_trail_of_captures? {r : Regex} (hloops : r.loopsConsume = true) {sentence : String}
    {values : List (Option String)} (h : r.captures? sentence = some values) :
    ∃ skipped found rest trail, sentence.toList = skipped ++ found ++ rest
      ∧ r.Reads skipped.length found trail
      ∧ ∀ index < r.groupCount,
          values[index]? = some (trail.group? sentence.toList (index + 1)) := by
  obtain ⟨trail, hsearch, rfl⟩ := Option.map_eq_some_iff.mp h
  obtain ⟨skipped, found, rest, hsentence, hreads⟩ := exists_reads_of_search? hloops hsearch
  refine ⟨skipped, found, rest, trail, hsentence, hreads, fun index hindex => ?_⟩
  rw [List.getElem?_map, List.getElem?_range hindex]
  rfl

/-- What a group captures in a match is what it can capture. -/
theorem groupReads_of_captures? {r : Regex} (hloops : r.loopsConsume = true) {sentence : String}
    {values : List (Option String)} (h : r.captures? sentence = some values) {index : Nat} :
    ∀ text ∈ values[index]?.join, r.GroupReads (index + 1) text.toList := by
  obtain ⟨skipped, found, rest, trail, hsentence, hreads, hvalues⟩ :=
    exists_trail_of_captures? hloops h
  intro text htext
  -- There are values for the groups of the expression only.
  have hindex : index < r.groupCount := by
    by_contra hge
    rw [List.getElem?_eq_none (by rw [length_of_captures? h]; omega)] at htext
    cases htext
  rw [hvalues index hindex, Option.join_some, Option.mem_def, Trail.group?] at htext
  rcases encloses_of_reads hreads with ⟨hopen, -⟩ | ⟨u, inside, v, rfl, hopen, hclose, hinside⟩
  · rw [hopen] at htext
    cases htext
  · have hpart : ((skipped ++ (u ++ inside ++ v) ++ rest).drop (skipped.length + u.length)).take
        (skipped.length + u.length + inside.length - (skipped.length + u.length)) = inside := by
      simp [List.drop_append, List.take_append]
    rw [hopen, hclose, hsentence] at htext
    obtain rfl := Option.some.inj htext
    rw [String.toList_ofList, hpart]
    exact hinside

/-- A group that every reading passes through captures a text. -/
theorem exists_captured {r : Regex} (hloops : r.loopsConsume = true) {sentence : String}
    {values : List (Option String)} (h : r.captures? sentence = some values) {index : Nat}
    (hindex : index < r.groupCount) (hpasses : r.alwaysPasses (index + 1) = true) :
    ∃ text, values[index]? = some (some text) := by
  obtain ⟨skipped, found, rest, trail, -, hreads, hvalues⟩ := exists_trail_of_captures? hloops h
  obtain ⟨start, hstart⟩ := Option.ne_none_iff_exists'.mp (lookup_ne_none hpasses hreads false)
  obtain ⟨stop, hstop⟩ := Option.ne_none_iff_exists'.mp (lookup_ne_none hpasses hreads true)
  rw [hvalues index hindex, Trail.group?, hstart, hstop]
  exact ⟨_, rfl⟩

/-- The text of a group that a search captures has none of the characters. -/
theorem not_mem_of_captures? {r : Regex} (hloops : r.loopsConsume = true) {avoided : List Char}
    {index : Nat} (h : r.groupAvoids avoided (index + 1) = true) {sentence : String}
    {values : List (Option String)} (hcaptures : r.captures? sentence = some values) :
    ∀ text ∈ values[index]?.join, ∀ c ∈ text.toList, c ∉ avoided := by
  intro text htext c hc
  obtain ⟨body, hbody, position, lead, marks, hreads, -⟩ :=
    groupReads_of_captures? hloops hcaptures text htext
  exact not_mem_of_reads (groupAvoids_iff.mp h body hbody) hreads c (List.mem_append_right _ hc)

end ScenarioSteps.Regex
