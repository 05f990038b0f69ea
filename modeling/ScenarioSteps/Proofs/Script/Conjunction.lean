import ScenarioSteps.Proofs.Script.Heading

/-!
# `ScenarioSteps.Proofs.Script.Conjunction`: the kinds of steps

A keyword that names a kind gives it to its step. A conjunction names none, and its
kind is up to the policy: it is a `When`, or it has the kind of the step before it
unless a header that resets kinds stands between the two.

A scan holds the kind for the next conjunction in a field that headers clear and
steps set. `Scan.Inherits` says what this field has to do with the latest step and
the headers behind it. Passing a line keeps that up, and a conjunction takes over
what the scan holds.

* `conjunction_kinds`: the kind of each step of a script, under both policies.
* `Script.withoutConjunctionKinds_extract`: the policies agree on all else, doc
  strings included. Their scans stay alike up to the kinds of conjunctions.
-/

set_option autoImplicit false

namespace ScenarioSteps

/-- Whether a conjunction behind a header inherits nothing from before it. -/
def Header.resetsKind : Header → Bool
  | .feature | .rule | .background | .scenarioOutline | .scenarioTemplate | .scenario
  | .single => true
  | .examples | .scenarios => false

/-- A step as far as kinds are concerned. -/
structure KindedLine where
  number : Nat
  keyword : Keyword
  kind : StepKind
deriving Repr, DecidableEq

/-- The line, the keyword and the kind of a step. -/
def ScriptStep.kinded (step : ScriptStep) : KindedLine :=
  ⟨step.line, step.keyword, step.kind⟩

namespace Script

/-- Whether one of the headers resets kinds and stands between two lines. -/
def resetsBetween (headers : List HeaderLine) (first last : Nat) : Bool :=
  headers.any fun header =>
    header.word.resetsKind && decide (first < header.number) && decide (header.number < last)

/-- The kind of a conjunction on a line, below headers and behind another step. -/
def inheritedKind (headers : List HeaderLine) (previous? : Option KindedLine) (number : Nat) :
    StepKind :=
  match previous? with
  | none => .given
  | some previous =>
    if resetsBetween headers previous.number number then .given else previous.kind

/-- One header more resets between two lines if it stands there and is one of those that do.
-/
theorem resetsBetween_concat (headers : List HeaderLine) (header : HeaderLine)
    (first last : Nat) :
    resetsBetween (headers ++ [header]) first last
      = (resetsBetween headers first last
        || header.word.resetsKind && decide (first < header.number)
          && decide (header.number < last)) := by
  simp [resetsBetween, List.any_append]

end Script

namespace Scan

variable {policy : ConjunctionPolicy}

/-! ### What passing a line does to kinds -/

/-- The steps so far as far as kinds are concerned, the latest first. -/
def kinds (s : Scan) : List KindedLine :=
  s.steps.map ScriptStep.kinded

/-- A row changes no kind. -/
theorem kinds_row (s : Scan) (cells : List (List Char)) : (s.row cells).kinds = s.kinds :=
  map_steps_row ScriptStep.kinded (fun _ _ => rfl) s cells

/-- Nor does it change the kind for the next conjunction. -/
theorem namedKind?_row (s : Scan) (cells : List (List Char)) :
    (s.row cells).namedKind? = s.namedKind? := by
  unfold row
  split
  · rfl
  · split
    · unfold editLatest
      split <;> rfl
    · rfl

/-- A header clears the kind or leaves it, and adds no step. -/
theorem kinds_header (s : Scan) (word : Header) (title : List Char) :
    (s.header word title).kinds = s.kinds
      ∧ (s.header word title).namedKind? = if word.resetsKind then none else s.namedKind? := by
  cases word <;> exact ⟨rfl, rfl⟩

/-- A line that is neither a step nor a header says nothing about kinds. -/
theorem kinds_pass_of_other (policy : ConjunctionPolicy) (s : Scan) (line : NumberedLine)
    (hstep : ∀ keyword sentence, ScriptLine.of line.1 ≠ .step keyword sentence)
    (hheader : ∀ word title, ScriptLine.of line.1 ≠ .header word title) :
    (s.pass policy line).kinds = s.kinds ∧ (s.pass policy line).namedKind? = s.namedKind? := by
  unfold pass Scan.line
  cases hline : ScriptLine.of line.1 with
  | silent => exact ⟨rfl, rfl⟩
  | fence f mediaType => exact ⟨rfl, rfl⟩
  | row cells => exact ⟨kinds_row s cells, namedKind?_row s cells⟩
  | header word title => exact absurd hline (hheader word title)
  | step keyword sentence => exact absurd hline (hstep keyword sentence)
  | prose => exact ⟨rfl, rfl⟩

/-- A step gets its kind, and hands on the kind that its keyword names. -/
theorem kinds_pass_of_step (policy : ConjunctionPolicy) (s : Scan) {line : NumberedLine}
    {keyword : Keyword} {sentence : List Char}
    (hline : ScriptLine.of line.1 = .step keyword sentence) :
    (s.pass policy line).kinds = ⟨line.2, keyword, s.kindOf policy keyword⟩ :: s.kinds
      ∧ (s.pass policy line).namedKind? = (keyword.kind? <|> s.namedKind?) := by
  unfold pass Scan.line
  rw [hline]
  exact ⟨rfl, rfl⟩

/-- A header adds no step, and clears the kind for the next conjunction if it resets kinds. -/
theorem kinds_pass_of_header (policy : ConjunctionPolicy) (s : Scan) {line : NumberedLine}
    {word : Header} {title : List Char} (hline : ScriptLine.of line.1 = .header word title) :
    (s.pass policy line).kinds = s.kinds
      ∧ (s.pass policy line).namedKind? = if word.resetsKind then none else s.namedKind? := by
  unfold pass Scan.line
  rw [hline]
  exact kinds_header s word title

/-! ### Kinds that are named, and conjunctions that are a `When` -/

/-- A step has the kind that its keyword names, and the policy may say what it is
if the keyword names none. -/
def Follows (policy : ConjunctionPolicy) (kinded : KindedLine) : Prop :=
  (∀ kind, kinded.keyword.kind? = some kind → kinded.kind = kind)
    ∧ (policy = .alwaysWhen → kinded.keyword.kind? = none → kinded.kind = .when)

/-- The kind that a scan gives follows the policy. -/
theorem follows_kindOf (s : Scan) (policy : ConjunctionPolicy) (keyword : Keyword)
    (number : Nat) : Follows policy ⟨number, keyword, s.kindOf policy keyword⟩ := by
  constructor
  · intro kind hkind
    have hnamed : keyword.kind? = some kind := hkind
    show s.kindOf policy keyword = kind
    simp only [kindOf, hnamed]
  · rintro rfl hnone
    have hconjunction : keyword.kind? = none := hnone
    show s.kindOf .alwaysWhen keyword = .when
    simp only [kindOf, hconjunction]

/-- A line that is passed leaves all kinds to follow the policy. -/
theorem follows_pass {s : Scan} (h : ∀ kinded ∈ s.kinds, Follows policy kinded)
    (line : NumberedLine) : ∀ kinded ∈ (s.pass policy line).kinds, Follows policy kinded := by
  cases hline : ScriptLine.of line.1 with
  | step keyword sentence =>
      rw [(kinds_pass_of_step policy s hline).1, List.forall_mem_cons]
      exact ⟨s.follows_kindOf policy keyword line.2, h⟩
  | header word title =>
      rw [(kinds_pass_of_header policy s hline).1]
      exact h
  | silent | fence _ _ | row _ | prose =>
      rw [(kinds_pass_of_other policy s line (by simp [hline]) (by simp [hline])).1]
      exact h

/-- So do any number of lines, from the start of a scan on. -/
theorem follows_foldl_pass (policy : ConjunctionPolicy) (lines : List NumberedLine) :
    ∀ kinded ∈ (lines.foldl (pass policy) {}).kinds, Follows policy kinded := by
  induction lines using List.reverseRecOn with
  | nil => exact List.forall_mem_nil _
  | append_singleton lines line ih =>
      rw [List.foldl_concat]
      exact follows_pass ih line

/-! ### Kinds that are inherited -/

/-- What holds after a scan of lines that lets conjunctions inherit. The kind for
the next conjunction is that of the latest step, unless a header behind it resets
it, and every conjunction so far has inherited in this way. `below` stands for the
number of the next line. -/
structure Inherits (s : Scan) (lines : List NumberedLine) : Prop where
  stands : ∀ kinded ∈ s.kinds, ∃ line ∈ lines, kinded.number = line.2
  next : ∀ below, (∀ line ∈ lines, line.2 < below) →
    s.namedKind?.getD .given = Script.inheritedKind (Script.headers lines) s.kinds.head? below
  inherited : ∀ later kinded earlier, s.kinds = later ++ kinded :: earlier →
    kinded.keyword.kind? = none →
      kinded.kind = Script.inheritedKind (Script.headers lines) earlier.head? kinded.number

/-- At its start a scan has nothing to hand on. -/
theorem inherits_empty : ({} : Scan).Inherits [] where
  stands := List.forall_mem_nil _
  next _ _ := rfl
  inherited later kinded earlier h := by simp [kinds] at h

section

variable {s : Scan} {lines : List NumberedLine}

/-- A line without a say in kinds. -/
theorem Inherits.pass_other (h : s.Inherits lines) (line : NumberedLine)
    (hstep : ∀ keyword sentence, ScriptLine.of line.1 ≠ .step keyword sentence)
    (hheader : ∀ word title, ScriptLine.of line.1 ≠ .header word title) :
    (s.pass .inherit line).Inherits (lines ++ [line]) := by
  obtain ⟨hkinds, hnamed⟩ := kinds_pass_of_other .inherit s line hstep hheader
  have hheaders : Script.headers (lines ++ [line]) = Script.headers lines :=
    Script.headers_concat_of_none (ScriptLine.headerLine?_eq_none hheader)
  -- Neither the kinds nor the headers change.
  constructor
  · intro kinded hkinded
    rw [hkinds] at hkinded
    obtain ⟨own, hown, hnumber⟩ := h.stands kinded hkinded
    exact ⟨own, List.mem_append_left _ hown, hnumber⟩
  · intro below hbelow
    rw [hkinds, hnamed, hheaders]
    exact h.next below fun own hown => hbelow own (List.mem_append_left _ hown)
  · intro later kinded earlier hsplit
    rw [hheaders]
    exact h.inherited later kinded earlier (hkinds ▸ hsplit)

/-- A step, which is the latest one from then on. -/
theorem Inherits.pass_step (h : s.Inherits lines) {line : NumberedLine}
    (hlater : ∀ own ∈ lines, own.2 < line.2) {keyword : Keyword} {sentence : List Char}
    (hline : ScriptLine.of line.1 = .step keyword sentence) :
    (s.pass .inherit line).Inherits (lines ++ [line]) := by
  obtain ⟨hkinds, hnamed⟩ := kinds_pass_of_step .inherit s hline
  have hheaders : Script.headers (lines ++ [line]) = Script.headers lines :=
    Script.headers_concat_of_none (ScriptLine.headerLine?_eq_none (by simp [hline]))
  have hfirst := h.next line.2 hlater
  -- No header stands behind this step.
  have hclear (below : Nat) :
      Script.resetsBetween (Script.headers lines) line.2 below = false := by
    rw [Script.resetsBetween, List.any_eq_false]
    intro header hmem
    obtain ⟨own, hown, hnumber⟩ := Script.exists_of_mem_headers hmem
    have hlt : header.number < line.2 := hnumber ▸ hlater own hown
    have hnot : ¬ line.2 < header.number := Nat.lt_asymm hlt
    simp [hnot]
  constructor
  · rw [hkinds, List.forall_mem_cons]
    refine ⟨⟨line, by simp, rfl⟩, fun kinded hkinded => ?_⟩
    obtain ⟨own, hown, hnumber⟩ := h.stands kinded hkinded
    exact ⟨own, List.mem_append_left _ hown, hnumber⟩
  · intro below _
    rw [hkinds, hnamed, hheaders, List.head?_cons, Script.inheritedKind]
    show (keyword.kind? <|> s.namedKind?).getD .given
      = if Script.resetsBetween (Script.headers lines) line.2 below then _
        else s.kindOf .inherit keyword
    rw [hclear below, if_neg Bool.false_ne_true, kindOf]
    cases keyword.kind? <;> rfl
  · rw [hkinds, hheaders]
    intro later kinded earlier hsplit hnone
    rcases List.cons_eq_append_iff.mp hsplit with ⟨rfl, hown⟩ | ⟨later', rfl, hold⟩
    · -- The new step takes what the scan holds.
      obtain ⟨rfl, rfl⟩ := List.cons_eq_cons.mp hown
      have hconjunction : keyword.kind? = none := hnone
      show s.kindOf .inherit keyword = _
      rw [kindOf, hconjunction]
      exact hfirst
    · exact h.inherited later' kinded earlier hold hnone

/-- A header. It stands behind all steps, so only the kind for the next conjunction
can change. -/
theorem Inherits.pass_header (h : s.Inherits lines) {line : NumberedLine}
    (hlater : ∀ own ∈ lines, own.2 < line.2) {word : Header} {title : List Char}
    (hline : ScriptLine.of line.1 = .header word title) :
    (s.pass .inherit line).Inherits (lines ++ [line]) := by
  obtain ⟨hkinds, hnamed⟩ := kinds_pass_of_header .inherit s hline
  have hheaders : Script.headers (lines ++ [line])
      = Script.headers lines ++ [⟨line.2, word, title⟩] :=
    Script.headers_concat_of_header (ScriptLine.of_eq_header_iff.mp hline)
  have habove : ∀ kinded ∈ s.kinds, kinded.number < line.2 := by
    intro kinded hkinded
    obtain ⟨own, hown, hnumber⟩ := h.stands kinded hkinded
    exact hnumber ▸ hlater own hown
  constructor
  · rw [hkinds]
    intro kinded hkinded
    obtain ⟨own, hown, hnumber⟩ := h.stands kinded hkinded
    exact ⟨own, List.mem_append_left _ hown, hnumber⟩
  · intro below hbelow
    have hnext := h.next below fun own hown => hbelow own (List.mem_append_left _ hown)
    have hhere : line.2 < below := hbelow line (by simp)
    rw [hkinds, hnamed, hheaders]
    cases hlatest : s.kinds.head? with
    | none =>
        rw [hlatest] at hnext
        cases word.resetsKind with
        | true => rfl
        | false => exact hnext
    | some latest =>
        have hbehind : latest.number < line.2 := habove latest (List.mem_of_head? hlatest)
        rw [hlatest] at hnext
        simp only [Script.inheritedKind, Script.resetsBetween_concat] at hnext ⊢
        cases word.resetsKind with
        -- The header stands between the latest step and the next one.
        | true => simp [hbehind, hhere]
        | false => simpa using hnext
  · rw [hkinds, hheaders]
    intro later kinded earlier hsplit hnone
    -- For steps above the header, it is between no two of them.
    have hkinded : kinded.number < line.2 := habove kinded (by simp [hsplit])
    have hnot : ¬ line.2 < kinded.number := Nat.lt_asymm hkinded
    rw [h.inherited later kinded earlier hsplit hnone]
    cases earlier.head? with
    | none => rfl
    | some previous => simp [Script.inheritedKind, Script.resetsBetween_concat, hnot]

/-- Passing a further line keeps what holds. -/
theorem Inherits.pass (h : s.Inherits lines) {line : NumberedLine}
    (hlater : ∀ own ∈ lines, own.2 < line.2) :
    (s.pass .inherit line).Inherits (lines ++ [line]) := by
  cases hline : ScriptLine.of line.1 with
  | step keyword sentence => exact h.pass_step hlater hline
  | header word title => exact h.pass_header hlater hline
  | silent | fence _ _ | row _ | prose =>
      exact h.pass_other line (by simp [hline]) (by simp [hline])

end

/-- What holds after a scan of lines from the start, if they come in their order. -/
theorem inherits_foldl_pass {lines : List NumberedLine} (h : lines.Pairwise (·.2 < ·.2)) :
    (lines.foldl (Scan.pass .inherit) {}).Inherits lines := by
  induction lines using List.reverseRecOn with
  | nil => exact inherits_empty
  | append_singleton lines line ih =>
      rw [List.pairwise_append] at h
      obtain ⟨hlines, -, hlater⟩ := h
      rw [List.foldl_concat]
      exact (ih hlines).pass fun own hown => hlater own hown line (by simp)

end Scan

/-! ### What the policies agree on -/

/-- A step without the kind that a policy gave it. -/
def ScriptStep.withoutConjunctionKind (step : ScriptStep) : ScriptStep :=
  { step with kind := if step.keyword.isConjunction then .given else step.kind }

/-- A script without the kinds that a policy gave. -/
def Script.withoutConjunctionKinds (script : Script) : Script :=
  { script with steps := script.steps.map ScriptStep.withoutConjunctionKind }

namespace Scan

/-- A scan without the kinds that a policy gave. -/
def withoutConjunctionKinds (s : Scan) : Scan :=
  { s with steps := s.steps.map ScriptStep.withoutConjunctionKind }

/-- The kinds of conjunctions are left out once. -/
@[simp]
theorem withoutConjunctionKinds_idem (s : Scan) :
    s.withoutConjunctionKinds.withoutConjunctionKinds = s.withoutConjunctionKinds := by
  have hstep (step : ScriptStep) :
      step.withoutConjunctionKind.withoutConjunctionKind = step.withoutConjunctionKind := by
    simp only [ScriptStep.withoutConjunctionKind]
    split <;> rfl
  simp [withoutConjunctionKinds, hstep]

/-- They do not matter to a doc string. -/
theorem withoutConjunctionKinds_docString (s : Scan) (doc : DocString) :
    (s.docString doc).withoutConjunctionKinds = s.withoutConjunctionKinds.docString doc := by
  unfold docString
  show _ = if s.attaching && !s.inExamples then _ else _
  split
  · cases hsteps : s.steps <;>
      simp [editLatest, withoutConjunctionKinds, hsteps, ScriptStep.withoutConjunctionKind]
  · rfl

/-- Nor do they matter to a row. -/
theorem withoutConjunctionKinds_row (s : Scan) (cells : List (List Char)) :
    (s.row cells).withoutConjunctionKinds = s.withoutConjunctionKinds.row cells := by
  unfold row
  show _ = if s.inExamples then _ else if s.attaching then _ else _
  split
  · rfl
  · split
    · cases hsteps : s.steps <;>
        simp [editLatest, withoutConjunctionKinds, hsteps, ScriptStep.withoutConjunctionKind]
    · rfl

/-- The kind of a step with a keyword that names one does not depend on the policy,
and other kinds are left out. -/
theorem withoutConjunctionKinds_step (p q : ConjunctionPolicy) (s : Scan) (keyword : Keyword)
    (sentence written : List Char) (number : Nat) :
    (s.step p keyword sentence written number).withoutConjunctionKinds
      = (s.withoutConjunctionKinds.step q keyword sentence written number).withoutConjunctionKinds
      := by
  have hsteps := congrArg Scan.steps s.withoutConjunctionKinds_idem
  simp only [withoutConjunctionKinds] at hsteps
  simp only [step, withoutConjunctionKinds, List.map_cons, hsteps,
    ScriptStep.withoutConjunctionKind]
  cases keyword <;> rfl

/-- Under two policies, a line leads to scans that differ in these kinds only. -/
theorem withoutConjunctionKinds_line (p q : ConjunctionPolicy) (s : Scan) (text : List Char)
    (number : Nat) :
    (s.line p text number).withoutConjunctionKinds
      = (s.withoutConjunctionKinds.line q text number).withoutConjunctionKinds := by
  unfold Scan.line
  -- Only a step asks for a kind. What other lines do goes with leaving kinds out.
  cases ScriptLine.of text with
  | silent | fence _ _ => exact s.withoutConjunctionKinds_idem.symm
  | row cells =>
      show (s.row cells).withoutConjunctionKinds
        = (s.withoutConjunctionKinds.row cells).withoutConjunctionKinds
      rw [withoutConjunctionKinds_row, withoutConjunctionKinds_row, withoutConjunctionKinds_idem]
  | header word title =>
      have hheader (t : Scan) : (t.header word title).withoutConjunctionKinds
          = t.withoutConjunctionKinds.header word title := by
        cases word <;> rfl
      show (s.header word title).withoutConjunctionKinds
        = (s.withoutConjunctionKinds.header word title).withoutConjunctionKinds
      rw [hheader, hheader, withoutConjunctionKinds_idem]
  | step keyword sentence => exact withoutConjunctionKinds_step p q s keyword sentence _ number
  | prose =>
      have hprose (t : Scan) : ({ t with attaching := false } : Scan).withoutConjunctionKinds
          = { t.withoutConjunctionKinds with attaching := false } := rfl
      show ({ s with attaching := false } : Scan).withoutConjunctionKinds
        = ({ s.withoutConjunctionKinds with attaching := false } : Scan).withoutConjunctionKinds
      rw [hprose, hprose, withoutConjunctionKinds_idem]

/-- Two scans of the same lines under two policies stay alike. -/
theorem withoutConjunctionKinds_onePass (q : ConjunctionPolicy) (lines : List NumberedLine) :
    ∀ (p : ConjunctionPolicy) (s : Scan) (doc? : Option OpenDoc),
      (onePass p s doc? lines).withoutConjunctionKinds
        = (onePass q s.withoutConjunctionKinds doc? lines).withoutConjunctionKinds := by
  induction lines with
  | nil =>
      intro p s doc?
      rw [onePass, onePass, withoutConjunctionKinds_idem]
  | cons line rest ih =>
      intro p s doc?
      obtain ⟨text, number⟩ := line
      cases doc? with
      | some doc =>
          rw [onePass, onePass]
          split
          · rw [ih, withoutConjunctionKinds_docString]
          · exact ih p s (some (doc.add text))
      | none =>
          rw [onePass, onePass]
          cases OpenDoc.of? text with
          | none =>
              -- The line is passed alike. What it leaves out on the right has no effect on the
              -- rest, as the statement for `q` on both sides says.
              simp only
              rw [ih p (s.line p text number) none, withoutConjunctionKinds_line p q,
                ← ih q (s.withoutConjunctionKinds.line q text number) none]
          | some doc =>
              simp only
              split
              · exact ih p s (some doc)
              · exact ih p s none

end Scan

namespace Script

/-- So does a whole script. -/
theorem withoutConjunctionKinds_extract (p q : ConjunctionPolicy) (text : String) :
    (extract p text).withoutConjunctionKinds = (extract q text).withoutConjunctionKinds := by
  have hscript (s : Scan) : s.script.withoutConjunctionKinds = s.withoutConjunctionKinds.script := by
    simp [Scan.script, Scan.withoutConjunctionKinds, withoutConjunctionKinds, List.map_reverse]
  rw [extract_eq_onePass, extract_eq_onePass, hscript, hscript]
  exact congrArg Scan.script (Scan.withoutConjunctionKinds_onePass q _ p {} none)

/-- Doc strings do not matter to kinds, so these are the kinds that a scan of the
lines outside of them leaves. -/
theorem map_kinded_extract (policy : ConjunctionPolicy) (text : String) :
    (extract policy text).steps.map ScriptStep.kinded
      = ((outside text).foldl (Scan.pass policy) {}).kinds.reverse :=
  calc (extract policy text).steps.map ScriptStep.kinded
      = (extract policy text).withoutDocs.steps.map ScriptStep.kinded := by
        simp only [withoutDocs, List.map_map]
        rfl
    _ = ((outside text).foldl (Scan.pass policy) {}).kinds.reverse := by
        rw [withoutDocs_extract, Scan.script, List.map_reverse]
        rfl

/-- The kind of each step of a script follows the policy. -/
theorem follows_of_mem_extract {policy : ConjunctionPolicy} {text : String} {step : ScriptStep}
    (h : step ∈ (extract policy text).steps) : Scan.Follows policy step.kinded := by
  have hmem := List.mem_map_of_mem (f := ScriptStep.kinded) h
  rw [map_kinded_extract, List.mem_reverse] at hmem
  exact Scan.follows_foldl_pass policy (outside text) _ hmem

/-- A conjunction inherits from the step extracted just before it. -/
theorem kind_eq_inheritedKind {text : String} {before after : List ScriptStep}
    {step : ScriptStep} (h : (extract .inherit text).steps = before ++ step :: after)
    (hnone : step.keyword.kind? = none) :
    step.kind = inheritedKind (headers (outside text))
      (before.getLast?.map ScriptStep.kinded) step.line := by
  have hinherits := Scan.inherits_foldl_pass (pairwise_outside text)
  have hkinds := map_kinded_extract .inherit text
  rw [h, eq_comm, List.reverse_eq_iff, List.map_append, List.map_cons, List.reverse_append,
    List.reverse_cons, List.append_assoc, List.singleton_append] at hkinds
  -- The scan keeps the latest step first, so what was before comes behind.
  have hkind := hinherits.inherited _ step.kinded _ hkinds hnone
  rw [List.head?_reverse, List.getLast?_map] at hkind
  exact hkind

/-- The kinds of steps. A keyword that names a kind gives it to its step. A
conjunction is a `When` under one policy. Under the other one it has the kind of the
step extracted just before it, and is a `Given` if there is none or if a header of a
feature, a rule, a background or a scenario stands between the two, outside of closed
doc strings. In all else the two policies agree. -/
theorem conjunction_kinds (text : String) :
    (∀ policy, ∀ step ∈ (extract policy text).steps, ∀ kind,
        step.keyword.kind? = some kind → step.kind = kind)
      ∧ (∀ step ∈ (extract .alwaysWhen text).steps, step.keyword.kind? = none →
          step.kind = .when)
      ∧ (∀ before step after, (extract .inherit text).steps = before ++ step :: after →
          step.keyword.kind? = none →
          step.kind = match before.getLast? with
            | none => .given
            | some previous =>
              if resetsBetween (headers (outside text)) previous.line step.line then .given
              else previous.kind)
      ∧ (extract .inherit text).withoutConjunctionKinds
          = (extract .alwaysWhen text).withoutConjunctionKinds := by
  refine ⟨fun policy step hstep => (follows_of_mem_extract hstep).1,
    fun step hstep => (follows_of_mem_extract hstep).2 rfl, ?_,
    withoutConjunctionKinds_extract .inherit .alwaysWhen text⟩
  intro before step after h hnone
  rw [kind_eq_inheritedKind h hnone]
  cases before.getLast? <;> rfl

end Script

end ScenarioSteps
