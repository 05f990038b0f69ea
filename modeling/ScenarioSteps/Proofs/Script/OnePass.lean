import ScenarioSteps.Proofs.Script.Standing

/-!
# `ScenarioSteps.Proofs.Script.OnePass`: the scan without going back

`Position.run` opens a doc string at every fence, and goes back when the
script ends inside. `Scan.onePass` looks for the closing fence first. It
reads each line once and opens a doc string only if it will be closed.

`run_eq_onePass` proves that the two agree from every state of a scan.
The argument is one lemma for each of the two ways in which a doc string
can end: `run_inside_of_closed` reads on to the closing fence, and
`run_inside_of_open` reads to the end of the script and goes back. What
the second one has read leaves no trace, since content is kept in the
open doc string and not in the scan.
-/

set_option autoImplicit false

namespace ScenarioSteps

/-- Scans lines, of which the first stands inside a doc string if one is given.
A fence opens a doc string only if one of the lines behind it closes it, and
is passed over if not. -/
def Scan.onePass (policy : ConjunctionPolicy) :
    Scan → Option OpenDoc → List NumberedLine → Scan
  | s, _, [] => s
  | s, some doc, (text, _) :: rest =>
    if doc.fence.closedBy text then Scan.onePass policy (s.docString doc.close) none rest
    else Scan.onePass policy s (some (doc.add text)) rest
  | s, none, (text, number) :: rest =>
    match OpenDoc.of? text with
    | none => Scan.onePass policy (s.line policy text number) none rest
    | some doc =>
      if rest.any (doc.fence.closedBy ·.1) then Scan.onePass policy s (some doc) rest
      else Scan.onePass policy s none rest

namespace Position

variable {policy : ConjunctionPolicy}

/-! ### One step of a run -/

/-- A run takes one step after the other. -/
theorem run_eq (p : Position) :
    run policy p = match p.next? policy with
      | none => p.scan
      | some q => run policy q := by
  rw [run]
  split <;> simp_all

/-- A scan outside of doc strings stops at the end of the script. -/
theorem run_nil (s : Scan) : run policy ⟨s, none, []⟩ = s :=
  run_eq _

/-- A scan inside of one goes back to the lines behind its fence. -/
theorem run_back (s : Scan) (doc : OpenDoc) (following : List NumberedLine) :
    run policy ⟨s, some (doc, following), []⟩ = run policy ⟨s, none, following⟩ :=
  run_eq _

/-- Within a doc string, a line closes it or is added to it. -/
theorem run_inside_cons (s : Scan) (doc : OpenDoc) (following rest : List NumberedLine)
    (line : NumberedLine) :
    run policy ⟨s, some (doc, following), line :: rest⟩
      = if doc.fence.closedBy line.1 then run policy ⟨s.docString doc.close, none, rest⟩
        else run policy ⟨s, some (doc.add line.1, following), rest⟩ := by
  rw [run_eq, next?]
  cases doc.fence.closedBy line.1 <;> rfl

/-- Outside, a line opens a doc string or is read. -/
theorem run_outside_cons (s : Scan) (rest : List NumberedLine) (line : NumberedLine) :
    run policy ⟨s, none, line :: rest⟩
      = match OpenDoc.of? line.1 with
        | some doc => run policy ⟨s, some (doc, rest), rest⟩
        | none => run policy ⟨s.line policy line.1 line.2, none, rest⟩ := by
  rw [run_eq, next?]
  cases OpenDoc.of? line.1 <;> rfl

/-! ### The two ends of a doc string -/

/-- A doc string that no line closes changes nothing: the scan reads on behind
its fence. -/
theorem run_inside_of_open (s : Scan) (following : List NumberedLine) :
    ∀ (rest : List NumberedLine) (doc : OpenDoc),
      rest.any (doc.fence.closedBy ·.1) = false →
      run policy ⟨s, some (doc, following), rest⟩ = run policy ⟨s, none, following⟩ := by
  intro rest
  induction rest with
  | nil => intro doc _; exact run_back s doc following
  | cons line rest ih =>
      intro doc hopen
      rw [List.any_cons, Bool.or_eq_false_iff] at hopen
      rw [run_inside_cons, hopen.1]
      exact ih (doc.add line.1) hopen.2

/-- A doc string that a line closes is read as the one-pass scan reads it, if
the two scans agree behind it. -/
theorem run_inside_of_closed (s : Scan) (following : List NumberedLine) :
    ∀ (rest : List NumberedLine) (doc : OpenDoc),
      (∀ (s' : Scan) (behind : List NumberedLine), behind.length ≤ rest.length →
        run policy ⟨s', none, behind⟩ = Scan.onePass policy s' none behind) →
      rest.any (doc.fence.closedBy ·.1) = true →
      run policy ⟨s, some (doc, following), rest⟩
        = Scan.onePass policy s (some doc) rest := by
  intro rest
  induction rest with
  | nil => intro doc _ hclosed; simp at hclosed
  | cons line rest ih =>
      intro doc hagree hclosed
      rw [run_inside_cons, Scan.onePass]
      cases hline : doc.fence.closedBy line.1 with
      | true => exact hagree _ rest (by simp)
      | false =>
          rw [List.any_cons, hline, Bool.false_or] at hclosed
          exact ih (doc.add line.1)
            (fun s' behind hlength => hagree s' behind (Nat.le_succ_of_le hlength)) hclosed

/-- Going back and looking ahead come to the same. The induction is on a bound
for the number of lines, since a closed doc string skips many at once. -/
theorem run_eq_onePass :
    ∀ (n : Nat) (lines : List NumberedLine), lines.length ≤ n →
      ∀ s : Scan, run policy ⟨s, none, lines⟩ = Scan.onePass policy s none lines := by
  intro n
  induction n with
  | zero =>
      intro lines hlength s
      rw [List.eq_nil_of_length_eq_zero (Nat.le_zero.mp hlength), run_nil, Scan.onePass]
  | succ n ih =>
      intro lines hlength s
      cases lines with
      | nil => rw [run_nil, Scan.onePass]
      | cons line rest =>
          have hrest : rest.length ≤ n := Nat.le_of_succ_le_succ hlength
          rw [run_outside_cons, Scan.onePass]
          cases OpenDoc.of? line.1 with
          | none => exact ih rest hrest _
          | some doc =>
              simp only
              cases hclosed : rest.any (doc.fence.closedBy ·.1) with
              | true =>
                  exact run_inside_of_closed s rest rest doc
                    (fun s' behind hbehind => ih behind (hbehind.trans hrest) s') hclosed
              | false =>
                  -- The run comes back to the same lines that it goes on with.
                  rw [run_inside_of_open s rest rest doc hclosed]
                  exact ih rest hrest s

end Position

/-- A script is what the one-pass scan of its lines extracts. -/
theorem Script.extract_eq_onePass (policy : ConjunctionPolicy) (text : String) :
    Script.extract policy text
      = (Scan.onePass policy {} none ((Text.lines text.toList).zipIdx 1)).script := by
  simp only [Script.extract]
  rw [Position.run_eq_onePass _ _ (Nat.le_refl _)]

end ScenarioSteps
