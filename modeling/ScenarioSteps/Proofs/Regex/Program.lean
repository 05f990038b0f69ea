import ScenarioSteps.Proofs.Regex.Backtrack

/-!
# `ScenarioSteps.Proofs.Regex.Program`: what a program is for

A program leads from each address to what can be done from there on. A family
of goals, one for each address, `Resolves` a program if the goal at an address
is what the instruction there makes of the goals that it leads to.

* `resolve_code`: where the code of an expression stands in a program, the
  goal at its first address is to match the expression and then to do the
  goal behind its last one. This ties the program to the backtracking
  reference, one constructor at a time.
-/

set_option autoImplicit false

namespace ScenarioSteps.Regex

/-! ### Code at an address -/

/-- A list of instructions stands in a program from an address on. -/
def HasCode (program : Array Instruction) (start : Nat) (instructions : List Instruction) :
    Prop :=
  ∀ (i : Nat) (h : i < instructions.length), program[start + i]? = some instructions[i]

namespace HasCode

variable {program : Array Instruction} {start : Nat}

/-- A program has code with a first instruction if this one is at the first address and the
rest stands behind it. -/
theorem cons_iff {instruction : Instruction} {rest : List Instruction} :
    HasCode program start (instruction :: rest)
      ↔ program[start]? = some instruction ∧ HasCode program (start + 1) rest := by
  constructor
  · intro h
    refine ⟨h 0 (Nat.zero_lt_succ _), fun i hi => ?_⟩
    rw [Nat.add_assoc, Nat.add_comm 1]
    exact h (i + 1) (Nat.succ_lt_succ hi)
  · rintro ⟨hfirst, hrest⟩ i hi
    cases i with
    | zero => exact hfirst
    | succ i =>
        have hat := hrest i (Nat.lt_of_succ_lt_succ hi)
        rw [Nat.add_assoc, Nat.add_comm 1] at hat
        exact hat

/-- Code is in two parts where the second one stands right behind the first. -/
theorem append_iff {a b : List Instruction} :
    HasCode program start (a ++ b)
      ↔ HasCode program start a ∧ HasCode program (start + a.length) b := by
  induction a generalizing start with
  | nil => simp [HasCode]
  | cons instruction a ih =>
      rw [List.cons_append, cons_iff, cons_iff, ih, and_assoc, List.length_cons,
        Nat.add_assoc, Nat.add_comm 1]

/-- One instruction is code by itself. -/
theorem singleton_iff {instruction : Instruction} :
    HasCode program start [instruction] ↔ program[start]? = some instruction := by
  rw [cons_iff]
  exact and_iff_left fun i hi => absurd hi (Nat.not_lt_zero i)

end HasCode

/-- One copy more stands in front of the others. -/
theorem copies_succ (body : Nat → List Instruction) (n times start : Nat) :
    copies body n (times + 1) start = body start ++ copies body n times (start + n) := by
  have hshift (i : Nat) : start + (i + 1) * n = start + n + i * n := by
    rw [Nat.succ_mul]
    omega
  simp [copies, List.range_succ_eq_map, List.flatMap_map, hshift]

/-- It stands behind them as well, since all copies are the same. -/
theorem copies_succ_last (body : Nat → List Instruction) (n times start : Nat) :
    copies body n (times + 1) start = copies body n times start ++ body (start + times * n) := by
  simp [copies, List.range_succ]

/-- Copies of a body are as many times as long as the body. -/
theorem length_copies {body : Nat → List Instruction} {n : Nat}
    (hbody : ∀ start, (body start).length = n) (times start : Nat) :
    (copies body n times start).length = times * n := by
  induction times generalizing start with
  | zero => simp [copies]
  | succ times ih =>
      rw [copies_succ, List.length_append, hbody, ih, Nat.succ_mul, Nat.add_comm]

/-- An expression takes up as many instructions as its addresses say. -/
theorem length_code (r : Regex) (start : Nat) : (r.code start).length = r.codeLength := by
  induction r generalizing start with
  | empty => rfl
  | literal text => simp [code, codeLength]
  | set chars => rfl
  | anchor condition => rfl
  | seq first rest ihFirst ihRest => simp [code, codeLength, ihFirst, ihRest]
  | alt first rest ihFirst ihRest =>
      simp only [code, codeLength, List.length_cons, List.length_append, ihFirst, ihRest]
      omega
  | «repeat» count body ih =>
      obtain ⟨least, most?, greedy⟩ := count
      cases most? with
      | some most =>
          -- Each optional round has a fork in front of its copy of the body.
          have hround (address : Nat) (choice : Instruction) :
              (choice :: body.code (address + 1)).length = body.codeLength + 1 := by
            rw [List.length_cons, ih]
          simp only [code, codeLength, repeated, repeatedLength, List.length_append]
          rw [length_copies ih, length_copies fun address => hround address _]
      | none =>
          cases least with
          | zero => simp [code, codeLength, repeated, repeatedLength, ih]
          | succ least =>
              simp [code, codeLength, repeated, repeatedLength, length_copies ih]
  | group index body ih => simp [code, codeLength, ih]

/-! ### The goals of a program -/

/-- What an instruction at an address makes of the goals that it leads to. -/
def Instruction.goal (goals : Nat → Goal) (address : Nat) : Instruction → Goal
  | .eat chars => .eat chars (goals (address + 1))
  | .check condition => .check condition (goals (address + 1))
  | .fork first second => .either (goals first) (goals second)
  | .jump target => goals target
  | .save mark => .save mark (goals (address + 1))

/-- The goal at an address is what the instruction there says. Behind the last
instruction nothing is left to do. -/
def Resolves (program : Array Instruction) (goals : Nat → Goal) : Prop :=
  ∀ address, goals address = match program[address]? with
    | some instruction => instruction.goal goals address
    | none => .accept

namespace Resolves

variable {program : Array Instruction} {goals : Nat → Goal}

/-- The goal at an address is what the instruction there makes of the others. -/
theorem eq_goal (h : Resolves program goals) {address : Nat} {instruction : Instruction}
    (hat : program[address]? = some instruction) :
    goals address = instruction.goal goals address := by
  rw [h address, hat]

/-- Behind its last instruction a program accepts. -/
theorem eq_accept (h : Resolves program goals) {address : Nat}
    (hat : program[address]? = none) : goals address = .accept := by
  rw [h address, hat]

/-- The code of a fixed text eats the text, and then the goal behind it is done. -/
theorem eq_eatAll (h : Resolves program goals) (text : List Char) {start : Nat}
    (hcode : HasCode program start (text.map fun c => .eat (.single c))) :
    goals start = .eatAll text (goals (start + text.length)) := by
  induction text generalizing start with
  | nil => rfl
  | cons c text ih =>
      rw [List.map_cons, HasCode.cons_iff] at hcode
      rw [h.eq_goal hcode.1, List.length_cons, Nat.add_comm _ 1, ← Nat.add_assoc]
      exact congrArg (Goal.eat (.single c)) (ih hcode.2)

/-- The fork of a loop makes a round or leaves, in the order that it prefers. -/
theorem eq_roundOrLeave (h : Resolves program goals) {address round leave : Nat}
    {greedy : Bool} (hat : program[address]? = some (Regex.roundOrLeave greedy round leave)) :
    goals address = .roundOrLeave greedy (goals round) (goals leave) := by
  rw [h.eq_goal hat]
  cases greedy <;> rfl

/-- Copies of a body match it several times. -/
theorem eq_times {body : Regex}
    (hbody : ∀ start, HasCode program start (body.code start) →
      goals start = body.attempt (goals (start + body.codeLength)))
    (times : Nat) {start : Nat}
    (hcode : HasCode program start (copies body.code body.codeLength times start)) :
    goals start = .times body.attempt times (goals (start + times * body.codeLength)) := by
  induction times generalizing start with
  | zero => rw [Nat.zero_mul]; rfl
  | succ times ih =>
      rw [copies_succ, HasCode.append_iff, length_code] at hcode
      rw [hbody start hcode.1, ih hcode.2, Nat.succ_mul, Nat.add_assoc,
        Nat.add_comm body.codeLength]
      rfl

/-- Copies of a body, each with a fork in front that leads to the end of all,
match it at most so many times. -/
theorem eq_rounds (h : Resolves program goals) {body : Regex}
    (hbody : ∀ start, HasCode program start (body.code start) →
      goals start = body.attempt (goals (start + body.codeLength)))
    (greedy : Bool) (done times : Nat) {start : Nat}
    (hdone : start + times * (body.codeLength + 1) = done)
    (hcode : HasCode program start
      (copies (fun address =>
          Regex.roundOrLeave greedy (address + 1) done :: body.code (address + 1))
        (body.codeLength + 1) times start)) :
    goals start = .rounds greedy body.attempt (goals done) times := by
  induction times generalizing start with
  | zero => rw [← hdone, Nat.zero_mul]; rfl
  | succ times ih =>
      rw [copies_succ, List.cons_append, HasCode.cons_iff, HasCode.append_iff,
        length_code] at hcode
      obtain ⟨hfork, hround, hrest⟩ := hcode
      -- A round is a fork and a copy, and the next one begins behind both.
      have hnext : start + (body.codeLength + 1) = start + 1 + body.codeLength := by omega
      rw [← hnext] at hrest
      have hdone' : start + (body.codeLength + 1) + times * (body.codeLength + 1) = done := by
        rw [← hdone, Nat.succ_mul]
        omega
      rw [h.eq_roundOrLeave hfork, hbody _ hround, ← hnext, ih hdone' hrest]
      rfl

end Resolves

/-- The code of an expression matches the expression and goes on behind it. -/
theorem resolve_code {program : Array Instruction} {goals : Nat → Goal}
    (h : Resolves program goals) (r : Regex) (hloops : r.loopsConsume = true) {start : Nat}
    (hcode : HasCode program start (r.code start)) :
    goals start = r.attempt (goals (start + r.codeLength)) := by
  induction r generalizing start with
  | empty => rfl
  | literal text => exact h.eq_eatAll text hcode
  | set chars => exact h.eq_goal (HasCode.singleton_iff.mp hcode)
  | anchor condition => exact h.eq_goal (HasCode.singleton_iff.mp hcode)
  | seq first rest ihFirst ihRest =>
      simp only [loopsConsume, Bool.and_eq_true] at hloops
      rw [code, HasCode.append_iff, length_code] at hcode
      rw [ihFirst hloops.1 hcode.1, ihRest hloops.2 hcode.2, Nat.add_assoc]
      rfl
  | alt first rest ihFirst ihRest =>
      simp only [loopsConsume, Bool.and_eq_true] at hloops
      simp only [code, List.cons_append, HasCode.cons_iff, HasCode.append_iff,
        length_code] at hcode
      obtain ⟨hfork, hfirst, hjump, hsecond⟩ := hcode
      have hstart : start + 1 + first.codeLength + 1 = start + first.codeLength + 2 := by omega
      have hdone : start + first.codeLength + 2 + rest.codeLength
          = start + (alt first rest).codeLength := by
        simp only [codeLength]
        omega
      rw [hstart] at hsecond
      rw [h.eq_goal hfork, Instruction.goal, ihFirst hloops.1 hfirst, h.eq_goal hjump,
        Instruction.goal, ihRest hloops.2 hsecond, hdone]
      rfl
  | «repeat» count body ih =>
      simp only [loopsConsume, Bool.and_eq_true, Bool.or_eq_true] at hloops
      have hbody : ∀ start, HasCode program start (body.code start) →
          goals start = body.attempt (goals (start + body.codeLength)) :=
        fun start => ih hloops.1
      obtain ⟨least, most?, greedy⟩ := count
      cases most? with
      | some most =>
          simp only [code, repeated, HasCode.append_iff, length_copies (length_code body)]
            at hcode
          rw [Resolves.eq_times hbody least hcode.1, h.eq_rounds hbody greedy _ _ rfl hcode.2,
            codeLength, repeatedLength, ← Nat.add_assoc]
          rfl
      | none =>
          have hconsumes : body.consumes = true := by simpa using hloops.2
          cases least with
          | zero =>
              simp only [code, repeated, hconsumes, if_true, List.cons_append,
                HasCode.cons_iff, HasCode.append_iff, length_code] at hcode
              obtain ⟨hfork, hround, hjump, -⟩ := hcode
              have hloop := h.eq_roundOrLeave hfork
              rw [hbody _ hround, h.eq_goal hjump, Instruction.goal] at hloop
              exact Goal.eq_allRounds hconsumes greedy hloop
          | succ least =>
              simp only [code, repeated, HasCode.append_iff, HasCode.singleton_iff,
                length_copies (length_code body)] at hcode
              obtain ⟨hcopies, hfork⟩ := hcode
              have hlast := hcopies
              rw [copies_succ_last, HasCode.append_iff, length_copies (length_code body)] at hlast
              -- The fork stands behind the last copy and leads back to it.
              have hloop := h.eq_roundOrLeave hfork
              rw [hbody _ hlast.2, Nat.add_assoc start, ← Nat.succ_mul] at hloop
              rw [Resolves.eq_times hbody (least + 1) hcopies,
                Goal.eq_allRounds hconsumes greedy hloop, codeLength, repeatedLength,
                Nat.add_assoc]
              rfl
  | group index body ih =>
      simp only [code, List.cons_append, HasCode.cons_iff, HasCode.append_iff,
        length_code] at hcode
      obtain ⟨hopen, hbody, hclose, -⟩ := hcode
      rw [h.eq_goal hopen, Instruction.goal, ih hloops hbody, h.eq_goal hclose,
        Instruction.goal, Nat.add_assoc, Nat.add_assoc, Nat.add_comm 1]
      rfl

end ScenarioSteps.Regex
