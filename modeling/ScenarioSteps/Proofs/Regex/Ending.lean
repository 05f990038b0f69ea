import ScenarioSteps.Proofs.Regex.Program

/-!
# `ScenarioSteps.Proofs.Regex.Ending`: every program is resolved

A thread that executes instructions without eating could go in circles, and
then its program would not say what can be done from there on. The programs of
expressions whose loops consume do not let it: before a thread comes back to
the fork of a loop, it eats.

* `settles_code`: in the code of an expression, threads come to an end without
  eating if they do behind it.
* `exists_resolves`: so the goals of a program can be computed, address by
  address, and the first of them is to match the expression.
-/

set_option autoImplicit false

namespace ScenarioSteps.Regex

/-- The addresses that an instruction leads to without eating. -/
def Instruction.free (address : Nat) : Instruction → List Nat
  | .eat _ => []
  | .check _ | .save _ => [address + 1]
  | .fork first second => [first, second]
  | .jump target => [target]

/-- A thread at address `a` may come to `b` with its next instruction, and
without eating. -/
def Free (program : Array Instruction) (b a : Nat) : Prop :=
  ∃ instruction, program[a]? = some instruction ∧ b ∈ instruction.free a

section Acc

variable {program : Array Instruction}

/-- Threads come to an end at an instruction if they do wherever it leads. -/
theorem acc_of_free {a : Nat} {instruction : Instruction} (hat : program[a]? = some instruction)
    (h : ∀ b ∈ instruction.free a, Acc (Free program) b) : Acc (Free program) a := by
  constructor
  rintro b ⟨other, hother, hb⟩
  cases hat.symm.trans hother
  exact h b hb

/-- An instruction that eats leads nowhere without eating. -/
theorem acc_of_eat {a : Nat} {chars : CharSet} (hat : program[a]? = some (.eat chars)) :
    Acc (Free program) a :=
  acc_of_free hat (by simp [Instruction.free])

/-- At the fork of a loop, threads come to an end if they do in a round and behind the loop.
-/
theorem acc_of_roundOrLeave {a round leave : Nat} {greedy : Bool}
    (hat : program[a]? = some (roundOrLeave greedy round leave))
    (hround : Acc (Free program) round) (hleave : Acc (Free program) leave) :
    Acc (Free program) a := by
  refine acc_of_free hat ?_
  cases greedy <;> simp [roundOrLeave, Instruction.free, hround, hleave]

/-- If threads behind a range of addresses come to an end, then so do threads
within it. -/
def Ends (program : Array Instruction) (start n : Nat) : Prop :=
  Acc (Free program) (start + n) → ∀ i ≤ n, Acc (Free program) (start + i)

/-- Nothing has to be shown of no instructions. -/
theorem Ends.zero {start : Nat} : Ends program start 0 := by
  intro hexit i hi
  rwa [Nat.le_zero.mp hi]

/-- Of one instruction it has to be shown that threads come to an end there if they do behind
it. -/
theorem Ends.one {start : Nat}
    (h : Acc (Free program) (start + 1) → Acc (Free program) start) : Ends program start 1 := by
  intro hexit i hi
  obtain rfl | rfl : i = 0 ∨ i = 1 := by omega
  · exact h hexit
  · exact hexit

/-- Two ranges of addresses, one right behind the other, are one. -/
theorem Ends.add {start m n : Nat} (hfirst : Ends program start m)
    (hrest : Ends program (start + m) n) : Ends program start (m + n) := by
  intro hexit i hi
  have hbehind : ∀ j ≤ n, Acc (Free program) (start + m + j) :=
    hrest (by rwa [Nat.add_assoc])
  by_cases him : i ≤ m
  · exact hfirst (hbehind 0 (Nat.zero_le n)) i him
  · have hinside := hbehind (i - m) (by omega)
    rwa [show start + m + (i - m) = start + i by omega] at hinside

/-- Copies of code end if each of them does. -/
theorem Ends.copies {body : Nat → List Instruction} {n : Nat}
    (hlength : ∀ start, (body start).length = n)
    (hbody : ∀ start, HasCode program start (body start) → Ends program start n)
    (times : Nat) {start : Nat} (hcode : HasCode program start (copies body n times start)) :
    Ends program start (times * n) := by
  induction times generalizing start with
  | zero =>
      rw [Nat.zero_mul]
      exact .zero
  | succ times ih =>
      rw [copies_succ, HasCode.append_iff, hlength] at hcode
      rw [Nat.succ_mul, Nat.add_comm]
      exact (hbody start hcode.1).add (ih hcode.2)

end Acc

/-- In the code of an expression, threads come to an end if threads behind it
do. If the expression consumes, a thread at its start does in any case. -/
def Settles (program : Array Instruction) (r : Regex) : Prop :=
  ∀ start, HasCode program start (r.code start) →
    Ends program start r.codeLength ∧ (r.consumes = true → Acc (Free program) start)

/-- A sequence consumes only if one of its parts does. -/
theorem consumes_seq {first rest : Regex} (h : (seq first rest).consumes = true) :
    first.consumes = true ∨ rest.consumes = true := by
  revert h
  cases hf : first.shortest? with
  | none => simp [consumes, shortest?, hf]
  | some m =>
      cases hr : rest.shortest? with
      | none => simp [consumes, shortest?, hf, hr]
      | some n =>
          simp only [consumes, shortest?, hf, hr, Option.bind_some, Option.map_some,
            Option.any_some, decide_eq_true_eq]
          omega

/-- A choice consumes only if both of its branches do. -/
theorem consumes_alt {first rest : Regex} (h : (alt first rest).consumes = true) :
    first.consumes = true ∧ rest.consumes = true := by
  revert h
  cases hf : first.shortest? with
  | none => simp [consumes, shortest?, hf]
  | some m =>
      cases hr : rest.shortest? with
      | none => simp [consumes, shortest?, hf, hr]
      | some n =>
          simp only [consumes, shortest?, hf, hr, Option.bind_some, Option.map_some,
            Option.any_some, decide_eq_true_eq]
          omega

/-- A repetition consumes only if its body does and has to be matched at least once. -/
theorem consumes_repeat {count : Count} {body : Regex}
    (h : (Regex.repeat count body).consumes = true) :
    count.least ≠ 0 ∧ body.consumes = true := by
  revert h
  cases hs : body.shortest? with
  | none => simp [consumes, shortest?, hs]
  | some n =>
      simp only [consumes, shortest?, hs, Option.map_some, Option.any_some, decide_eq_true_eq]
      intro h
      exact ⟨Nat.ne_of_gt (Nat.pos_of_mul_pos_right h), Nat.pos_of_mul_pos_left h⟩

namespace Settles

variable {program : Array Instruction}

/-- The code of a fixed text settles. -/
theorem literal (text : List Char) : Settles program (.literal text) := by
  induction text with
  | nil => exact fun start _ => ⟨.zero, by simp [consumes, shortest?]⟩
  | cons c text ih =>
      intro start hcode
      rw [code, List.map_cons, HasCode.cons_iff] at hcode
      have hstart : Acc (Free program) start := acc_of_eat hcode.1
      refine ⟨?_, fun _ => hstart⟩
      rw [codeLength, List.length_cons, Nat.add_comm]
      exact (Ends.one fun _ => hstart).add (ih (start + 1) hcode.2).1

/-- The code of a sequence settles if that of both parts does. -/
theorem seq {first rest : Regex} (hfirst : Settles program first)
    (hrest : Settles program rest) : Settles program (.seq first rest) := by
  intro start hcode
  rw [code, HasCode.append_iff, length_code] at hcode
  obtain ⟨hends, hacc⟩ := hfirst _ hcode.1
  obtain ⟨hends', hacc'⟩ := hrest _ hcode.2
  refine ⟨hends.add hends', fun hconsumes => ?_⟩
  -- If the first part does not eat, threads get through it to the rest, which eats.
  rcases consumes_seq hconsumes with h | h
  · exact hacc h
  · exact hends (hacc' h) 0 (Nat.zero_le _)

/-- The code of a choice settles if that of both branches does. -/
theorem alt {first rest : Regex} (hfirst : Settles program first)
    (hrest : Settles program rest) : Settles program (.alt first rest) := by
  intro start hcode
  simp only [code, List.cons_append, HasCode.cons_iff, HasCode.append_iff, length_code] at hcode
  obtain ⟨hfork, hcodeFirst, hjump, hcodeRest⟩ := hcode
  rw [show start + 1 + first.codeLength + 1 = start + first.codeLength + 2 by omega] at hcodeRest
  obtain ⟨hends, hacc⟩ := hfirst _ hcodeFirst
  obtain ⟨hends', hacc'⟩ := hrest _ hcodeRest
  have hstart (h : Acc (Free program) (start + 1))
      (h' : Acc (Free program) (start + first.codeLength + 2)) : Acc (Free program) start :=
    acc_of_free hfork (by simp [Instruction.free, h, h'])
  refine ⟨?_, fun hconsumes => ?_⟩
  · intro hexit
    have hdone : start + (Regex.alt first rest).codeLength
        = start + first.codeLength + 2 + rest.codeLength := by
      simp only [codeLength]
      omega
    rw [hdone] at hexit
    -- The first branch jumps over the second one, so it ends where that does.
    have hbehind := hends' hexit
    have hinside := hends (acc_of_free hjump (by simpa [Instruction.free] using hexit))
    intro i hi
    rw [codeLength] at hi
    -- An address is that of the fork, or one of the two branches has it.
    obtain rfl | ⟨j, rfl, hj⟩ | ⟨j, rfl, hj⟩ : i = 0
        ∨ (∃ j, i = 1 + j ∧ j ≤ first.codeLength)
        ∨ (∃ j, i = first.codeLength + 2 + j ∧ j ≤ rest.codeLength) := by
      rcases Nat.lt_or_ge i (first.codeLength + 2) with h | h
      · rcases Nat.eq_zero_or_pos i with h0 | h0
        · exact .inl h0
        · exact .inr (.inl ⟨i - 1, by omega, by omega⟩)
      · exact .inr (.inr ⟨i - (first.codeLength + 2), by omega, by omega⟩)
    · exact hstart (hinside 0 (Nat.zero_le _)) (hbehind 0 (Nat.zero_le _))
    · rw [← Nat.add_assoc]
      exact hinside j hj
    · rw [← Nat.add_assoc, ← Nat.add_assoc]
      exact hbehind j hj
  · obtain ⟨h, h'⟩ := consumes_alt hconsumes
    exact hstart (hacc h) (hacc' h')

/-- Copies of a body begin with the body. -/
theorem acc_of_copies {body : Regex} (hbody : Settles program body) {least start : Nat}
    (hleast : least ≠ 0 ∧ body.consumes = true)
    (hcode : HasCode program start (copies body.code body.codeLength least start)) :
    Acc (Free program) start := by
  obtain ⟨least, rfl⟩ := Nat.exists_eq_succ_of_ne_zero hleast.1
  rw [Nat.succ_eq_add_one, copies_succ, HasCode.append_iff] at hcode
  exact (hbody _ hcode.1).2 hleast.2

/-- Required copies of a body are settled, and optional ones behind them as
well, since the way out of each leads behind all of them. -/
theorem repeatUpTo {body : Regex} (hbody : Settles program body) (least most : Nat)
    (greedy : Bool) : Settles program (.repeat ⟨least, some most, greedy⟩ body) := by
  intro start hcode
  simp only [code, repeated, HasCode.append_iff, length_copies (length_code body)] at hcode
  have hcopies := Ends.copies (length_code body) (fun _ h => (hbody _ h).1) least hcode.1
  refine ⟨?_, fun hconsumes => ?_⟩
  · intro hexit
    -- The required copies come first, then the optional ones with a fork before each.
    have hdone : start + (Regex.repeat ⟨least, some most, greedy⟩ body).codeLength
        = start + least * body.codeLength + (most - least) * (body.codeLength + 1) := by
      rw [Nat.add_assoc]
      rfl
    have hrounds := Ends.copies (fun address => by rw [List.length_cons, length_code])
      (fun address h => ?_) _ hcode.2
    · exact hcopies.add hrounds hexit
    · rw [HasCode.cons_iff] at h
      rw [hdone] at hexit
      rw [Nat.add_comm]
      exact (Ends.one fun hround => acc_of_roundOrLeave h.1 hround hexit).add (hbody _ h.2).1
  · exact acc_of_copies hbody (consumes_repeat hconsumes) hcode.1

/-- A loop in front of its body comes back to the fork only behind a body that
consumes. -/
theorem repeatFromZero {body : Regex} (hbody : Settles program body)
    (hconsumes : body.consumes = true) (greedy : Bool) :
    Settles program (.repeat ⟨0, none, greedy⟩ body) := by
  intro start hcode
  simp only [code, repeated, hconsumes, if_true, List.cons_append, HasCode.cons_iff,
    HasCode.append_iff, length_code] at hcode
  obtain ⟨hfork, hround, hjump, -⟩ := hcode
  obtain ⟨hends, hacc⟩ := hbody _ hround
  refine ⟨fun hexit => ?_, fun h => absurd rfl (consumes_repeat h).1⟩
  have hstart : Acc (Free program) start := acc_of_roundOrLeave hfork (hacc hconsumes) hexit
  -- The jump back to the fork is behind the body, and the body has eaten by then.
  have hback : Ends program (start + 1 + body.codeLength) 1 :=
    .one fun _ => acc_of_free hjump (by simpa [Instruction.free] using hstart)
  have hlength : 1 + (body.codeLength + 1)
      = (Regex.repeat ⟨0, none, greedy⟩ body).codeLength := by
    rw [Nat.add_comm]
    rfl
  have hall := (Ends.one fun _ => hstart).add (hends.add hback)
  rw [hlength] at hall
  exact hall hexit

/-- A fork behind copies of a body leads back to the last copy. -/
theorem repeatFromOne {body : Regex} (hbody : Settles program body)
    (hconsumes : body.consumes = true) (least : Nat) (greedy : Bool) :
    Settles program (.repeat ⟨least + 1, none, greedy⟩ body) := by
  intro start hcode
  simp only [code, repeated, HasCode.append_iff, HasCode.singleton_iff,
    length_copies (length_code body)] at hcode
  obtain ⟨hcopies, hfork⟩ := hcode
  refine ⟨?_, fun h => acc_of_copies hbody (consumes_repeat h) hcopies⟩
  -- The fork leads back to the last copy only, so this one is looked at on its own.
  have hlast := hcopies
  rw [copies_succ_last, HasCode.append_iff, length_copies (length_code body)] at hlast
  refine (Ends.copies (length_code body) (fun _ h => (hbody _ h).1) _ hcopies).add
    (Ends.one fun hexit => ?_)
  refine acc_of_roundOrLeave hfork ((hbody _ hlast.2).2 hconsumes) ?_
  rwa [Nat.add_assoc start, ← Nat.succ_mul]

/-- The code of a group settles if that of its body does. -/
theorem group {body : Regex} (hbody : Settles program body) (index : Nat) :
    Settles program (.group index body) := by
  intro start hcode
  simp only [code, List.cons_append, HasCode.cons_iff, HasCode.append_iff, length_code] at hcode
  obtain ⟨hopen, hbodyCode, hclose, -⟩ := hcode
  obtain ⟨hends, hacc⟩ := hbody _ hbodyCode
  have hsave {address : Nat} {mark : Mark} (hat : program[address]? = some (.save mark))
      (h : Acc (Free program) (address + 1)) : Acc (Free program) address :=
    acc_of_free hat (by simpa [Instruction.free] using h)
  refine ⟨?_, fun hconsumes => hsave hopen (hacc hconsumes)⟩
  -- A mark, the body and a second mark, in this order.
  rw [codeLength, Nat.add_comm _ 2, Nat.add_assoc 1 1, Nat.add_comm 1 body.codeLength]
  exact (Ends.one (hsave hopen)).add (hends.add (Ends.one (hsave hclose)))

end Settles

/-- If all loops consume, threads come to an end in the code of an expression. -/
theorem settles_code (program : Array Instruction) {r : Regex} (hloops : r.loopsConsume = true) :
    Settles program r := by
  induction r with
  | empty => exact fun start _ => ⟨.zero, by simp [consumes, shortest?]⟩
  | literal text => exact .literal text
  | set chars =>
      intro start hcode
      have hstart : Acc (Free program) start := acc_of_eat (HasCode.singleton_iff.mp hcode)
      exact ⟨.one fun _ => hstart, fun _ => hstart⟩
  | anchor condition =>
      intro start hcode
      refine ⟨.one fun hexit => ?_, by simp [consumes, shortest?]⟩
      exact acc_of_free (HasCode.singleton_iff.mp hcode) (by simpa [Instruction.free] using hexit)
  | seq first rest ihFirst ihRest =>
      simp only [loopsConsume, Bool.and_eq_true] at hloops
      exact (ihFirst hloops.1).seq (ihRest hloops.2)
  | alt first rest ihFirst ihRest =>
      simp only [loopsConsume, Bool.and_eq_true] at hloops
      exact (ihFirst hloops.1).alt (ihRest hloops.2)
  | «repeat» count body ih =>
      simp only [loopsConsume, Bool.and_eq_true, Bool.or_eq_true] at hloops
      have hbody := ih hloops.1
      -- Without an upper bound the code goes back to the body, which therefore has to consume.
      obtain ⟨least, most?, greedy⟩ := count
      cases most? with
      | some most => exact hbody.repeatUpTo least most greedy
      | none =>
          have hconsumes : body.consumes = true := by simpa using hloops.2
          cases least with
          | zero => exact hbody.repeatFromZero hconsumes greedy
          | succ least => exact hbody.repeatFromOne hconsumes least greedy
  | group index body ih => exact (ih hloops).group index

/-! ### The goals exist -/

/-- If threads come to an end without eating, a goal can be computed for each
address. -/
def goalsOf (program : Array Instruction) (hend : WellFounded (Free program)) (address : Nat) :
    Goal := fun s trail =>
  match hat : program[address]? with
  | none => some trail
  | some (.eat chars) =>
    match hrest : s.rest with
    | [] => none
    | c :: rest =>
      if chars.mem c then goalsOf program hend (address + 1) (s.next c rest) trail else none
  | some (.check condition) =>
    if condition.holds s.before s.rest.head? then goalsOf program hend (address + 1) s trail
    else none
  | some (.fork first second) =>
    (goalsOf program hend first s trail).or (goalsOf program hend second s trail)
  | some (.jump target) => goalsOf program hend target s trail
  | some (.save mark) => goalsOf program hend (address + 1) s ((mark, s.position) :: trail)
termination_by s => (s.rest.length, hend.wrap address)
decreasing_by
  · exact .left _ _ (by simp [Spot.next, hrest])
  · exact .right _ ⟨_, hat, by simp [Instruction.free]⟩
  · exact .right _ ⟨_, hat, by simp [Instruction.free]⟩
  · exact .right _ ⟨_, hat, by simp [Instruction.free]⟩
  · exact .right _ ⟨_, hat, by simp [Instruction.free]⟩
  · exact .right _ ⟨_, hat, by simp [Instruction.free]⟩

/-- The computed goals are those of the program. -/
theorem resolves_goalsOf (program : Array Instruction) (hend : WellFounded (Free program)) :
    Resolves program (goalsOf program hend) := by
  intro address
  funext s trail
  rw [goalsOf]
  split
  · next hat => rw [hat]; rfl
  · next chars hat =>
      rw [hat]
      cases hrest : s.rest with
      | nil => simp [Instruction.goal, Goal.eat, hrest]
      | cons c rest => simp [Instruction.goal, Goal.eat, hrest]
  · next hat => rw [hat]; rfl
  · next hat => rw [hat]; rfl
  · next hat => rw [hat]; rfl
  · next hat => rw [hat]; rfl

/-- Whether a goal can be done does not depend on what is remembered. -/
def Goal.Blind (goal : Goal) : Prop :=
  ∀ s trail trail', (goal s trail).isSome = (goal s trail').isSome

/-- Whether a computed goal can be done does not depend on what is remembered. -/
theorem blind_goalsOf (program : Array Instruction) (hend : WellFounded (Free program))
    (address : Nat) : (goalsOf program hend address).Blind := by
  have h := resolves_goalsOf program hend
  intro s trail
  -- One case for each branch of the recursion. None of them looks at the trail.
  fun_induction goalsOf program hend address s trail with
  | case1 address s trail hat => exact fun trail' => by rw [h.eq_accept hat]; rfl
  | case2 address s trail chars hat hrest =>
      exact fun trail' => by rw [h.eq_goal hat]; simp [Instruction.goal, Goal.eat, hrest]
  | case3 address s trail chars hat c rest hrest hmem ih =>
      intro trail'
      rw [h.eq_goal hat]
      simpa [Instruction.goal, Goal.eat, hrest, hmem] using ih trail'
  | case4 address s trail chars hat c rest hrest hmem =>
      exact fun trail' => by rw [h.eq_goal hat]; simp [Instruction.goal, Goal.eat, hrest, hmem]
  | case5 address s trail condition hat hholds ih =>
      intro trail'
      rw [h.eq_goal hat]
      simpa [Instruction.goal, Goal.check, hholds] using ih trail'
  | case6 address s trail condition hat hholds =>
      exact fun trail' => by rw [h.eq_goal hat]; simp [Instruction.goal, Goal.check, hholds]
  | case7 address s trail first second hat ih ih' =>
      intro trail'
      rw [h.eq_goal hat]
      simp [Instruction.goal, Goal.either, ih trail', ih' trail']
  | case8 address s trail target hat ih =>
      intro trail'
      rw [h.eq_goal hat]
      exact ih trail'
  | case9 address s trail mark hat ih =>
      intro trail'
      rw [h.eq_goal hat]
      exact ih _

/-- A program is the code of its expression, from the first address on. -/
theorem hasCode_program (r : Regex) : HasCode r.program 0 (r.code 0) := by
  intro i h
  rw [Nat.zero_add, program, List.getElem?_toArray, List.getElem?_eq_getElem h]

/-- A program is as long as the code of its expression. -/
theorem size_program (r : Regex) : r.program.size = r.codeLength := by
  rw [program, List.size_toArray, length_code]

/-- Threads of a program come to an end without eating. -/
theorem wellFounded_free {r : Regex} (hloops : r.loopsConsume = true) :
    WellFounded (Free r.program) := by
  -- Outside of the program there is no instruction to come from.
  have houtside {a : Nat} (ha : r.codeLength ≤ a) : Acc (Free r.program) a := by
    constructor
    rintro b ⟨instruction, hat, -⟩
    rw [← size_program] at ha
    rw [Array.getElem?_eq_none ha] at hat
    cases hat
  have hends := (settles_code r.program hloops 0 (hasCode_program r)).1
  refine ⟨fun a => ?_⟩
  rcases Nat.lt_or_ge r.codeLength a with h | h
  · exact houtside (Nat.le_of_lt h)
  · have ha := hends (houtside (Nat.le_add_left _ _)) a h
    rwa [Nat.zero_add] at ha

/-- A program whose loops consume is resolved, and the goal at its first
address is to match the expression. -/
theorem exists_resolves {r : Regex} (hloops : r.loopsConsume = true) :
    ∃ goals, Resolves r.program goals ∧ (∀ address, (goals address).Blind)
      ∧ goals 0 = r.attempt .accept := by
  have h := resolves_goalsOf r.program (wellFounded_free hloops)
  refine ⟨_, h, blind_goalsOf _ _, ?_⟩
  have hend : r.program[0 + r.codeLength]? = none :=
    Array.getElem?_eq_none (by simp [size_program])
  rw [resolve_code h r hloops (hasCode_program r), h.eq_accept hend]

end ScenarioSteps.Regex
