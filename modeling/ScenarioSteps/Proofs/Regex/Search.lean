import Mathlib.Order.WellFounded
import ScenarioSteps.Proofs.Regex.Ending

/-!
# `ScenarioSteps.Proofs.Regex.Search`: the search finds the leftmost match

The search follows all threads at once and executes each instruction once at
each place. Here it is shown to find what the backtracking reference finds.

The threads at a place stand for the first of their goals that can be done
(`best?`). Executing an instruction puts threads in the place of one without
changing what they stand for. A thread at a visited address may be dropped:
if its goal can be done at all, a thread that is preferred to it does the
same. Among the threads on the stack this is kept by an invariant
(`Answered`), which holds because no thread comes back to an address without
eating.

* `best_advance`: the instructions that eat nothing, up to the next character.
* `search?_eq_leftmost?`: the whole search.
-/

set_option autoImplicit false

namespace ScenarioSteps.Regex

/-- The first goal of some threads that can be done. -/
def best? (goals : Nat → Goal) (s : Spot) (threads : List Thread) : Option Trail :=
  threads.findSome? fun t => goals t.next s t.trail

/-- Whether something can be done at an address. -/
def Live (goals : Nat → Goal) (s : Spot) (address : Nat) : Prop :=
  (goals address s []).isSome = true

/-- A visited address at which something can be done has an answer: a thread
that waits, or a thread on the stack. In the second case, that thread and all
above it come from the address. -/
def Answered (program : Array Instruction) (goals : Nat → Goal) (s : Spot)
    (waiting stack : List Thread) (address : Nat) : Prop :=
  (∃ t ∈ waiting, Live goals s t.next)
    ∨ ∃ above t below, stack = above ++ t :: below ∧ Live goals s t.next
      ∧ ∀ u ∈ above ++ [t], Relation.TransGen (Free program) u.next address

/-- The place between two characters that a spot is. -/
def Spot.place (s : Spot) : Place :=
  ⟨s.before, s.rest.head?, s.position⟩

section

variable {program : Array Instruction} {goals : Nat → Goal} {s : Spot}

/-- The first thread comes first. -/
theorem best?_cons (t : Thread) (threads : List Thread) :
    best? goals s (t :: threads) = (goals t.next s t.trail).or (best? goals s threads) := by
  cases h : goals t.next s t.trail <;> simp [best?, h]

/-- No threads stand for nothing. -/
theorem best?_nil : best? goals s [] = none :=
  rfl

/-- Threads in front of others are preferred to them. -/
theorem best?_append (a b : List Thread) :
    best? goals s (a ++ b) = (best? goals s a).or (best? goals s b) := by
  simp [best?, List.findSome?_append]

/-- Whether a thread is live does not depend on what it remembers. -/
theorem live_iff (hblind : ∀ address, (goals address).Blind) {address : Nat} (trail : Trail) :
    Live goals s address ↔ (goals address s trail).isSome = true := by
  rw [Live, hblind address s [] trail]

/-- Threads stand for something exactly if one of them is live. -/
theorem isSome_best? (hblind : ∀ address, (goals address).Blind) {threads : List Thread} :
    (best? goals s threads).isSome = true ↔ ∃ t ∈ threads, Live goals s t.next := by
  rw [best?, List.findSome?_isSome_iff]
  exact exists_congr fun t => and_congr_right fun _ => (live_iff hblind t.trail).symm

end

/-! ### Executing an instruction -/

/-- The threads that come from executing an instruction without eating. -/
def Thread.successors (t : Thread) (place : Place) : Instruction → List Thread
  | .eat _ => []
  | .check condition =>
    if condition.holds place.before place.after then [{ t with next := t.next + 1 }] else []
  | .fork first second => [{ t with next := first }, { t with next := second }]
  | .jump target => [{ t with next := target }]
  | .save mark => [⟨t.next + 1, (mark, place.position) :: t.trail⟩]

/-- The thread itself, if it waits for a character. -/
def Thread.waits (t : Thread) : Instruction → List Thread
  | .eat _ => [t]
  | .check _ | .fork .. | .jump _ | .save _ => []

/-- An instruction puts two threads at most in the place of one. -/
theorem Thread.length_successors_le (t : Thread) (place : Place) (instruction : Instruction) :
    (t.successors place instruction).length ≤ 2 := by
  cases instruction with
  | check condition =>
      simp only [successors]
      split <;> simp
  | _ => simp [successors]

/-- At an address that was not visited, the instruction is executed. -/
theorem advance_execute {program : Array Instruction} {place : Place} {fuel : Nat}
    {t : Thread} {stack waiting : List Thread} {visited : Array Bool} {instruction : Instruction}
    (hfresh : visited[t.next]? ≠ some true) (hat : program[t.next]? = some instruction) :
    advance program place (fuel + 1) (t :: stack) waiting visited
      = advance program place fuel (t.successors place instruction ++ stack)
          (t.waits instruction ++ waiting) (visited.setIfInBounds t.next true) := by
  rw [advance, if_neg (by simpa using hfresh)]
  cases instruction with
  | check condition =>
      simp only [hat, Thread.successors, Thread.waits]
      split <;> rfl
  | _ => simp only [hat]; rfl

section

variable {program : Array Instruction} {goals : Nat → Goal} {s : Spot}

/-- What is put in the place of a thread is one instruction further, and nothing is eaten. -/
theorem free_of_mem_successors {t u : Thread} {place : Place} {instruction : Instruction}
    (hat : program[t.next]? = some instruction) (hu : u ∈ t.successors place instruction) :
    Free program u.next t.next := by
  refine ⟨instruction, hat, ?_⟩
  cases instruction with
  | eat chars => cases hu
  | check condition =>
      simp only [Thread.successors] at hu
      split at hu <;> simp_all [Instruction.free]
  | fork first second =>
      simp only [Thread.successors, List.mem_cons, List.not_mem_nil, or_false] at hu
      rcases hu with rfl | rfl <;> simp [Instruction.free]
  | jump target => simp_all [Thread.successors, Instruction.free]
  | save mark => simp_all [Thread.successors, Instruction.free]

/-- A thread stands for the same as those that come from it. -/
theorem goal_eq_best? (hres : Resolves program goals) {t : Thread} {instruction : Instruction}
    (hat : program[t.next]? = some instruction) :
    goals t.next s t.trail = (best? goals s (t.waits instruction)).or
      (best? goals s (t.successors s.place instruction)) := by
  -- A thread that eats waits as it is, and the others hand on to their successors.
  cases instruction with
  | eat chars => simp [best?, Thread.waits, Thread.successors]
  | check condition =>
      rw [hres.eq_goal hat]
      simp only [Instruction.goal, Goal.check, Thread.waits, Thread.successors, Spot.place]
      split
      · next h => simp [h, best?_cons, best?_nil]
      · next h => simp [h, best?_nil]
  | fork first second =>
      rw [hres.eq_goal hat]
      simp [best?_cons, best?_nil, Instruction.goal, Goal.either, Thread.waits,
        Thread.successors]
  | jump target =>
      rw [hres.eq_goal hat]
      simp [best?, Instruction.goal, Thread.waits, Thread.successors]
  | save mark =>
      rw [hres.eq_goal hat]
      simp [best?, Instruction.goal, Goal.save, Thread.waits, Thread.successors, Spot.place]

end

/-! ### What the threads on the stack stand for -/

section

variable {program : Array Instruction} {goals : Nat → Goal} {s : Spot}

/-- All visited addresses at which something can be done have an answer. -/
def AllAnswered (program : Array Instruction) (goals : Nat → Goal) (s : Spot)
    (waiting stack : List Thread) (visited : Array Bool) : Prop :=
  ∀ address, visited[address]? = some true → Live goals s address →
    Answered program goals s waiting stack address

/-- A live thread on top of the stack at a visited address comes too late: a
live thread waits already. -/
theorem AllAnswered.waiting_of_visited (hend : WellFounded (Free program))
    {t : Thread} {stack waiting : List Thread} {visited : Array Bool}
    (h : AllAnswered program goals s waiting (t :: stack) visited)
    (hvisited : visited[t.next]? = some true) (hlive : Live goals s t.next) :
    ∃ u ∈ waiting, Live goals s u.next := by
  rcases h t.next hvisited hlive with hwaiting | ⟨above, u, below, hstack, -, hfrom⟩
  · exact hwaiting
  · -- Otherwise the thread would come from its own address without eating.
    have ht : t ∈ above ++ [u] := by
      cases above with
      | nil =>
          cases hstack
          simp
      | cons first above =>
          cases hstack
          simp
    exact (hend.transGen.asymmetric _ _ (hfrom t ht) (hfrom t ht)).elim

/-- A thread at a visited address can be dropped. -/
theorem AllAnswered.drop (hend : WellFounded (Free program))
    {t : Thread} {stack waiting : List Thread} {visited : Array Bool}
    (h : AllAnswered program goals s waiting (t :: stack) visited)
    (hvisited : visited[t.next]? = some true) :
    AllAnswered program goals s waiting stack visited := by
  intro address haddress hlive
  rcases h address haddress hlive with hwaiting | ⟨above, u, below, hstack, hu, hfrom⟩
  · exact .inl hwaiting
  · cases above with
    | nil =>
        cases hstack
        exact .inl (h.waiting_of_visited hend hvisited hu)
    | cons first above =>
        cases hstack
        exact .inr ⟨above, u, below, rfl, hu, fun v hv => hfrom v (List.mem_cons_of_mem _ hv)⟩

/-- Executing an instruction leaves an answer behind. -/
theorem AllAnswered.execute (hres : Resolves program goals)
    (hblind : ∀ address, (goals address).Blind)
    {t : Thread} {stack waiting : List Thread} {visited : Array Bool}
    (h : AllAnswered program goals s waiting (t :: stack) visited)
    {instruction : Instruction} (hat : program[t.next]? = some instruction) :
    AllAnswered program goals s (t.waits instruction ++ waiting)
      (t.successors s.place instruction ++ stack) (visited.setIfInBounds t.next true) := by
  have hfree : ∀ u ∈ t.successors s.place instruction, Free program u.next t.next :=
    fun u hu => free_of_mem_successors hat hu
  -- An address that all successors come from is answered if this thread is live: by the thread
  -- itself if it waits, or else by the first of its successors that is live.
  have hnew (address : Nat) (hlive : Live goals s t.next)
      (hfrom : ∀ u ∈ t.successors s.place instruction,
        Relation.TransGen (Free program) u.next address) :
      Answered program goals s (t.waits instruction ++ waiting)
        (t.successors s.place instruction ++ stack) address := by
    rw [live_iff hblind t.trail, goal_eq_best? hres hat, Option.isSome_or, Bool.or_eq_true,
      isSome_best? hblind, isSome_best? hblind] at hlive
    rcases hlive with ⟨u, hu, hulive⟩ | ⟨u, hu, hulive⟩
    · exact .inl ⟨u, List.mem_append_left _ hu, hulive⟩
    · obtain ⟨above, below, hsplit⟩ := List.append_of_mem hu
      refine .inr ⟨above, u, below ++ stack, by simp [hsplit], hulive, fun v hv => hfrom v ?_⟩
      rw [hsplit]
      rw [List.mem_append, List.mem_singleton] at hv
      rcases hv with hv | rfl
      · exact List.mem_append_left _ hv
      · exact List.mem_append_right _ List.mem_cons_self
  intro address haddress hlive
  -- The address of this thread is new. For any other one, its old answer is looked up again.
  by_cases ht : address = t.next
  · subst ht
    exact hnew _ hlive fun u hu => .single (hfree u hu)
  · have hold : visited[address]? = some true := by
      rwa [Array.getElem?_setIfInBounds_ne (Ne.symm ht)] at haddress
    rcases h address hold hlive with ⟨u, hu, hulive⟩ | ⟨above, u, below, hstack, hu, hfrom⟩
    · exact .inl ⟨u, List.mem_append_right _ hu, hulive⟩
    · cases above with
      | nil =>
          cases hstack
          -- The answer was this thread, so its successors answer in its place.
          exact hnew address hu fun v hv =>
            .head (hfree v hv) (hfrom t (by simp))
      | cons first above =>
          cases hstack
          -- The answer is below. The successors come from wherever this thread came from.
          refine .inr ⟨t.successors s.place instruction ++ above, u, below, by simp, hu, ?_⟩
          intro v hv
          rw [List.append_assoc, List.mem_append] at hv
          rcases hv with hv | hv
          · exact .head (hfree v hv) (hfrom t (by simp))
          · exact hfrom v (List.mem_cons_of_mem _ hv)

/-- With each address that is visited, one less is left. -/
theorem count_setIfInBounds {visited : Array Bool} {address : Nat}
    (hfresh : visited[address]? ≠ some true) (hlt : address < visited.size) :
    (visited.setIfInBounds address true).count false + 1 = visited.count false := by
  have hat : visited[address] = false := by
    rw [Array.getElem?_eq_getElem hlt] at hfresh
    simpa using hfresh
  have hpos : 0 < visited.count false := Array.count_pos_iff.mpr (hat ▸ Array.getElem_mem hlt)
  rw [Array.setIfInBounds, dif_pos hlt, Array.count_set, hat]
  simp
  omega

/-- Only threads in front of an instruction that eats have to wait. -/
theorem mem_waits_append {t : Thread} {waiting : List Thread} {instruction : Instruction}
    (hat : program[t.next]? = some instruction)
    (hwaiting : ∀ u ∈ waiting, ∃ chars, program[u.next]? = some (.eat chars)) :
    ∀ u ∈ t.waits instruction ++ waiting, ∃ chars, program[u.next]? = some (.eat chars) := by
  intro u hu
  rcases List.mem_append.mp hu with hu | hu
  · cases instruction with
    | eat chars =>
        obtain rfl := List.mem_singleton.mp hu
        exact ⟨chars, hat⟩
    | _ => cases hu
  · exact hwaiting u hu

/-- Moving on to the next character, the threads that wait stand for those
that eat it. -/
theorem best_advance (hres : Resolves program goals)
    (hblind : ∀ address, (goals address).Blind) (hend : WellFounded (Free program))
    {fuel : Nat} {stack waiting : List Thread} {visited : Array Bool}
    (hsize : visited.size = program.size)
    (hfuel : 2 * visited.count false + stack.length ≤ fuel)
    (hwaiting : ∀ t ∈ waiting, ∃ chars, program[t.next]? = some (.eat chars))
    (h : AllAnswered program goals s waiting stack visited) :
    (∀ t ∈ (advance program s.place fuel stack waiting visited).waiting,
        ∃ chars, program[t.next]? = some (.eat chars))
      ∧ (best? goals s (advance program s.place fuel stack waiting visited).waiting.reverse).or
          (advance program s.place fuel stack waiting visited).found?
        = (best? goals s waiting.reverse).or (best? goals s stack) := by
  -- Fuel goes down with each thread. One that is executed marks its address, and that pays for
  -- its successors, of which there are two at most.
  induction fuel generalizing stack waiting visited with
  | zero =>
      obtain rfl : stack = [] := List.length_eq_zero_iff.mp (by omega)
      exact ⟨hwaiting, rfl⟩
  | succ fuel ih =>
      cases stack with
      | nil => exact ⟨hwaiting, rfl⟩
      | cons t stack =>
          rw [List.length_cons] at hfuel
          by_cases hvisited : visited[t.next]? = some true
          · have hskip : advance program s.place (fuel + 1) (t :: stack) waiting visited
                = advance program s.place fuel stack waiting visited := by
              rw [advance, if_pos (by simp [hvisited])]
            obtain ⟨hwaits, hbest⟩ := ih hsize (by omega) hwaiting (h.drop hend hvisited)
            rw [hskip]
            refine ⟨hwaits, hbest.trans ?_⟩
            rw [best?_cons]
            -- The thread is dropped. If it is live, a thread that waits has come before it.
            by_cases hlive : Live goals s t.next
            · obtain ⟨u, hu, hlives⟩ := h.waiting_of_visited hend hvisited hlive
              have hfirst := (isSome_best? hblind).mpr ⟨u, List.mem_reverse.mpr hu, hlives⟩
              rw [Option.or_of_isSome hfirst, Option.or_of_isSome hfirst]
            · rw [live_iff hblind t.trail, Option.not_isSome_iff_eq_none] at hlive
              rw [hlive, Option.none_or]
          · cases hat : program[t.next]? with
            | none =>
                have hfound : advance program s.place (fuel + 1) (t :: stack) waiting visited
                    = ⟨waiting, some t.trail⟩ := by
                  rw [advance, if_neg (by simpa using hvisited)]
                  simp only [hat]
                rw [hfound, best?_cons, hres.eq_accept hat]
                exact ⟨hwaiting, rfl⟩
            | some instruction =>
                rw [advance_execute hvisited hat]
                -- The successors stand for the thread, and there is one unvisited address less.
                have hcount := count_setIfInBounds hvisited
                  (hsize ▸ (Array.getElem?_eq_some_iff.mp hat).1)
                have hsuccessors := t.length_successors_le s.place instruction
                obtain ⟨hwaits, hbest⟩ := ih (by rw [Array.size_setIfInBounds, hsize])
                  (by rw [List.length_append]; omega)
                  (mem_waits_append hat hwaiting) (h.execute hres hblind hat)
                refine ⟨hwaits, hbest.trans ?_⟩
                rw [List.reverse_append, best?_append, best?_append, best?_cons,
                  goal_eq_best? hres hat, Option.or_assoc, Option.or_assoc]
                cases instruction <;> rfl

/-- Puts a thread in front of others if it goes on over a character. -/
def eatOnto (program : Array Instruction) (c : Char) (threads : List Thread) (t : Thread) :
    List Thread :=
  match program[t.next]? with
  | some (.eat chars) => if chars.mem c then { t with next := t.next + 1 } :: threads else threads
  | _ => threads

/-- Threads eat a character one after another. -/
theorem eatChar_eq (c : Char) (waiting : List Thread) :
    eatChar program c waiting = waiting.foldl (eatOnto program c) [] :=
  rfl

/-- Behind the character, a thread stands for what it stood for in front of it. -/
theorem best?_eatOnto (hres : Resolves program goals) {c : Char} {rest : List Char}
    (hrest : s.rest = c :: rest) {t : Thread} {chars : CharSet}
    (hat : program[t.next]? = some (.eat chars)) (threads : List Thread) :
    best? goals (s.next c rest) (eatOnto program c threads t)
      = (goals t.next s t.trail).or (best? goals (s.next c rest) threads) := by
  have hgoal : goals t.next s t.trail = if chars.mem c
      then goals (t.next + 1) (s.next c rest) t.trail else none := by
    rw [hres.eq_goal hat, Instruction.goal, Goal.eat, hrest]
  rw [hgoal, eatOnto, hat]
  cases hmem : chars.mem c with
  | true => simp [hmem, best?_cons]
  | false => simp [hmem]

/-- The threads that go on over a character stand for those that waited for it. -/
theorem best?_eatChar (hres : Resolves program goals) {c : Char} {rest : List Char}
    (hrest : s.rest = c :: rest) {waiting : List Thread}
    (hwaiting : ∀ t ∈ waiting, ∃ chars, program[t.next]? = some (.eat chars)) :
    best? goals (s.next c rest) (eatChar program c waiting) = best? goals s waiting.reverse := by
  -- The fold puts each thread in front, so the threads come out in reverse.
  have hfold : ∀ threads : List Thread,
      best? goals (s.next c rest) (waiting.foldl (eatOnto program c) threads)
        = (best? goals s waiting.reverse).or (best? goals (s.next c rest) threads) := by
    induction waiting with
    | nil => exact fun threads => rfl
    | cons t waiting ih =>
        intro threads
        obtain ⟨chars, hat⟩ := hwaiting t List.mem_cons_self
        rw [List.foldl_cons, ih fun u hu => hwaiting u (List.mem_cons_of_mem _ hu),
          best?_eatOnto hres hrest hat, List.reverse_cons, best?_append, best?_cons, best?_nil,
          Option.or_none, Option.or_assoc]
  rw [eatChar_eq, hfold, best?_nil, Option.or_none]

/-- At the end of a text, threads wait in vain. -/
theorem best?_of_rest_nil (hres : Resolves program goals) (hrest : s.rest = [])
    {waiting : List Thread}
    (hwaiting : ∀ t ∈ waiting, ∃ chars, program[t.next]? = some (.eat chars)) :
    best? goals s waiting.reverse = none := by
  rw [best?, List.findSome?_eq_none_iff]
  intro t ht
  obtain ⟨chars, hat⟩ := hwaiting t (List.mem_reverse.mp ht)
  rw [hres.eq_goal hat, Instruction.goal, Goal.eat, hrest]

/-- One place of a search. -/
theorem best_advance_fresh (hres : Resolves program goals)
    (hblind : ∀ address, (goals address).Blind) (hend : WellFounded (Free program))
    (stack : List Thread) :
    ∃ waiting found?,
      advance program s.place (2 * program.size + stack.length + 1) stack []
          (Array.replicate program.size false) = ⟨waiting, found?⟩
        ∧ (∀ t ∈ waiting, ∃ chars, program[t.next]? = some (.eat chars))
        ∧ (best? goals s waiting.reverse).or found? = best? goals s stack := by
  -- No address is visited yet, so there is nothing to answer for.
  have hanswered : AllAnswered program goals s [] stack (Array.replicate program.size false) := by
    intro address hvisited
    rw [Array.getElem?_replicate] at hvisited
    split at hvisited <;> cases hvisited
  have hfuel : 2 * (Array.replicate program.size false).count false + stack.length
      ≤ 2 * program.size + stack.length + 1 := by
    rw [Array.count_replicate_self]
    omega
  obtain ⟨hwaits, hbest⟩ := best_advance hres hblind hend Array.size_replicate hfuel
    (by simp) hanswered
  exact ⟨_, _, rfl, hwaits, hbest⟩

end

/-- A match that no thread can improve is the answer. -/
theorem or_of_done {goals : Nat → Goal} {s : Spot} {found? : Option Trail}
    {threads : List Thread} (hdone : (found?.isSome && threads.isEmpty) = true)
    (later? : Option Trail) :
    ((best? goals s threads).or found?).or later? = found? := by
  rw [Bool.and_eq_true, List.isEmpty_iff] at hdone
  rw [hdone.2, best?_nil, Option.none_or, Option.or_of_isSome hdone.1]

/-- As long as nothing is found, a new thread starts behind all others. -/
theorem best?_newThread {goals : Nat → Goal} {s : Spot} (found? : Option Trail)
    (threads : List Thread) :
    (best? goals s (if found?.isNone then threads ++ [⟨0, []⟩] else threads)).or found?
      = ((best? goals s threads).or found?).or (goals 0 s []) := by
  cases found? with
  | none => simp [best?_append, best?_cons, best?_nil]
  | some trail => simp

/-- The search from a place on: the threads that have come there are preferred
to the best match so far, and that to matches which start at the place or
behind it. -/
theorem searchFrom_eq {r : Regex} {goals : Nat → Goal} (hres : Resolves r.program goals)
    (hblind : ∀ address, (goals address).Blind) (hend : WellFounded (Free r.program))
    (hfirst : goals 0 = r.attempt .accept) (found? : Option Trail) (threads : List Thread)
    (before : Option Char) (position : Nat) (text : List Char) :
    searchFrom r.program found? threads before position text
      = ((best? goals ⟨before, position, text⟩ threads).or found?).or
          (r.leftmostFrom? before position text) := by
  have hor (a b : Option Trail) : (a <|> b) = a.or b := by cases a <;> rfl
  induction text generalizing found? threads before position with
  | nil =>
      rw [searchFrom]
      split
      · next hdone => exact (or_of_done hdone _).symm
      · obtain ⟨waiting, here?, hadvance, hwaits, hbest⟩ :=
          best_advance_fresh (s := ⟨before, position, []⟩) hres hblind hend
            (if found?.isNone then threads ++ [⟨0, []⟩] else threads)
        rw [best?_of_rest_nil hres rfl hwaits, Option.none_or] at hbest
        rw [leftmostFrom?, ← hfirst, ← best?_newThread, ← hbest, ← hor]
        exact congrArg (fun front : Front => front.found? <|> found?) hadvance
  | cons c rest ih =>
      rw [searchFrom]
      split
      · next hdone => exact (or_of_done hdone _).symm
      · obtain ⟨waiting, here?, hadvance, hwaits, hbest⟩ :=
          best_advance_fresh (s := ⟨before, position, c :: rest⟩) hres hblind hend
            (if found?.isNone then threads ++ [⟨0, []⟩] else threads)
        rw [← best?_eatChar hres rfl hwaits] at hbest
        -- From the next place on, the threads that ate are preferred to what is found here.
        have hgo : _ = (((best? goals _ _).or (here?.or found?)).or
            (r.leftmostFrom? (some c) (position + 1) rest)) :=
          ih (here?.or found?) (eatChar r.program c waiting) (some c) (position + 1)
        rw [leftmostFrom?, ← Option.or_assoc, ← hfirst, ← best?_newThread, ← hbest,
          @Option.or_assoc _ (best? goals _ _)]
        refine Eq.trans ?_ hgo
        rw [← hor]
        exact congrArg (fun front : Front => searchFrom r.program (front.found? <|> found?)
          (eatChar r.program c front.waiting) (some c) (position + 1) rest) hadvance

/-- The search finds the leftmost match, and of matches with the same start the
one that backtracking finds first. -/
theorem search?_eq_leftmost? {r : Regex} (hloops : r.loopsConsume = true) (text : List Char) :
    r.search? text = r.leftmost? text := by
  obtain ⟨goals, hres, hblind, hfirst⟩ := exists_resolves hloops
  rw [search?, searchFrom_eq hres hblind (wellFounded_free hloops) hfirst, best?_nil,
    Option.or_none, Option.none_or, leftmost?]

end ScenarioSteps.Regex
