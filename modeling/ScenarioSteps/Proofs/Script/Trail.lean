import Mathlib.Data.List.Chain
import ScenarioSteps.Proofs.Script.OnePass

/-!
# `ScenarioSteps.Proofs.Script.Trail`: how a scan comes to its end

A scan goes back when the script ends inside a doc string, so the number of lines that it has
read does not only grow. `Position.trail` is the list of all positions that it takes.

* `jumps_eq_straysFrom`: the scan goes back behind the stray fences of the script, behind each of
  them once and in their order. `Script.strays` finds them by looking ahead (`Script.marked`).
* `Within.isChain_index`: at every other position, the scan reads one more line.
* `Script.scan_ends` puts this together.

The induction of `jumps_eq_straysFrom` is on the lines that are still to be read. A doc string
that is never closed is read to the end of the script and changes nothing, so the scan comes back
to the very lines that the induction goes on with (`jumps_inside_of_open`).
-/

set_option autoImplicit false

namespace ScenarioSteps

namespace Position

variable {policy : ConjunctionPolicy}

/-- All positions that a scan takes from a position on. -/
def trail (policy : ConjunctionPolicy) (p : Position) : List Position :=
  match _ : p.next? policy with
  | none => [p]
  | some q => p :: q.trail policy
termination_by p.toGo
decreasing_by exact toGo_next? ‹_›

/-- How many of so many lines have been read. -/
def index (total : Nat) (p : Position) : Nat :=
  total - p.rest.length

/-- How many lines have been read again where a scan goes back, if it does so next. This is also
the number of the line with the fence behind which it goes back. -/
def jump? (total : Nat) : Position → Option Nat
  | ⟨_, some (_, following), []⟩ => some (total - following.length)
  | _ => none

/-! ### A trail, position by position -/

/-- At its end a scan takes no more positions. -/
theorem trail_of_none {p : Position} (h : p.next? policy = none) : p.trail policy = [p] := by
  rw [trail]
  split <;> simp_all

/-- Before that, its trail goes on with the trail of the next position. -/
theorem trail_of_some {p q : Position} (h : p.next? policy = some q) :
    p.trail policy = p :: q.trail policy := by
  rw [trail]
  split <;> simp_all

/-- A trail begins with the position itself. -/
theorem head?_trail (p : Position) : (p.trail policy).head? = some p := by
  cases h : p.next? policy with
  | none => rw [trail_of_none h, List.head?_cons]
  | some q => rw [trail_of_some h, List.head?_cons]

/-- A scan ends where nothing is left to read. -/
theorem getLast?_trail (policy : ConjunctionPolicy) (p : Position) :
    ∃ last, (p.trail policy).getLast? = some last ∧ last.next? policy = none
      ∧ last.scan = p.run policy := by
  induction p using trail.induct policy with
  | case1 p h =>
      refine ⟨p, by rw [trail_of_none h]; rfl, h, ?_⟩
      rw [run_eq, h]
  | case2 p q h ih =>
      obtain ⟨last, hlast, hend, hscan⟩ := ih
      refine ⟨last, ?_, hend, ?_⟩
      · rw [trail_of_some h, List.getLast?_cons, hlast, Option.getD_some]
      · rw [hscan, run_eq p, h]

/-! ### Where a scan stands -/

/-- What a scan of lines still has to read, and what it may come back to, are lines at their
end. -/
structure Within (lines : List NumberedLine) (p : Position) : Prop where
  rest : p.rest <:+ lines
  following : ∀ open? ∈ p.doc?, open?.2 <:+ lines

variable {lines : List NumberedLine}

/-- The lines that are left are those behind the ones that have been read. -/
theorem Within.rest_eq {p : Position} (h : p.Within lines) :
    p.rest = lines.drop (p.index lines.length) :=
  List.suffix_iff_eq_drop.mp h.rest

/-- Each step of a scan reads one more line, unless it goes back. -/
theorem Within.next? {p q : Position} (h : p.Within lines) (hnext : p.next? policy = some q) :
    q.Within lines ∧ q.index lines.length
      = (p.jump? lines.length).getD (p.index lines.length + 1) := by
  -- Where a line is read, the rest is shorter by it and the index is one more.
  have hread {line : NumberedLine} {rest : List NumberedLine} (hsuffix : line :: rest <:+ lines) :
      rest <:+ lines ∧ lines.length - rest.length = lines.length - (line :: rest).length + 1 := by
    have hlength := hsuffix.length_le
    rw [List.length_cons] at hlength ⊢
    exact ⟨(List.suffix_cons line rest).trans hsuffix, by omega⟩
  have hnone : ∀ open? ∈ (none : Option (OpenDoc × List NumberedLine)), open?.2 <:+ lines :=
    fun _ hopen => absurd hopen (Option.not_mem_none _)
  obtain ⟨scan, doc?, rest⟩ := p
  cases rest with
  | nil =>
      cases doc? with
      | none => cases hnext
      | some opened =>
          cases hnext
          -- At the end of the script inside a doc string, the scan goes back behind its fence.
          exact ⟨⟨h.following opened rfl, hnone⟩, rfl⟩
  | cons line rest =>
      obtain ⟨hrest, hindex⟩ := hread h.rest
      cases doc? with
      | some opened =>
          have hfollowing : opened.2 <:+ lines := h.following opened rfl
          rw [Position.next?] at hnext
          split at hnext <;> cases hnext
          · exact ⟨⟨hrest, hnone⟩, hindex⟩
          · refine ⟨⟨hrest, ?_⟩, hindex⟩
            rintro _ ⟨⟩
            exact hfollowing
      | none =>
          rw [Position.next?] at hnext
          split at hnext <;> cases hnext
          · refine ⟨⟨hrest, ?_⟩, hindex⟩
            rintro _ ⟨⟩
            exact hrest
          · exact ⟨⟨hrest, hnone⟩, hindex⟩

/-- All positions of a trail are within the lines that the first one is within. -/
theorem Within.trail {p : Position} (h : p.Within lines) :
    ∀ q ∈ p.trail policy, q.Within lines := by
  induction p using Position.trail.induct policy with
  | case1 p hend =>
      rw [trail_of_none hend]
      exact List.forall_mem_singleton.mpr h
  | case2 p q hnext ih =>
      rw [trail_of_some hnext, List.forall_mem_cons]
      exact ⟨h, ih (h.next? hnext).1⟩

/-- Each position of a trail is the next one after the one before. -/
theorem isChain_trail (p : Position) :
    (p.trail policy).IsChain fun q r => q.next? policy = some r := by
  induction p using Position.trail.induct policy with
  | case1 p hend =>
      rw [trail_of_none hend]
      exact List.isChain_singleton p
  | case2 p q hnext ih =>
      rw [trail_of_some hnext, List.isChain_cons]
      refine ⟨fun r hr => ?_, ih⟩
      rw [head?_trail] at hr
      cases hr
      exact hnext

/-- Between two positions of a trail, one more line has been read, unless the scan goes
back. -/
theorem Within.isChain_index {p : Position} (h : p.Within lines) :
    (p.trail policy).IsChain fun q r =>
      r.index lines.length = (q.jump? lines.length).getD (q.index lines.length + 1) := by
  have hwithin : ∀ q ∈ p.trail policy, q.Within lines := h.trail
  exact (isChain_trail p).imp_of_mem_imp fun q r hq _ hnext => ((hwithin q hq).next? hnext).2

end Position

/-! ### Stray fences -/

namespace Script

/-- The numbers of the stray fences of lines, which are numbered from `first` on. -/
def straysFrom (around? : Option Fence) (first : Nat) (lines : List (List Char)) : List Nat :=
  ((marked around? lines).zipIdx first).filterMap fun ((standing, _), number) =>
    if standing = .stray then some number else none

/-- The numbers of the stray fences of a script. -/
def strays (text : String) : List Nat :=
  straysFrom none 1 (Text.lines text.toList)

/-- A line within a doc string is no stray, and may close the doc string. -/
theorem straysFrom_inside_cons (f : Fence) (first : Nat) (line : List Char)
    (rest : List (List Char)) :
    straysFrom (some f) first (line :: rest)
      = straysFrom (if f.closedBy line then none else some f) (first + 1) rest := by
  simp [straysFrom, marked, List.zipIdx_cons]

/-- A line outside is a stray if it opens a doc string that nothing closes. -/
theorem straysFrom_none_cons (first : Nat) (line : List Char) (rest : List (List Char)) :
    straysFrom none first (line :: rest)
      = match Fence.opening? line with
        | none => straysFrom none (first + 1) rest
        | some f =>
          if rest.any f.closedBy then straysFrom (some f) (first + 1) rest
          else first :: straysFrom none (first + 1) rest := by
  cases hfence : Fence.opening? line with
  | none => simp [straysFrom, marked, hfence, List.zipIdx_cons]
  | some f =>
      cases hclosed : rest.any f.closedBy <;>
        simp only [straysFrom, marked, hfence, hclosed] <;> rfl

/-- Stray fences are found in the order of their numbers. -/
theorem pairwise_strays (text : String) : (strays text).Pairwise (· < ·) := by
  refine (pairwise_zipIdx (marked none (Text.lines text.toList)) 1).filterMap _ ?_
  rintro ⟨⟨standing, _⟩, number⟩ ⟨⟨standing', _⟩, number'⟩ hlt kept hkept kept' hkept'
  simp only [Option.ite_none_right_eq_some, Option.some.injEq] at hkept hkept'
  rw [← hkept.2, ← hkept'.2]
  exact hlt

/-- A stray fence is a line that begins with a fence. -/
theorem isSome_opening?_of_stray {line : List Char} :
    ∀ (lines : List (List Char)) (around? : Option Fence),
      (.stray, line) ∈ marked around? lines → (Fence.opening? line).isSome := by
  intro lines
  induction lines with
  | nil =>
      intro around? h
      cases around? <;> simp [marked] at h
  | cons own rest ih =>
      intro around? h
      cases around? with
      | some f =>
          rw [marked] at h
          exact ih _ ((List.mem_cons.mp h).resolve_left (by simp))
      | none =>
          cases hfence : Fence.opening? own with
          | none =>
              rw [marked, hfence] at h
              exact ih _ ((List.mem_cons.mp h).resolve_left (by simp))
          | some f =>
              -- A fence with a closing fence below opens a doc string, and any other one is
              -- stray.
              simp only [marked, hfence] at h
              split at h
              · exact ih _ ((List.mem_cons.mp h).resolve_left (by simp))
              · rcases List.mem_cons.mp h with heq | hrest
                · rw [(Prod.mk.inj heq).2, hfence]
                  rfl
                · exact ih _ hrest

/-- There are at most as many stray fences as lines that begin with a fence. -/
theorem length_strays_le (text : String) :
    (strays text).length
      ≤ (Text.lines text.toList).countP fun line => (Fence.opening? line).isSome := by
  have hlines : (Text.lines text.toList).countP (fun line => (Fence.opening? line).isSome)
      = ((marked none (Text.lines text.toList)).zipIdx 1).countP
        fun marked => (Fence.opening? marked.1.2).isSome := by
    conv_lhs => rw [← map_snd_marked none (Text.lines text.toList),
      ← List.zipIdx_map_fst 1 (marked none (Text.lines text.toList)), List.countP_map, List.countP_map]
    rfl
  rw [hlines, strays, straysFrom, List.length_filterMap_eq_countP]
  refine List.countP_mono_left ?_
  rintro ⟨⟨standing, line⟩, number⟩ hmem hstray
  have hstanding : standing = .stray := by simpa using hstray
  exact isSome_opening?_of_stray _ none (hstanding ▸ List.fst_mem_of_mem_zipIdx hmem)

end Script

namespace Position

variable {policy : ConjunctionPolicy}

/-! ### Where a scan goes back -/

/-- Where a scan goes back, from a position on. -/
def jumps (policy : ConjunctionPolicy) (total : Nat) (p : Position) : List Nat :=
  (p.trail policy).filterMap (jump? total)

variable {total : Nat}

/-- Without lines there is nothing to go back to. -/
theorem jumps_nil (s : Scan) : jumps policy total ⟨s, none, []⟩ = [] := by
  rw [jumps, trail_of_none rfl]
  rfl

/-- At the end of a script, an open doc string sends the scan back behind its fence. -/
theorem jumps_back (s : Scan) (doc : OpenDoc) (following : List NumberedLine) :
    jumps policy total ⟨s, some (doc, following), []⟩
      = (total - following.length) :: jumps policy total ⟨s, none, following⟩ := by
  rw [jumps, trail_of_some rfl]
  rfl

/-- Within a doc string, a line closes it or is added to it. -/
theorem jumps_inside_cons (s : Scan) (doc : OpenDoc) (following rest : List NumberedLine)
    (line : NumberedLine) :
    jumps policy total ⟨s, some (doc, following), line :: rest⟩
      = if doc.fence.closedBy line.1 then jumps policy total ⟨s.docString doc.close, none, rest⟩
        else jumps policy total ⟨s, some (doc.add line.1, following), rest⟩ := by
  cases hclosed : doc.fence.closedBy line.1 <;>
    rw [jumps, trail_of_some (by rw [Position.next?, hclosed]; rfl)] <;> rfl

/-- Outside, a line opens a doc string or is read. -/
theorem jumps_outside_cons (s : Scan) (rest : List NumberedLine) (line : NumberedLine) :
    jumps policy total ⟨s, none, line :: rest⟩
      = match OpenDoc.of? line.1 with
        | some doc => jumps policy total ⟨s, some (doc, rest), rest⟩
        | none => jumps policy total ⟨s.line policy line.1 line.2, none, rest⟩ := by
  cases hopened : OpenDoc.of? line.1 <;>
    rw [jumps, trail_of_some (by rw [Position.next?, hopened])] <;> rfl

/-- A doc string that no line closes is read to the end of the script. Then the scan goes back
behind its fence. -/
theorem jumps_inside_of_open (s : Scan) (following : List NumberedLine) :
    ∀ (rest : List NumberedLine) (doc : OpenDoc), rest.any (doc.fence.closedBy ·.1) = false →
      jumps policy total ⟨s, some (doc, following), rest⟩
        = (total - following.length) :: jumps policy total ⟨s, none, following⟩ := by
  intro rest
  induction rest with
  | nil => intro doc _; exact jumps_back s doc following
  | cons line rest ih =>
      intro doc hopen
      rw [List.any_cons, Bool.or_eq_false_iff] at hopen
      rw [jumps_inside_cons, hopen.1]
      exact ih (doc.add line.1) hopen.2

/-- A scan goes back behind the stray fences among the lines that it has still to read, in their
order. If it stands in a doc string, this is one that is closed. -/
theorem jumps_eq_straysFrom (lines : List (List Char)) :
    ∀ (s : Scan) (doc? : Option (OpenDoc × List NumberedLine)) (first : Nat),
      first + lines.length = total + 1 →
      (∀ open? ∈ doc?, lines.any open?.1.fence.closedBy = true) →
      jumps policy total ⟨s, doc?, lines.zipIdx first⟩
        = Script.straysFrom (doc?.map (·.1.fence)) first lines := by
  induction lines with
  | nil =>
      intro s doc? first _ hclosed
      cases doc? with
      | none => exact jumps_nil s
      | some opened => exact absurd (hclosed opened rfl) Bool.false_ne_true
  | cons line rest ih =>
      intro s doc? first htotal hclosed
      rw [List.length_cons] at htotal
      have htotal' : first + 1 + rest.length = total + 1 := by omega
      rw [List.zipIdx_cons]
      cases doc? with
      | some opened =>
          obtain ⟨doc, following⟩ := opened
          have hlater := hclosed (doc, following) rfl
          rw [List.any_cons] at hlater
          rw [jumps_inside_cons, Option.map_some, Script.straysFrom_inside_cons]
          cases hline : doc.fence.closedBy line with
          | true => exact ih _ none (first + 1) htotal' nofun
          | false =>
              rw [hline, Bool.false_or] at hlater
              refine ih s (some (doc.add line, following)) (first + 1) htotal' ?_
              rintro _ ⟨⟩
              exact hlater
      | none =>
          rw [jumps_outside_cons, Option.map_none, Script.straysFrom_none_cons,
            ← OpenDoc.map_fence_of? line]
          cases hdoc : OpenDoc.of? line with
          | none => exact ih _ none (first + 1) htotal' nofun
          | some doc =>
              simp only [Option.map_some]
              cases hlater : rest.any doc.fence.closedBy with
              | true =>
                  refine ih s (some (doc, _)) (first + 1) htotal' ?_
                  rintro _ ⟨⟩
                  exact hlater
              | false =>
                  -- The scan comes back to the same lines, from which the induction goes on.
                  have hopen : (rest.zipIdx (first + 1)).any (doc.fence.closedBy ·.1) = false := by
                    rw [Fence.any_closedBy_zipIdx, hlater]
                  have hnumber : total - (rest.zipIdx (first + 1)).length = first := by
                    rw [List.length_zipIdx]
                    omega
                  rw [jumps_inside_of_open s _ _ doc hopen, hnumber, if_neg Bool.false_ne_true]
                  exact congrArg (first :: ·) (ih s none (first + 1) htotal' nofun)

end Position

namespace Script

/-- The scan of a script ends. It takes finitely many positions, each the next one after the one
before, and the last one is the end, where all has been extracted. Between two positions one
more line is read, but where the script ends inside a doc string, the scan goes back to the line
right behind the fence that opened it. These fences are the stray fences of the script, each
once and in their order. So each is further down than the one before, and there are at most as
many ways back as lines that begin with a fence. -/
theorem scan_ends (policy : ConjunctionPolicy) (text : String) :
    let lines := (Text.lines text.toList).zipIdx 1
    let start : Position := { scan := {}, rest := lines }
    let trail := start.trail policy
    let jumps := trail.filterMap (Position.jump? lines.length)
    trail.head? = some start
      ∧ trail.IsChain (fun p q => p.next? policy = some q)
      ∧ (∃ last, trail.getLast? = some last ∧ last.next? policy = none
          ∧ last.scan.script = extract policy text)
      ∧ (∀ p ∈ trail, p.rest = lines.drop (p.index lines.length))
      ∧ trail.IsChain (fun p q => q.index lines.length
          = (p.jump? lines.length).getD (p.index lines.length + 1))
      ∧ jumps = strays text
      ∧ jumps.Pairwise (· < ·)
      ∧ jumps.length
        ≤ (Text.lines text.toList).countP fun line => (Fence.opening? line).isSome := by
  intro lines start trail jumps
  -- No position leaves the lines of the script, which is what the indices rest on.
  have hwithin : start.Within lines := ⟨List.suffix_rfl, nofun⟩
  have hjumps : jumps = strays text := by
    refine Position.jumps_eq_straysFrom (Text.lines text.toList) {} none 1 ?_ nofun
    rw [List.length_zipIdx, Nat.add_comm]
  obtain ⟨last, hlast, hend, hscan⟩ := Position.getLast?_trail policy start
  refine ⟨Position.head?_trail start, Position.isChain_trail start,
    ⟨last, hlast, hend, congrArg Scan.script hscan⟩,
    fun p hp => (hwithin.trail p hp).rest_eq, hwithin.isChain_index, hjumps, ?_, ?_⟩
  · rw [hjumps]
    exact pairwise_strays text
  · rw [hjumps]
    exact length_strays_le text

end Script

end ScenarioSteps
