import Mathlib.Data.Bool.AllAny
import ScenarioSteps.Proofs.Script.Line
import ScenarioSteps.Proofs.Text.Trim
import ScenarioSteps.Script.Extract

/-!
# `ScenarioSteps.Proofs.Script.Standing`: where a line stands

Closed doc strings are found from the start of a script to its end. A
line that stands outside of them and begins with a fence opens one if a
later line begins with the same fence. The doc string then goes up to the
first such line. If there is none, the line is a *stray* fence.

`Script.marked` says this of lines and nothing else: it knows neither
steps nor headers, looks ahead for the closing fence and never goes back.
`Script.outside` are the lines outside of closed doc strings with their
numbers. The scan of `Script.extract` is compared with both.
-/

set_option autoImplicit false

namespace ScenarioSteps

/-- Where a line stands among the doc strings of its script. -/
inductive Standing where
  /-- Outside of every closed doc string. -/
  | outside
  /-- Outside as well, and a fence that no later line closes. -/
  | stray
  /-- In a closed doc string. Its fences are part of it. -/
  | inside
deriving Repr, DecidableEq

/-- The fence that a line begins with. -/
def Fence.opening? (line : List Char) : Option Fence :=
  [quotes, backticks].find? fun f => f.text.isPrefixOf (Text.trim line)

namespace Script

/-- Lines, each with where it stands. `around?` is the fence of the closed doc
string in which the first of them stands. -/
def marked : Option Fence → List (List Char) → List (Standing × List Char)
  | _, [] => []
  | some f, line :: rest =>
    (.inside, line) :: marked (if f.closedBy line then none else some f) rest
  | none, line :: rest =>
    match Fence.opening? line with
    | none => (.outside, line) :: marked none rest
    | some f =>
      if rest.any f.closedBy then (.inside, line) :: marked (some f) rest
      else (.stray, line) :: marked none rest

/-- The lines outside of closed doc strings, numbered from `first` on. -/
def outsideFrom (around? : Option Fence) (first : Nat) (lines : List (List Char)) :
    List NumberedLine :=
  ((marked around? lines).zipIdx first).filterMap fun ((standing, line), number) =>
    if standing = .inside then none else some (line, number)

/-- The lines of a script outside of its closed doc strings. -/
def outside (text : String) : List NumberedLine :=
  outsideFrom none 1 (Text.lines text.toList)

end Script

/-! ### The fence of a line -/

/-- The characters of a fence are no blanks. -/
theorem Fence.not_blank (f : Fence) : ∀ c ∈ f.text, Text.isBlank c = false := by
  cases f <;> exact List.all_iff_forall_prop.mp (by decide)

/-- The fence of a line is the one that begins it. -/
theorem Fence.opening?_eq_some_iff {line : List Char} {f : Fence} :
    Fence.opening? line = some f ↔ f.text <+: Text.trim line := by
  constructor
  · intro h
    unfold Fence.opening? at h
    have hprefix := List.find?_some h
    exact List.isPrefixOf_iff_prefix.mp hprefix
  · intro h
    -- No text begins with both fences.
    have hother : ∀ g : Fence, g ≠ f → g.text.isPrefixOf (Text.trim line) = false := by
      intro g hg
      rw [← Bool.not_eq_true, List.isPrefixOf_iff_prefix]
      exact not_begins h (by cases f <;> cases g <;> simp_all <;> decide)
    have hself := List.isPrefixOf_iff_prefix.mpr h
    cases f with
    | quotes => simp [opening?, hself]
    | backticks => simp [opening?, hself, hother quotes (by simp)]

/-- A doc string is closed by a line that begins with its fence. -/
theorem Fence.closedBy_iff {f : Fence} {line : List Char} :
    f.closedBy line = true ↔ Fence.opening? line = some f := by
  rw [opening?_eq_some_iff, Text.prefix_trim_iff f.not_blank, closedBy,
    List.isPrefixOf_iff_prefix]

/-- The carriage return of a line's end does not matter to its fence. -/
theorem Fence.opening?_dropReturn (line : List Char) :
    Fence.opening? (Text.dropReturn line) = Fence.opening? line := by
  unfold opening?
  rw [Text.trim_dropReturn]

/-- The carriage return at the end of a line does not matter to a fence. -/
theorem Fence.closedBy_dropReturn (f : Fence) (line : List Char) :
    f.closedBy (Text.dropReturn line) = f.closedBy line := by
  rw [Bool.eq_iff_iff, closedBy_iff, closedBy_iff, opening?_dropReturn]

/-- The carriage return of a line's end does not matter to its step. -/
theorem stepLine?_dropReturn (line : List Char) :
    stepLine? (Text.dropReturn line) = stepLine? line := by
  unfold stepLine?
  rw [Text.trim_dropReturn]

/-- The scan opens a doc string at the lines that begin with a fence. -/
theorem OpenDoc.map_fence_of? (line : List Char) :
    (OpenDoc.of? line).map OpenDoc.fence = Fence.opening? line := by
  cases h : Fence.opening? line with
  | some f =>
      obtain ⟨rest, hrest⟩ := Fence.opening?_eq_some_iff.mp h
      have hline := ScriptLine.of_eq_fence_iff.mpr ⟨rest, hrest.symm, rfl⟩
      simp [OpenDoc.of?, hline]
  | none =>
      unfold OpenDoc.of?
      split
      · rename_i f mediaType hline
        obtain ⟨rest, hrest, -⟩ := ScriptLine.of_eq_fence_iff.mp hline
        have hsome := Fence.opening?_eq_some_iff.mpr ⟨rest, hrest.symm⟩
        rw [hsome] at h
        contradiction
      · rfl

/-- A doc string keeps its fence while lines are added. -/
@[simp]
theorem OpenDoc.fence_add (doc : OpenDoc) (line : List Char) :
    (doc.add line).fence = doc.fence :=
  rfl

/-- Numbers do not matter to whether a doc string is closed. -/
theorem Fence.any_closedBy_zipIdx (f : Fence) (lines : List (List Char)) (first : Nat) :
    (lines.zipIdx first).any (f.closedBy ·.1) = lines.any f.closedBy := by
  conv_rhs => rw [← List.zipIdx_map_fst first lines, List.any_map]
  rfl

/-! ### The lines outside of closed doc strings, one by one -/

namespace Script

/-- Lines are kept as they are and in their order. -/
theorem map_snd_marked (around? : Option Fence) (lines : List (List Char)) :
    (marked around? lines).map Prod.snd = lines := by
  induction lines generalizing around? with
  | nil => cases around? <;> rfl
  | cons line rest ih =>
      cases around? with
      | some f => simp [marked, ih]
      | none =>
          simp only [marked]
          split
          · simp [ih]
          · split <;> simp [ih]

/-- No lines stand outside if there are none. -/
theorem outsideFrom_nil (around? : Option Fence) (first : Nat) :
    outsideFrom around? first [] = [] := by
  cases around? <;> rfl

/-- A line within a doc string is not among the lines outside. -/
theorem outsideFrom_inside_cons (f : Fence) (first : Nat) (line : List Char)
    (rest : List (List Char)) :
    outsideFrom (some f) first (line :: rest)
      = outsideFrom (if f.closedBy line then none else some f) (first + 1) rest := by
  simp [outsideFrom, marked, List.zipIdx_cons]

/-- A line outside is one of them, unless it opens a doc string that is closed. -/
theorem outsideFrom_none_cons (first : Nat) (line : List Char) (rest : List (List Char)) :
    outsideFrom none first (line :: rest)
      = match Fence.opening? line with
        | none => (line, first) :: outsideFrom none (first + 1) rest
        | some f =>
          if rest.any f.closedBy then outsideFrom (some f) (first + 1) rest
          else (line, first) :: outsideFrom none (first + 1) rest := by
  cases hfence : Fence.opening? line with
  | none => simp [outsideFrom, marked, hfence, List.zipIdx_cons]
  | some f =>
      cases hclosed : rest.any f.closedBy <;>
        simp only [outsideFrom, marked, hfence, hclosed] <;> rfl

/-- What is numbered comes in the order of its numbers. -/
theorem pairwise_zipIdx {α : Type} (as : List α) (first : Nat) :
    (as.zipIdx first).Pairwise (·.2 < ·.2) := by
  rw [← List.pairwise_map (f := Prod.snd), List.zipIdx_map_snd]
  exact List.pairwise_lt_range'

/-- The lines outside of closed doc strings come in the order of their numbers. -/
theorem pairwise_outsideFrom (around? : Option Fence) (first : Nat)
    (lines : List (List Char)) :
    (outsideFrom around? first lines).Pairwise (·.2 < ·.2) := by
  refine (pairwise_zipIdx (marked around? lines) first).filterMap _ ?_
  rintro ⟨⟨standing, line⟩, number⟩ ⟨⟨standing', line'⟩, number'⟩ hlt kept hkept kept' hkept'
  simp only [Option.ite_none_left_eq_some, Option.some.injEq] at hkept hkept'
  obtain ⟨-, rfl⟩ := hkept
  obtain ⟨-, rfl⟩ := hkept'
  exact hlt

/-- The numbers of the lines outside grow. -/
theorem pairwise_outside (text : String) : (outside text).Pairwise (·.2 < ·.2) :=
  pairwise_outsideFrom none 1 (Text.lines text.toList)

end Script

end ScenarioSteps
