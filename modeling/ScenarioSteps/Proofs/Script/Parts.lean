import ScenarioSteps.Proofs.Script.Outside

/-!
# `ScenarioSteps.Proofs.Script.Parts`: lines and closed doc strings in their order

`Script.parts` cuts a script into the lines outside of its closed doc strings and
these doc strings. It looks ahead for the closing fence as `Script.marked` does, and
says besides what a doc string holds: the lines between its fences, without the
indentation of the first fence.

* `Scan.onePass_eq_foldl`: the scan takes in one part after the other, so facts about
  all that it extracts go by induction over the parts.
* `filterMap_line?_parts`: the lines among the parts are those of `Script.outside`.

Both are proved by the length of the script, since a doc string takes many lines at once.
The split of `exists_closing` gives the lines up to the closing fence.
-/

set_option autoImplicit false

namespace ScenarioSteps

/-- The doc string that an opening line and the lines up to the closing fence make. -/
def DocString.ofLines (f : Fence) (opening : List Char) (lines : List (List Char)) :
    DocString where
  mediaType? := Scan.nonempty? (Text.trim ((Text.trim opening).drop f.text.length))
  content := String.ofList
    (Text.joinLines (lines.map (Text.dropIndent (opening.takeWhile Text.isBlank).length)))

/-- What a script is made of: lines outside of closed doc strings, and closed doc
strings. -/
inductive Part where
  | line (line : NumberedLine)
  | docString (doc : DocString)
deriving Repr, DecidableEq

namespace Part

/-- The line that a part is. -/
def line? : Part → Option NumberedLine
  | .line l => some l
  | .docString _ => none

/-- The doc string that a part is. -/
def docString? : Part → Option DocString
  | .line _ => none
  | .docString doc => some doc

end Part

namespace Script

/-- The fence with which a line opens a closed doc string, if it does. -/
def closedFence? (line : List Char) (rest : List NumberedLine) : Option Fence :=
  (Fence.opening? line).filter fun f => rest.any (f.closedBy ·.1)

/-- The parts of a script from its lines. -/
def partsFrom : List NumberedLine → List Part
  | [] => []
  | line :: rest =>
    match closedFence? line.1 rest with
    | none => .line line :: partsFrom rest
    | some f =>
      let inner := rest.takeWhile (!f.closedBy ·.1)
      .docString (.ofLines f line.1 (inner.map Prod.fst))
        :: partsFrom (rest.drop (inner.length + 1))
termination_by lines => lines.length
decreasing_by
  · exact Nat.lt_succ_self _
  · simp only [List.length_drop, List.length_cons]
    omega

/-- The parts of a script. -/
def parts (text : String) : List Part :=
  partsFrom ((Text.lines text.toList).zipIdx 1)

/-! ### The lines up to the closing fence -/

/-- The first line that closes a doc string splits the lines behind its opening. -/
theorem exists_closing {f : Fence} {rest : List NumberedLine}
    (h : rest.any (f.closedBy ·.1) = true) :
    ∃ inner closing after, rest = inner ++ closing :: after
      ∧ (∀ line ∈ inner, f.closedBy line.1 = false) ∧ f.closedBy closing.1 = true := by
  obtain ⟨closing, hfind⟩ := Option.isSome_iff_exists.mp (List.find?_isSome.mpr
    (List.any_eq_true.mp h))
  obtain ⟨hclosing, inner, after, hrest, hinner⟩ := List.find?_eq_some_iff_append.mp hfind
  exact ⟨inner, closing, after, hrest, fun line hline => by simpa using hinner line hline,
    hclosing⟩

/-- A line has a closed fence if it opens a doc string that a later line closes. -/
theorem closedFence?_eq_some_iff {line : List Char} {rest : List NumberedLine} {f : Fence} :
    closedFence? line rest = some f
      ↔ Fence.opening? line = some f ∧ rest.any (f.closedBy ·.1) = true :=
  Option.filter_eq_some_iff

/-- A line without one is a part by itself. -/
theorem partsFrom_cons_of_none {line : NumberedLine} {rest : List NumberedLine}
    (h : closedFence? line.1 rest = none) :
    partsFrom (line :: rest) = .line line :: partsFrom rest := by
  rw [partsFrom, h]

/-- A closed doc string is one part. -/
theorem partsFrom_cons_of_closed {line closing : NumberedLine} {inner after : List NumberedLine}
    {f : Fence} (hopening : Fence.opening? line.1 = some f)
    (hinner : ∀ line ∈ inner, f.closedBy line.1 = false)
    (hclosing : f.closedBy closing.1 = true) :
    partsFrom (line :: (inner ++ closing :: after))
      = .docString (.ofLines f line.1 (inner.map Prod.fst)) :: partsFrom after := by
  have hclosed : closedFence? line.1 (inner ++ closing :: after) = some f :=
    closedFence?_eq_some_iff.mpr ⟨hopening, by simp [hclosing]⟩
  have htake : (inner ++ closing :: after).takeWhile (!f.closedBy ·.1) = inner := by
    rw [List.takeWhile_append_of_pos fun line hline => by simp [hinner line hline],
      List.takeWhile_cons_of_neg (by simp [hclosing]), List.append_nil]
  rw [partsFrom, hclosed]
  simp only [htake]
  rw [show (inner ++ closing :: after).drop (inner.length + 1) = after by simp]

/-- Lines that open no doc string are parts each. -/
theorem partsFrom_append {lines : List NumberedLine}
    (h : ∀ line ∈ lines, Fence.opening? line.1 = none) (rest : List NumberedLine) :
    partsFrom (lines ++ rest) = lines.map .line ++ partsFrom rest := by
  induction lines with
  | nil => rfl
  | cons line lines ih =>
      rw [List.forall_mem_cons] at h
      have hclosed : closedFence? line.1 (lines ++ rest) = none := by
        rw [closedFence?, h.1, Option.filter_none]
      rw [List.cons_append, partsFrom_cons_of_none hclosed, ih h.2]
      rfl

/-- Behind a line that is a part, the parts are those of the lines behind it. -/
theorem exists_of_mem_partsFrom {lines : List NumberedLine} {line : NumberedLine}
    (h : .line line ∈ partsFrom lines) :
    ∃ above below before, lines = above ++ line :: below
      ∧ partsFrom lines = before ++ .line line :: partsFrom below := by
  -- The induction is on the parts, since a doc string takes many lines at once.
  induction lines using partsFrom.induct with
  | case1 => simp [partsFrom] at h
  | case2 first rest hclosed ih =>
      rw [partsFrom_cons_of_none hclosed] at h ⊢
      rcases List.mem_cons.mp h with heq | hrest
      · obtain rfl := Part.line.inj heq
        exact ⟨[], rest, [], rfl, rfl⟩
      · obtain ⟨above, below, before, rfl, hparts⟩ := ih hrest
        exact ⟨first :: above, below, .line first :: before, rfl, by rw [hparts]; rfl⟩
  | case3 first rest f hclosed inner ih =>
      rw [partsFrom, hclosed] at h ⊢
      obtain ⟨above, below, before, hrest, hparts⟩ := ih ((List.mem_cons.mp h).resolve_left nofun)
      refine ⟨first :: (rest.take (inner.length + 1) ++ above), below,
        .docString (.ofLines f first.1 (inner.map Prod.fst)) :: before, ?_, ?_⟩
      · rw [List.cons_append, List.append_assoc, ← hrest, List.take_append_drop]
      · rw [List.cons_append, ← hparts]

end Script

/-! ### The scan of parts -/

/-- A doc string that is closed holds the lines that were added. -/
theorem OpenDoc.close_foldl_add (lines : List (List Char)) :
    ∀ doc : OpenDoc, (lines.foldl OpenDoc.add doc).close
      = ⟨Scan.nonempty? doc.mediaType, String.ofList (Text.joinLines
          (doc.content.reverse ++ lines.map (Text.dropIndent doc.indent)))⟩ := by
  induction lines with
  | nil => intro doc; simp [close]
  | cons line rest ih =>
      intro doc
      rw [List.foldl_cons, ih]
      simp [add]

/-- The doc string that a scan opens at a line. -/
theorem OpenDoc.close_of_opening {line : List Char} {f : Fence} {doc : OpenDoc}
    (hopening : Fence.opening? line = some f) (hdoc : OpenDoc.of? line = some doc)
    (lines : List (List Char)) :
    (lines.foldl OpenDoc.add doc).close = .ofLines f line lines := by
  obtain ⟨rest, hrest⟩ := Fence.opening?_eq_some_iff.mp hopening
  have hline := ScriptLine.of_eq_fence_iff.mpr ⟨rest, hrest.symm, rfl⟩
  rw [OpenDoc.of?, hline, Option.some.injEq] at hdoc
  subst hdoc
  rw [close_foldl_add, DocString.ofLines, ← hrest, List.drop_left]
  rfl

namespace Scan

/-- Passes a part of a script. -/
def passPart (policy : ConjunctionPolicy) (s : Scan) : Part → Scan
  | .line line => s.pass policy line
  | .docString doc => s.docString doc

variable (policy : ConjunctionPolicy)

/-- A doc string is read up to its closing fence. -/
theorem onePass_inside (s : Scan) {closing : NumberedLine} (inner after : List NumberedLine) :
    ∀ doc : OpenDoc, (∀ line ∈ inner, doc.fence.closedBy line.1 = false) →
      doc.fence.closedBy closing.1 = true →
      onePass policy s (some doc) (inner ++ closing :: after)
        = onePass policy (s.docString ((inner.map Prod.fst).foldl OpenDoc.add doc).close) none
            after := by
  induction inner with
  | nil =>
      intro doc _ hclosing
      rw [List.nil_append, onePass, if_pos hclosing]
      rfl
  | cons line inner ih =>
      intro doc hinner hclosing
      rw [List.forall_mem_cons] at hinner
      rw [List.cons_append, onePass, if_neg (by simp [hinner.1])]
      exact ih (doc.add line.1) hinner.2 hclosing

/-- A line that opens no closed doc string is passed. -/
theorem onePass_cons_of_none (s : Scan) {line : NumberedLine} {rest : List NumberedLine}
    (h : Script.closedFence? line.1 rest = none) :
    onePass policy s none (line :: rest) = onePass policy (s.pass policy line) none rest := by
  have hfence := OpenDoc.map_fence_of? line.1
  rw [onePass]
  cases hdoc : OpenDoc.of? line.1 with
  | none => rfl
  | some doc =>
      rw [hdoc, Option.map_some] at hfence
      have hopen : rest.any (doc.fence.closedBy ·.1) = false := by
        rw [Script.closedFence?, ← hfence] at h
        simpa using h
      -- A stray fence leaves the scan as it is.
      simp only [hopen, Bool.false_eq_true, if_false]
      rw [pass_of_fence s line hdoc]

/-- The scan takes in one part after the other. -/
theorem onePass_eq_foldl :
    ∀ (n : Nat) (lines : List NumberedLine), lines.length ≤ n →
      ∀ s : Scan, onePass policy s none lines
        = (Script.partsFrom lines).foldl (passPart policy) s := by
  -- The induction is on a bound for the lines, since a part in fences takes several at once.
  intro n
  induction n with
  | zero =>
      intro lines hlength s
      rw [List.eq_nil_of_length_eq_zero (Nat.le_zero.mp hlength), onePass, Script.partsFrom,
        List.foldl_nil]
  | succ n ih =>
      intro lines hlength s
      cases lines with
      | nil => rw [onePass, Script.partsFrom, List.foldl_nil]
      | cons line rest =>
          have hrest : rest.length ≤ n := Nat.le_of_succ_le_succ hlength
          cases hclosed : Script.closedFence? line.1 rest with
          | none =>
              rw [onePass_cons_of_none policy s hclosed, Script.partsFrom_cons_of_none hclosed]
              exact ih rest hrest _
          | some f =>
              obtain ⟨hopening, hany⟩ := Script.closedFence?_eq_some_iff.mp hclosed
              obtain ⟨inner, closing, after, rfl, hinner, hclosing⟩ := Script.exists_closing hany
              obtain ⟨doc, hdoc, rfl⟩ := Option.map_eq_some_iff.mp
                ((OpenDoc.map_fence_of? line.1).trans hopening)
              have hafter : after.length ≤ n := by
                simp only [List.length_append, List.length_cons] at hrest
                omega
              rw [Script.partsFrom_cons_of_closed hopening hinner hclosing, List.foldl_cons,
                onePass, hdoc]
              simp only [hany, if_true]
              rw [onePass_inside policy s inner after doc hinner hclosing,
                OpenDoc.close_of_opening hopening hdoc]
              exact ih after hafter _

end Scan

namespace Script

/-- A script is what a scan of its parts extracts. -/
theorem extract_eq_foldl (policy : ConjunctionPolicy) (text : String) :
    extract policy text = ((parts text).foldl (Scan.passPart policy) {}).script := by
  rw [extract_eq_onePass, parts, Scan.onePass_eq_foldl policy _ _ (Nat.le_refl _)]

/-! ### The lines among the parts -/

/-- A closed doc string has no lines outside. -/
theorem outsideFrom_inside {f : Fence} {closing : List Char} (inner after : List (List Char)) :
    ∀ first : Nat, (∀ line ∈ inner, f.closedBy line = false) → f.closedBy closing = true →
      outsideFrom (some f) first (inner ++ closing :: after)
        = outsideFrom none (first + inner.length + 1) after := by
  induction inner with
  | nil =>
      intro first _ hclosing
      rw [List.nil_append, outsideFrom_inside_cons, if_pos hclosing]
      rfl
  | cons line inner ih =>
      intro first hinner hclosing
      rw [List.forall_mem_cons] at hinner
      rw [List.cons_append, outsideFrom_inside_cons, if_neg (by simp [hinner.1]),
        ih (first + 1) hinner.2 hclosing, List.length_cons]
      congr 1
      omega

/-- From any line on, the lines among the parts are those outside of doc strings. -/
theorem filterMap_line?_partsFrom :
    ∀ (n : Nat) (lines : List (List Char)), lines.length ≤ n →
      ∀ first : Nat, (partsFrom (lines.zipIdx first)).filterMap Part.line?
        = outsideFrom none first lines := by
  intro n
  induction n with
  | zero =>
      intro lines hlength first
      rw [List.eq_nil_of_length_eq_zero (Nat.le_zero.mp hlength), List.zipIdx_nil, partsFrom,
        outsideFrom_nil, List.filterMap_nil]
  | succ n ih =>
      intro lines hlength first
      cases lines with
      | nil => rw [List.zipIdx_nil, partsFrom, outsideFrom_nil, List.filterMap_nil]
      | cons line rest =>
          have hrest : rest.length ≤ n := Nat.le_of_succ_le_succ hlength
          rw [List.zipIdx_cons, outsideFrom_none_cons]
          cases hclosed : closedFence? line (rest.zipIdx (first + 1)) with
          | none =>
              rw [partsFrom_cons_of_none hclosed, List.filterMap_cons, Part.line?, ih rest hrest]
              cases hopening : Fence.opening? line with
              | none => rfl
              | some f =>
                  rw [closedFence?, hopening, ← Option.not_isSome_iff_eq_none] at hclosed
                  have hopen : rest.any f.closedBy = false := by
                    simpa [Fence.any_closedBy_zipIdx] using hclosed
                  simp only [hopen, Bool.false_eq_true, if_false]
          | some f =>
              obtain ⟨hopening, hany⟩ := closedFence?_eq_some_iff.mp hclosed
              obtain ⟨inner, closing, after, hsplit, hinner, hclosing⟩ := exists_closing hany
              -- The numbered lines are split as the lines are.
              obtain ⟨inner, behind, rfl, rfl, hbehind⟩ := List.zipIdx_eq_append_iff.mp hsplit
              obtain ⟨closing, after, rfl, rfl, rfl⟩ := List.zipIdx_eq_cons_iff.mp hbehind.symm
              have hlines : ∀ line ∈ inner, f.closedBy line = false := by
                intro line hline
                rw [← List.zipIdx_map_fst (first + 1) inner] at hline
                obtain ⟨numbered, hmem, rfl⟩ := List.mem_map.mp hline
                exact hinner numbered hmem
              rw [Fence.any_closedBy_zipIdx] at hany
              have hafter : after.length ≤ n := by
                simp only [List.length_append, List.length_cons] at hrest
                omega
              rw [hsplit, partsFrom_cons_of_closed hopening hinner hclosing, List.filterMap_cons,
                hopening]
              simp only [hany, if_true, Part.line?]
              rw [ih after hafter, outsideFrom_inside inner after (first + 1) hlines hclosing]

/-- The lines among the parts of a script are its lines outside of closed doc strings. -/
theorem filterMap_line?_parts (text : String) :
    (parts text).filterMap Part.line? = outside text :=
  filterMap_line?_partsFrom _ _ (Nat.le_refl _) 1

end Script

end ScenarioSteps
