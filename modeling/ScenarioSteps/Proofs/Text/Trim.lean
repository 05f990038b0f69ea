import Mathlib.Data.List.DropRight
import Mathlib.Data.List.TakeWhile
import ScenarioSteps.Text.Lines

/-!
# `ScenarioSteps.Proofs.Text.Trim`: what trimming keeps

`Text.trim` drops blanks at the start and then at the end. The two
ends do not interfere:

* `trim_eq_trimStart_trimEnd`: the order of the two does not matter.
* `trim_trim`: a trimmed text is not trimmed any further.
* `prefix_trim_iff`: a text without blanks begins the trimmed text
  exactly when it begins the text behind its first blanks. Fences are
  looked for on trimmed lines when they open a doc string and on lines
  trimmed at the start only when they close one; this law makes the two
  tests the same.
* `trimEnd_append` and `trimStart_append`: a part in front of which, or behind
  which, another one is put is trimmed by itself.
* `trim_append`, `trim_enclosed`: blanks in front of a text and around it are not part of it.
* `trim_dropReturn`: the carriage return of a line's end is a blank.
-/

set_option autoImplicit false

namespace ScenarioSteps.Text

/-- Trimming the end as the library names it. -/
theorem trimEnd_eq_rdropWhile (cs : List Char) : trimEnd cs = cs.rdropWhile isBlank :=
  rfl

/-- Blanks at the end are dropped. -/
theorem trimEnd_append_blanks (cs blanks : List Char) (h : ∀ c ∈ blanks, isBlank c) :
    trimEnd (cs ++ blanks) = trimEnd cs := by
  unfold trimEnd
  rw [List.reverse_append, List.dropWhile_append_of_pos (by simpa using h)]

/-- A text is its trimmed form and blanks. -/
theorem exists_trimEnd_append (cs : List Char) :
    ∃ blanks, cs = trimEnd cs ++ blanks ∧ ∀ c ∈ blanks, isBlank c := by
  refine ⟨cs.rtakeWhile isBlank, ?_, fun c hc => List.mem_rtakeWhile_imp hc⟩
  rw [trimEnd_eq_rdropWhile, List.rdropWhile_append_rtakeWhile]

/-- A text without blanks at its ends is left as it is. -/
theorem trim_eq_self {cs : List Char} (hfirst : ∀ c ∈ cs.head?, isBlank c = false)
    (hlast : ∀ c ∈ cs.getLast?, isBlank c = false) : trim cs = cs := by
  have hstart : trimStart cs = cs := by
    cases cs with
    | nil => rfl
    | cons c cs => rw [trimStart, List.dropWhile_cons, hfirst c rfl, if_neg Bool.false_ne_true]
  rw [trim, hstart, trimEnd_eq_rdropWhile, List.rdropWhile_eq_self_iff]
  intro hne
  simpa using hlast _ (List.getLast?_eq_some_getLast hne)

/-- The end of a trimmed text has no blanks behind it. -/
theorem trimEnd_of_suffix {cs rest : List Char} (h : rest <:+ trimEnd cs) :
    trimEnd rest = rest := by
  rw [trimEnd_eq_rdropWhile rest, List.rdropWhile_eq_self_iff]
  intro hne
  have hne' : trimEnd cs ≠ [] := h.ne_nil hne
  rw [h.getLast hne]
  exact List.rdropWhile_last_not isBlank cs hne'

/-- A text whose end is trimmed keeps that when its start is trimmed. -/
theorem trimEnd_trimStart_trimEnd (cs : List Char) :
    trimEnd (trimStart (trimEnd cs)) = trimStart (trimEnd cs) :=
  trimEnd_of_suffix (List.dropWhile_suffix _)

/-- The two ends can be trimmed in either order. -/
theorem trim_eq_trimStart_trimEnd (cs : List Char) : trim cs = trimStart (trimEnd cs) := by
  obtain ⟨blanks, hcs, hblanks⟩ := exists_trimEnd_append cs
  have hstart : trimStart blanks = [] := by
    simpa [trimStart, List.dropWhile_eq_nil_iff] using hblanks
  unfold trim
  conv_lhs => rw [hcs]
  unfold trimStart at hstart ⊢
  rw [List.dropWhile_append]
  split
  · rename_i hempty
    rw [hstart, List.isEmpty_iff.mp hempty]
    rfl
  · rw [trimEnd_append_blanks _ _ hblanks]
    exact trimEnd_trimStart_trimEnd cs

/-- The start of a text is trimmed once. -/
@[simp]
theorem trimStart_trimStart (cs : List Char) : trimStart (trimStart cs) = trimStart cs :=
  List.dropWhile_idempotent isBlank cs

/-- So is its end. -/
@[simp]
theorem trimEnd_trimEnd (cs : List Char) : trimEnd (trimEnd cs) = trimEnd cs :=
  List.rdropWhile_idempotent isBlank cs

/-- A trimmed text is not trimmed any further. -/
@[simp]
theorem trim_trim (cs : List Char) : trim (trim cs) = trim cs := by
  rw [trim_eq_trimStart_trimEnd (trim cs)]
  unfold trim
  rw [trimEnd_trimEnd, ← trim_eq_trimStart_trimEnd (trimStart cs)]
  unfold trim
  rw [trimStart_trimStart]

/-- What is behind the first blanks in a part at the end of a trimmed text is trimmed. -/
theorem trim_trimStart_of_suffix {cs rest : List Char} (h : rest <:+ trim cs) :
    trim (trimStart rest) = trimStart rest := by
  have hsuffix : trimStart rest <:+ trimEnd (trimStart cs) :=
    (List.dropWhile_suffix isBlank).trans h
  rw [trim, trimStart_trimStart, trimEnd_of_suffix hsuffix]

/-- A trimmed text has no characters of its own. -/
theorem mem_of_mem_trim {c : Char} {cs : List Char} (h : c ∈ trim cs) : c ∈ cs := by
  have hend : trim cs <+: trimStart cs := List.rdropWhile_prefix isBlank _
  exact (List.dropWhile_suffix isBlank).subset (hend.subset h)

/-- A text of which trimming leaves nothing is blank. -/
theorem isBlank_of_trim_eq_nil {cs : List Char} (h : trim cs = []) :
    ∀ c ∈ cs, isBlank c = true := by
  have hstart : trimStart (trimEnd cs) = [] := by rw [← trim_eq_trimStart_trimEnd, h]
  rw [trimStart, List.dropWhile_eq_nil_iff] at hstart
  obtain ⟨blanks, hcs, hblanks⟩ := exists_trimEnd_append cs
  rw [hcs, List.forall_mem_append]
  exact ⟨hstart, hblanks⟩

/-- A text without blanks begins a text exactly when it begins the text with
its end trimmed. -/
theorem prefix_trimEnd_iff {mark cs : List Char} (hmark : ∀ c ∈ mark, isBlank c = false) :
    mark <+: trimEnd cs ↔ mark <+: cs := by
  have hprefix : trimEnd cs <+: cs := List.rdropWhile_prefix isBlank cs
  refine ⟨fun h => h.trans hprefix, fun h => ?_⟩
  rcases List.prefix_or_prefix_of_prefix h hprefix with h' | ⟨more, rfl⟩
  · exact h'
  · -- What `mark` has beyond the trimmed text would stand among the blanks.
    obtain ⟨blanks, hcs, hblanks⟩ := exists_trimEnd_append cs
    obtain ⟨rest, hrest⟩ := h
    have hmore : more ++ rest = blanks := by
      have happend : trimEnd cs ++ (more ++ rest) = trimEnd cs ++ blanks := by
        rw [← List.append_assoc, hrest, ← hcs]
      exact List.append_cancel_left happend
    cases more with
    | nil => simp
    | cons c more =>
        have hblank : isBlank c := hblanks c (by rw [← hmore]; simp)
        have hnot : isBlank c = false := hmark c (by simp)
        rw [hnot] at hblank
        contradiction

/-- A text without blanks begins the trimmed text exactly when it begins the
text trimmed at the start. -/
theorem prefix_trim_iff {mark cs : List Char} (hmark : ∀ c ∈ mark, isBlank c = false) :
    mark <+: trim cs ↔ mark <+: trimStart cs :=
  prefix_trimEnd_iff hmark

/-! ### Texts put together -/

/-- The first blanks and the text behind them are the whole text. -/
theorem takeWhile_append_trimStart (cs : List Char) : cs.takeWhile isBlank ++ trimStart cs = cs :=
  List.takeWhile_append_dropWhile

/-- Behind its first blanks, a text begins with none. -/
theorem isBlank_head?_trimStart (cs : List Char) :
    ∀ c ∈ (trimStart cs).head?, isBlank c = false := by
  intro c hc
  have hhead := List.head?_dropWhile_not isBlank cs
  rw [show (cs.dropWhile isBlank).head? = some c from hc] at hhead
  exact hhead

/-- Blanks in front of a trimmed text are dropped. -/
theorem trimStart_append {blanks cs : List Char} (hblanks : ∀ c ∈ blanks, isBlank c = true)
    (hcs : trim cs = cs) : trimStart (blanks ++ cs) = cs := by
  rw [trimStart, List.dropWhile_append_of_pos hblanks, ← hcs, trim_eq_trimStart_trimEnd]
  exact trimStart_trimStart _

/-- A trimmed text ends with no blank. -/
theorem isBlank_getLast?_of_trim {cs : List Char} (hcs : trim cs = cs) :
    ∀ c ∈ cs.getLast?, isBlank c = false := by
  have hend : trimEnd cs = cs := by rw [← hcs, trim, trimEnd_trimEnd]
  rw [trimEnd_eq_rdropWhile, List.rdropWhile_eq_self_iff] at hend
  intro c hc
  obtain ⟨hne, rfl⟩ := List.mem_getLast?_eq_getLast hc
  simpa using hend hne

/-- Blanks in front of a text are dropped. -/
theorem trim_append {blanks : List Char} (hblanks : ∀ c ∈ blanks, isBlank c = true)
    (cs : List Char) : trim (blanks ++ cs) = trim cs := by
  rw [trim, trim, trimStart, trimStart, List.dropWhile_append_of_pos hblanks]

/-- Nothing is left of a blank text. -/
theorem trim_eq_nil {cs : List Char} (h : ∀ c ∈ cs, isBlank c = true) : trim cs = [] := by
  rw [← List.append_nil cs, trim_append h]
  rfl

/-- Blanks around a text are dropped. -/
theorem trim_enclosed {before after : List Char} (hbefore : ∀ c ∈ before, isBlank c = true)
    (hafter : ∀ c ∈ after, isBlank c = true) (cs : List Char) :
    trim (before ++ cs ++ after) = trim cs := by
  rw [trim_eq_trimStart_trimEnd, trimEnd_append_blanks _ _ hafter, ← trim_eq_trimStart_trimEnd,
    trim_append hbefore]

/-- A text behind one that ends in no blank is trimmed by itself. -/
theorem trimEnd_append {word : List Char} (hword : trimEnd word = word) (rest : List Char) :
    trimEnd (word ++ rest) = word ++ trimEnd rest := by
  rw [trimEnd, trimEnd, List.reverse_append, List.dropWhile_append]
  split
  · next hempty =>
      rw [List.isEmpty_iff.mp hempty, List.reverse_nil, List.append_nil]
      exact hword
  · rw [List.reverse_append, List.reverse_reverse]

/-- A character stays in front of a text that is not blank. -/
theorem trimEnd_cons_of_not_blank {c : Char} {rest : List Char}
    (h : ¬ ∀ d ∈ c :: rest, isBlank d = true) : trimEnd (c :: rest) = c :: trimEnd rest := by
  rw [trimEnd, trimEnd, List.reverse_cons, List.dropWhile_append]
  split
  · next hempty =>
      have hrest : ∀ d ∈ rest, isBlank d = true := by
        simpa [List.dropWhile_eq_nil_iff] using hempty
      have hc : isBlank c = false := by
        rw [← Bool.not_eq_true]
        exact fun hc => h (List.forall_mem_cons.mpr ⟨hc, hrest⟩)
      rw [List.isEmpty_iff.mp hempty, List.dropWhile_cons_of_neg (by simp [hc])]
      rfl
  · rw [List.reverse_append]
    rfl

/-- A text that is not blank begins as it does without its last blanks. -/
theorem head?_trimEnd {cs : List Char} (h : trimEnd cs ≠ []) :
    (trimEnd cs).head? = cs.head? := by
  obtain ⟨blanks, hcs, -⟩ := exists_trimEnd_append cs
  obtain ⟨c, rest, hrest⟩ := List.exists_cons_of_ne_nil h
  rw [hrest] at hcs ⊢
  rw [hcs]
  rfl

/-! ### Other characters -/

/-- Trimming sees of characters only which ones are blanks. -/
theorem trim_map {f : Char → Char} (hf : ∀ c, isBlank (f c) = isBlank c) (cs : List Char) :
    trim (cs.map f) = (trim cs).map f := by
  have hdrop : ∀ cs : List Char, (cs.map f).dropWhile isBlank = (cs.dropWhile isBlank).map f := by
    intro cs
    rw [List.dropWhile_map, show isBlank ∘ f = isBlank from funext hf]
  unfold trim trimEnd trimStart
  rw [hdrop, ← List.map_reverse, hdrop, List.map_reverse]

/-- The carriage return of a line's end does not outlive trimming. -/
@[simp]
theorem trim_dropReturn (cs : List Char) : trim (dropReturn cs) = trim cs := by
  unfold dropReturn
  split
  · rename_i h
    have hcs : cs.dropLast ++ ['\r'] = cs := List.dropLast_append_getLast? _ (by simpa using h)
    rw [trim_eq_trimStart_trimEnd, trim_eq_trimStart_trimEnd cs, ← hcs,
      trimEnd_append_blanks _ ['\r'] (List.forall_mem_singleton.mpr rfl), List.dropLast_concat]
  · rfl

end ScenarioSteps.Text
