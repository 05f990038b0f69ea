import Mathlib.Data.List.Basic
import ScenarioSteps.Text.Lines

/-!
# `ScenarioSteps.Proofs.Text.Lines`: splitting at line feeds and joining again

`Text.splitBy` cuts a text at line feeds and `Text.joinLines` puts the
parts together again:

* `splitBy_joinLines`: parts without line feeds come back as they were.
* `splitBy_append_cons`: the first part ends at the first line feed.
* `splitBy_append_cut`: a line feed splits the parts into those before and
  those behind it.
* `splitBy_flatMap_cut`: so texts with a cut behind each are parts again.
* `nil_mem_splitBy_iff`: a part is empty where a cut stands at an end of the
  text or behind another cut.

`Text.lines` turns parts into lines. All parts but the last lose a
carriage return, and an empty last part is no line. `ofParts` says the
same by recursion (`lines_eq_ofParts`), which is the form for proofs that
go through a text line by line. Behind a text that ends with a line feed,
another text has lines of its own (`lines_append`).
-/

set_option autoImplicit false

namespace ScenarioSteps.Text

/-- There is always a part. -/
theorem splitBy_ne_nil (p : Char → Bool) (cs : List Char) : splitBy p cs ≠ [] := by
  cases cs with
  | nil => simp [splitBy]
  | cons c cs =>
      simp only [splitBy]
      split
      · simp
      · split <;> simp

/-- There is one part more than there are cuts. -/
theorem length_splitBy (p : Char → Bool) (cs : List Char) :
    (splitBy p cs).length = cs.countP p + 1 := by
  induction cs with
  | nil => rfl
  | cons c cs ih =>
      rw [splitBy, List.countP_cons]
      split
      · rw [List.length_cons, ih]
      · rw [Nat.add_zero, ← ih]
        cases hparts : splitBy p cs with
        | nil => exact absurd hparts (splitBy_ne_nil p cs)
        | cons part parts => rfl

/-- No part holds a character at which the text is cut. -/
theorem not_mem_of_mem_splitBy (p : Char → Bool) (cs : List Char) :
    ∀ part ∈ splitBy p cs, ∀ c ∈ part, p c = false := by
  induction cs with
  | nil => simp [splitBy]
  | cons c cs ih =>
      simp only [splitBy]
      split
      · simpa using ih
      · rename_i hc
        cases hparts : splitBy p cs with
        | nil => simpa using hc
        | cons part parts =>
            rw [hparts, List.forall_mem_cons] at ih
            simp only [List.forall_mem_cons]
            exact ⟨⟨by simpa using hc, ih.1⟩, ih.2⟩

/-- Parts have no characters of their own. -/
theorem mem_of_mem_splitBy {p : Char → Bool} {cs part : List Char} {c : Char}
    (hpart : part ∈ splitBy p cs) (hc : c ∈ part) : c ∈ cs := by
  induction cs generalizing part with
  | nil =>
      rw [splitBy, List.mem_singleton] at hpart
      rwa [hpart] at hc
  | cons d cs ih =>
      obtain ⟨first, rest, hparts⟩ := List.exists_cons_of_ne_nil (splitBy_ne_nil p cs)
      rw [splitBy, hparts] at hpart
      rw [hparts] at ih
      split at hpart
      · rcases List.mem_cons.mp hpart with rfl | hpart
        · cases hc
        · exact List.mem_cons_of_mem d (ih hpart hc)
      · rcases List.mem_cons.mp hpart with rfl | hpart
        · rcases List.mem_cons.mp hc with rfl | hc
          · exact List.mem_cons_self
          · exact List.mem_cons_of_mem d (ih List.mem_cons_self hc)
        · exact List.mem_cons_of_mem d (ih (List.mem_cons_of_mem first hpart) hc)

/-- The first part ends where the text is first cut. -/
theorem splitBy_append_cons (p : Char → Bool) (first rest : List Char) (c : Char)
    (hfirst : ∀ d ∈ first, p d = false) (hc : p c = true) :
    splitBy p (first ++ c :: rest) = first :: splitBy p rest := by
  induction first with
  | nil => simp [splitBy, hc]
  | cons d first ih =>
      rw [List.cons_append, splitBy, if_neg (by simp [hfirst d]),
        ih fun e he => hfirst e (by simp [he])]

/-- Texts that are not cut, each with a cut behind it, are the parts in front of the rest. -/
theorem splitBy_flatMap_cut (p : Char → Bool) {c : Char} (hc : p c = true)
    {parts : List (List Char)} (hparts : ∀ part ∈ parts, ∀ d ∈ part, p d = false)
    (rest : List Char) :
    splitBy p (parts.flatMap (· ++ [c]) ++ rest) = parts ++ splitBy p rest := by
  induction parts with
  | nil => rfl
  | cons part parts ih =>
      rw [List.forall_mem_cons] at hparts
      rw [List.flatMap_cons, List.append_assoc, List.append_assoc, List.singleton_append,
        splitBy_append_cons _ _ _ _ hparts.1 hc, ih hparts.2, List.cons_append]

/-- A cut splits a text into the parts before it and the parts behind it. -/
theorem splitBy_append_cut (p : Char → Bool) (first rest : List Char) {c : Char}
    (hc : p c = true) : splitBy p (first ++ c :: rest) = splitBy p first ++ splitBy p rest := by
  induction first with
  | nil => simp [splitBy, hc]
  | cons d first ih =>
      rw [List.cons_append, splitBy, splitBy, ih]
      split
      · rfl
      · cases h : splitBy p first with
        | nil => exact absurd h (splitBy_ne_nil p first)
        | cons part parts => rfl

/-- A text that is not cut is the beginning of the first part. -/
theorem splitBy_append_of_forall (p : Char → Bool) (first rest : List Char)
    (hfirst : ∀ c ∈ first, p c = false) :
    ∃ part, splitBy p (first ++ rest) = (first ++ part) :: (splitBy p rest).tail := by
  induction first with
  | nil =>
      cases h : splitBy p rest with
      | nil => exact absurd h (splitBy_ne_nil p rest)
      | cons part parts => exact ⟨part, by simp [h]⟩
  | cons d first ih =>
      obtain ⟨part, hpart⟩ := ih fun c hc => hfirst c (List.mem_cons_of_mem _ hc)
      refine ⟨part, ?_⟩
      rw [List.cons_append, splitBy, if_neg (by simp [hfirst d]), hpart]
      rfl

/-- A text that is not cut anywhere is one part. -/
theorem splitBy_of_forall (p : Char → Bool) (cs : List Char) (h : ∀ c ∈ cs, p c = false) :
    splitBy p cs = [cs] := by
  induction cs with
  | nil => rfl
  | cons c cs ih =>
      rw [splitBy, if_neg (by simp [h c]), ih fun d hd => h d (by simp [hd])]

/-- A text is its parts with the character that cuts it between them. -/
theorem eq_of_splitBy_eq {cut : Char} {cs first : List Char} {rest : List (List Char)}
    (h : splitBy (· == cut) cs = first :: rest) : cs = first ++ rest.flatMap (cut :: ·) := by
  induction cs generalizing first rest with
  | nil =>
      cases h
      rfl
  | cons c cs ih =>
      rw [splitBy] at h
      split at h
      · next hcut =>
          cases h
          obtain rfl := eq_of_beq hcut
          cases hcs : splitBy (· == c) cs with
          | nil => exact absurd hcs (splitBy_ne_nil _ _)
          | cons part parts => simp [ih hcs]
      · split at h
        · next hcs => exact absurd hcs (splitBy_ne_nil _ _)
        · next hcs =>
            cases h
            rw [ih hcs, List.cons_append]

/-! ### Empty parts -/

/-- The first part is empty where nothing stands in front of a cut or of the end. -/
theorem first_part_eq_nil_iff {cut : Char} {cs part : List Char} {parts : List (List Char)}
    (h : splitBy (· == cut) cs = part :: parts) : part = [] ↔ cs = [] ∨ [cut] <+: cs := by
  cases cs with
  | nil =>
      cases h
      simp
  | cons c cs =>
      rw [List.cons_prefix_cons]
      rw [splitBy] at h
      split at h
      · next hcut =>
          cases h
          simp [(eq_of_beq hcut).symm]
      · next hcut =>
          have hne : cut ≠ c := fun heq => hcut (beq_iff_eq.mpr heq.symm)
          split at h <;> cases h <;> simp [hne]

/-- Behind the first part, a part is empty where two cuts stand together or the last
character is a cut. -/
theorem nil_mem_tail_splitBy_iff (cut : Char) (cs : List Char) :
    [] ∈ (splitBy (· == cut) cs).tail ↔ [cut] <:+ cs ∨ [cut, cut] <:+: cs := by
  induction cs with
  | nil => simp [splitBy]
  | cons c cs ih =>
      obtain ⟨part, parts, hparts⟩ := List.exists_cons_of_ne_nil (splitBy_ne_nil (· == cut) cs)
      rw [hparts, List.tail_cons] at ih
      rw [List.suffix_cons_iff, List.infix_cons_iff, List.cons_prefix_cons, List.cons_eq_cons,
        @eq_comm _ [] cs]
      by_cases hcut : c = cut
      · subst hcut
        -- The part behind this cut is the first one of the rest.
        have hfirst := first_part_eq_nil_iff hparts
        rw [splitBy, if_pos (beq_self_eq_true c), List.tail_cons, hparts, List.mem_cons, ih,
          eq_comm, hfirst]
        tauto
      · rw [splitBy, if_neg (by simpa using hcut), hparts]
        simp only [List.tail_cons, ih, Ne.symm hcut, false_and, false_or]

/-- A part of a text is empty if and only if the text is empty, or a cut stands at one of its
ends or behind another one. -/
theorem nil_mem_splitBy_iff (cut : Char) (cs : List Char) :
    [] ∈ splitBy (· == cut) cs
      ↔ cs = [] ∨ [cut] <+: cs ∨ [cut] <:+ cs ∨ [cut, cut] <:+: cs := by
  obtain ⟨part, parts, hparts⟩ := List.exists_cons_of_ne_nil (splitBy_ne_nil (· == cut) cs)
  have htail := nil_mem_tail_splitBy_iff cut cs
  rw [hparts, List.tail_cons] at htail
  rw [hparts, List.mem_cons, eq_comm, first_part_eq_nil_iff hparts, htail, or_assoc]

/-! ### Parts between line feeds -/

/-- A part without a line feed is not cut. -/
theorem not_cut {part : List Char} (h : '\n' ∉ part) : ∀ c ∈ part, (c == '\n') = false := by
  intro c hc
  simp only [beq_eq_false_iff_ne]
  rintro rfl
  exact h hc

/-- Joined parts are the parts again. -/
theorem splitBy_joinLines (parts : List (List Char)) (hne : parts ≠ [])
    (hparts : ∀ part ∈ parts, '\n' ∉ part) :
    splitBy (· == '\n') (joinLines parts) = parts := by
  unfold joinLines
  induction parts with
  | nil => contradiction
  | cons part rest ih =>
      cases rest with
      | nil =>
          rw [List.intercalate_singleton]
          exact splitBy_of_forall _ _ (not_cut (hparts part (by simp)))
      | cons next rest =>
          rw [List.intercalate_cons_cons, List.append_assoc, List.singleton_append,
            splitBy_append_cons _ _ _ _ (not_cut (hparts part (by simp))) rfl,
            ih (by simp) fun q hq => hparts q (by simp [hq])]

/-- Lines with a line feed behind each are the parts in front of the rest. -/
theorem splitBy_flatMap_newline {lines : List (List Char)} (hlines : ∀ line ∈ lines, '\n' ∉ line)
    (rest : List Char) :
    splitBy (· == '\n') (lines.flatMap (· ++ ['\n']) ++ rest)
      = lines ++ splitBy (· == '\n') rest :=
  splitBy_flatMap_cut _ rfl (fun line hline => not_cut (hlines line hline)) rest

/-- A text of lines that each end with a line feed ends with one. -/
theorem getLast?_flatMap_newline {lines : List (List Char)} (hne : lines ≠ []) :
    (lines.flatMap (· ++ ['\n'])).getLast? = some '\n' := by
  obtain ⟨first, last, rfl⟩ := (List.eq_nil_or_concat' lines).resolve_left hne
  rw [List.flatMap_append, List.flatMap_singleton, ← List.append_assoc, List.getLast?_concat]

/-- What holds for the characters of all parts and of the separator holds for
those of the joined text. -/
theorem forall_mem_intercalate {P : Char → Prop} {separator : List Char}
    {parts : List (List Char)} (hseparator : ∀ c ∈ separator, P c)
    (hparts : ∀ part ∈ parts, ∀ c ∈ part, P c) : ∀ c ∈ separator.intercalate parts, P c := by
  induction parts with
  | nil => simp
  | cons part rest ih =>
      rw [List.forall_mem_cons] at hparts
      cases rest with
      | nil =>
          rw [List.intercalate_singleton]
          exact hparts.1
      | cons next rest =>
          rw [List.intercalate_cons_cons, List.forall_mem_append, List.forall_mem_append]
          exact ⟨⟨hparts.1, hseparator⟩, ih hparts.2⟩

/-! ### Lines by recursion -/

/-- The lines that parts between line feeds make. -/
def ofParts : List (List Char) → List (List Char)
  | [] => []
  | [last] => if last.isEmpty then [] else [last]
  | part :: next :: rest => dropReturn part :: ofParts (next :: rest)

/-- Every part but the last is a line. -/
theorem ofParts_cons (part : List Char) {rest : List (List Char)} (hrest : rest ≠ []) :
    ofParts (part :: rest) = dropReturn part :: ofParts rest := by
  cases rest with
  | nil => contradiction
  | cons next rest => rfl

/-- Parts before others are lines. -/
theorem ofParts_append (parts : List (List Char)) {rest : List (List Char)} (hrest : rest ≠ []) :
    ofParts (parts ++ rest) = parts.map dropReturn ++ ofParts rest := by
  induction parts with
  | nil => rfl
  | cons part parts ih =>
      rw [List.cons_append, ofParts_cons part (List.append_ne_nil_of_right_ne_nil parts hrest), ih]
      rfl

/-- Each line is a part, or one without the carriage return at its end. -/
theorem exists_of_mem_ofParts {parts : List (List Char)} {line : List Char}
    (h : line ∈ ofParts parts) : ∃ part ∈ parts, line = part ∨ line = dropReturn part := by
  induction parts using ofParts.induct with
  | case1 => cases h
  | case2 last hempty =>
      rw [ofParts, if_pos hempty] at h
      cases h
  | case3 last hempty =>
      rw [ofParts, if_neg hempty, List.mem_singleton] at h
      exact ⟨last, List.mem_singleton_self last, .inl h⟩
  | case4 part next rest ih =>
      rw [ofParts, List.mem_cons] at h
      rcases h with hpart | hrest
      · exact ⟨part, List.mem_cons_self, .inr hpart⟩
      · obtain ⟨other, hmem, hline⟩ := ih hrest
        exact ⟨other, List.mem_cons_of_mem part hmem, hline⟩

/-- The lines of a text are those of its parts. -/
theorem lines_eq_ofParts (cs : List Char) : lines cs = ofParts (splitBy (· == '\n') cs) := by
  unfold lines
  generalize splitBy (· == '\n') cs = parts
  induction parts with
  | nil => rfl
  | cons part rest ih =>
      cases rest with
      | nil => simp [ofParts]
      | cons next rest =>
          rw [ofParts, ← ih]
          simp

/-- A line loses one carriage return, if it ends with it. -/
theorem dropReturn_cases (cs : List Char) :
    dropReturn cs = cs ∨ cs = dropReturn cs ++ ['\r'] := by
  unfold dropReturn
  split
  · next h =>
      refine .inr ?_
      rw [beq_iff_eq] at h
      exact (List.dropLast_append_getLast? '\r' h).symm
  · exact .inl rfl

/-- A line without its carriage return is the beginning of the line. -/
theorem dropReturn_prefix (cs : List Char) : dropReturn cs <+: cs := by
  rcases dropReturn_cases cs with hsame | hreturn
  · exact ⟨[], by rw [List.append_nil, hsame]⟩
  · exact ⟨['\r'], hreturn.symm⟩

/-- No line holds a line feed. -/
theorem newline_not_mem_lines {cs line : List Char} (h : line ∈ lines cs) : '\n' ∉ line := by
  have hparts : ∀ part ∈ splitBy (· == '\n') cs, '\n' ∉ part := by
    intro part hpart hmem
    have hcut := not_mem_of_mem_splitBy (· == '\n') cs part hpart '\n' hmem
    cases hcut
  rw [lines_eq_ofParts] at h
  obtain ⟨part, hpart, rfl | rfl⟩ := exists_of_mem_ofParts h
  · exact hparts line hpart
  · have hsubset := List.IsPrefix.subset <| dropReturn_prefix part
    exact fun hmem => hparts part hpart (hsubset hmem)

/-- One carriage return is dropped at the end of a line. -/
theorem dropReturn_concat (cs : List Char) : dropReturn (cs ++ ['\r']) = cs := by
  simp [dropReturn]

/-- A line without carriage returns loses none. -/
theorem dropReturn_of_not_mem {cs : List Char} (h : '\r' ∉ cs) : dropReturn cs = cs := by
  refine (dropReturn_cases cs).resolve_right fun hreturn => h ?_
  rw [hreturn]
  exact List.mem_concat_self

/-- No other character at the end is dropped. -/
theorem dropReturn_of_getLast? {cs : List Char} {last : Char} (hlast : cs.getLast? = some last)
    (hreturn : last ≠ '\r') : dropReturn cs = cs := by
  rw [dropReturn, hlast, if_neg (by simpa using hreturn)]

/-- A part that ends in another character than a carriage return is a line as it stands, also
where it is the last. -/
theorem ofParts_cons_of_getLast? {part : List Char} {last : Char} (hlast : part.getLast? = some last)
    (hreturn : last ≠ '\r') (rest : List (List Char)) :
    ofParts (part :: rest) = part :: ofParts rest := by
  cases rest with
  | nil =>
      cases part with
      | nil => cases hlast
      | cons c part => rfl
  | cons next rest =>
      rw [ofParts, dropReturn_of_getLast? hlast hreturn]

/-- The lines of joined parts. -/
theorem lines_joinLines {parts : List (List Char)} (hparts : ∀ part ∈ parts, '\n' ∉ part) :
    lines (joinLines parts) = ofParts parts := by
  cases parts with
  | nil => rfl
  | cons part rest =>
      rw [lines_eq_ofParts, splitBy_joinLines _ (List.cons_ne_nil part rest) hparts]

/-- Behind a line feed, lines begin anew. -/
theorem lines_append (cs rest : List Char) (hcs : cs = [] ∨ cs.getLast? = some '\n') :
    lines (cs ++ rest) = lines cs ++ lines rest := by
  rcases hcs with rfl | hlast
  · rfl
  · obtain ⟨first, rfl⟩ := List.getLast?_eq_some_iff.mp hlast
    have hbehind (behind : List Char) : lines (first ++ '\n' :: behind)
        = (splitBy (· == '\n') first).map dropReturn ++ lines behind := by
      rw [lines_eq_ofParts, lines_eq_ofParts, splitBy_append_cut _ _ _ (by decide),
        ofParts_append _ (splitBy_ne_nil _ _)]
    -- Nothing stands behind the last line feed of the first text.
    have hfirst : lines (first ++ ['\n']) = (splitBy (· == '\n') first).map dropReturn :=
      (hbehind []).trans (List.append_nil _)
    rw [List.append_assoc, List.singleton_append, hbehind, hfirst]

/-- The first line of a text that has a line feed. -/
theorem lines_append_newline (first rest : List Char) (hfirst : '\n' ∉ first) :
    ∃ others, lines (first ++ '\n' :: rest) = dropReturn first :: others := by
  rw [lines_eq_ofParts, splitBy_append_cons _ _ _ _ (not_cut hfirst) rfl]
  cases h : splitBy (· == '\n') rest with
  | nil => exact absurd h (splitBy_ne_nil _ _)
  | cons next others => exact ⟨ofParts (next :: others), rfl⟩

end ScenarioSteps.Text
