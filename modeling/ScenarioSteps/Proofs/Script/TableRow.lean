import ScenarioSteps.Proofs.Script.Attachment
import ScenarioSteps.Proofs.Script.Steps
import ScenarioSteps.Proofs.Text.Lines

/-!
# `ScenarioSteps.Proofs.Script.TableRow`: a written row is read back

`TableRow.text` writes a row: a bar, and each cell between two spaces with a bar behind it.
In a cell, a backslash stands before a bar and before a backslash, and a line feed is written
`\n`. So a row is one line whatever its cells hold.

* `row?_text`: the cells of a written row are the cells it was written from. Each character
  is read from what was written for it, whatever stands behind (`rowCells_cellChar`), and no
  other bar ends a cell.
* `Script.table_of_rows`: written rows below a step are the first rows of its table, with any
  indentation.

A cell has to be trimmed, since the reader trims each cell when it has undone its escapes.
-/

set_option autoImplicit false

namespace ScenarioSteps

namespace TableRow

/-- A character of a cell. -/
def cellChar : Char → List Char
  | '\\' => ['\\', '\\']
  | '|' => ['\\', '|']
  | '\n' => ['\\', 'n']
  | c => [c]

/-- A cell between two spaces, and the bar behind it. -/
def cell (content : String) : List Char :=
  ' ' :: content.toList.flatMap cellChar ++ [' ', '|']

/-- A row with cells. -/
def text (cells : List String) : List Char :=
  '|' :: cells.flatMap cell

/-- A line with an indentation and a row. -/
def line (row : List Char × List String) : List Char :=
  row.1 ++ text row.2

/-! ### Reading the cells -/

/-- A character that is not escaped is read as itself. -/
theorem rowCells_cons {c : Char} (hbar : c ≠ '|') (hbackslash : c ≠ '\\') (read rest : List Char) :
    rowCells read (c :: rest) = rowCells (c :: read) rest := by
  rw [rowCells.eq_def]
  split <;> simp_all

/-- What is written for a character is read as that character. -/
theorem rowCells_cellChar (c : Char) (read rest : List Char) :
    rowCells read (cellChar c ++ rest) = rowCells (c :: read) rest := by
  unfold cellChar
  split
  · rfl
  · rfl
  · rfl
  · next hbackslash hbar _ => exact rowCells_cons hbar hbackslash read rest

/-- A written cell is read whole, whatever stands behind it. -/
theorem rowCells_flatMap (content : List Char) :
    ∀ read rest : List Char, rowCells read (content.flatMap cellChar ++ rest)
      = rowCells (content.reverse ++ read) rest := by
  induction content with
  | nil => exact fun _ _ => rfl
  | cons c content ih =>
      intro read rest
      rw [List.flatMap_cons, List.append_assoc, rowCells_cellChar, ih, List.reverse_cons,
        List.append_assoc, List.singleton_append]

/-- A cell ends at its bar. -/
theorem rowCells_cell {content : String} (htrim : Text.trimmed content = content)
    (rest : List Char) : rowCells [] (cell content ++ rest) = content.toList :: rowCells [] rest := by
  have hcontent : Text.trim content.toList = content.toList := by
    conv_rhs => rw [← htrim, Text.trimmed, String.toList_ofList]
  have hspace : ∀ c ∈ [' '], Text.isBlank c = true := List.forall_mem_singleton.mpr rfl
  have hread : (' ' :: (content.toList.reverse ++ [' '])).reverse
      = [' '] ++ content.toList ++ [' '] := by simp
  rw [cell, List.cons_append, List.cons_append, rowCells_cons (by decide) (by decide),
    List.append_assoc, rowCells_flatMap]
  show Text.trim (' ' :: (content.toList.reverse ++ [' '])).reverse :: rowCells [] rest = _
  rw [hread, Text.trim_enclosed hspace hspace, hcontent]

/-- The cells of a written row are those that it was written from. -/
theorem row?_text {cells : List String} (htrim : ∀ cell ∈ cells, Text.trimmed cell = cell) :
    row? (text cells) = some (cells.map String.toList) := by
  have hcells : rowCells [] (cells.flatMap cell) = cells.map String.toList := by
    induction cells with
    | nil => rfl
    | cons content cells ih =>
        rw [List.forall_mem_cons] at htrim
        rw [List.flatMap_cons, rowCells_cell htrim.1, ih htrim.2, List.map_cons]
  rw [row?, text, Text.after?_cons, if_pos rfl]
  exact congrArg some hcells

/-! ### A row is one line -/

/-- A row ends with a bar. -/
theorem getLast?_text (cells : List String) : (text cells).getLast? = some '|' := by
  cases h : cells.getLast? with
  | none => rw [List.getLast?_eq_none_iff.mp h]; rfl
  | some last =>
      obtain ⟨before, rfl⟩ := List.getLast?_eq_some_iff.mp h
      have hbar : text (before ++ [last])
          = ('|' :: before.flatMap cell ++ ' ' :: last.toList.flatMap cellChar ++ [' ']) ++ ['|'] := by
        simp [text, cell]
      rw [hbar, List.getLast?_append]
      rfl

/-- A written row ends with a bar. -/
theorem getLast?_line (row : List Char × List String) : (line row).getLast? = some '|' := by
  rw [line, List.getLast?_append, getLast?_text, Option.some_or]

/-- No line feed stands in a row. -/
theorem newline_not_mem_text (cells : List String) : '\n' ∉ text cells := by
  have hchar (c : Char) : '\n' ∉ cellChar c := by
    unfold cellChar
    split
    · decide
    · decide
    · decide
    · next hnewline => simpa using Ne.symm hnewline
  simp [text, cell, hchar]

/-- The line of a row is trimmed to the row. -/
theorem trim_line {row : List Char × List String} (hindent : ∀ c ∈ row.1, Text.isBlank c = true) :
    Text.trim (line row) = text row.2 := by
  have hself : Text.trim (text row.2) = text row.2 := by
    refine Text.trim_eq_self ?_ ?_
    · rintro _ ⟨⟩
      decide
    · rw [getLast?_text]
      rintro _ ⟨⟩
      decide
  rw [line, Text.trim_append hindent, hself]

/-- The line of a row is read as its cells. -/
theorem of_line {row : List Char × List String} (hindent : ∀ c ∈ row.1, Text.isBlank c = true)
    (htrim : ∀ cell ∈ row.2, Text.trimmed cell = cell) :
    ScriptLine.of (line row) = .row (row.2.map String.toList) := by
  rw [ScriptLine.of_eq_row_iff, trim_line hindent, row?_text htrim]

end TableRow

namespace Script

/-- Rows are lines of a script as they stand. A carriage return at the end of another line
belongs to the end of that line. -/
theorem lines_of_rows {above below : List (List Char)} {line : List Char}
    {rows : List (List Char × List String)} (hrows : rows ≠ [])
    (hlines : ∀ other ∈ above ++ line :: below, '\n' ∉ other)
    (hindent : ∀ row ∈ rows, '\n' ∉ row.1) :
    Text.lines (Text.joinLines (above ++ line :: (rows.map TableRow.line ++ below)))
      = above.map Text.dropReturn
        ++ Text.dropReturn line :: (rows.map TableRow.line ++ Text.ofParts below) := by
  have hnewline : ∀ part ∈ above ++ line :: (rows.map TableRow.line ++ below), '\n' ∉ part := by
    rw [List.forall_mem_append, List.forall_mem_cons] at hlines
    rw [List.forall_mem_append, List.forall_mem_cons, List.forall_mem_append]
    refine ⟨hlines.1, hlines.2.1, ?_, hlines.2.2⟩
    intro _ hmem
    obtain ⟨row, hrow, rfl⟩ := List.mem_map.mp hmem
    rw [TableRow.line, List.mem_append, not_or]
    exact ⟨hindent row hrow, TableRow.newline_not_mem_text row.2⟩
  -- A row ends with a bar, so nothing is cut off at its end.
  have hparts : Text.ofParts (rows.map TableRow.line ++ below)
      = rows.map TableRow.line ++ Text.ofParts below := by
    clear hnewline hrows
    induction rows with
    | nil => rfl
    | cons row rows ih =>
        rw [List.forall_mem_cons] at hindent
        rw [List.map_cons, List.cons_append,
          Text.ofParts_cons_of_getLast? (TableRow.getLast?_line row) (by decide), ih hindent.2]
        rfl
  rw [Text.lines_joinLines hnewline, Text.ofParts_append above (List.cons_ne_nil _ _),
    Text.ofParts_cons line (by simp [hrows]), hparts]

/-- The window of a step that stands outside of closed doc strings, by the lines below it. -/
theorem window_of_lines {text : String} {above below : List (List Char)} {line : List Char}
    (hlines : Text.lines text.toList = above ++ line :: below)
    (houtside : above.length + 1 ∈ (outside text).map Prod.snd) :
    (line, above.length + 1) ∈ outside text
      ∧ window text (above.length + 1)
        = (partsFrom (below.zipIdx (above.length + 2))).takeWhile (!·.endsWindow) := by
  obtain ⟨own, hown, hnumber⟩ := List.mem_map.mp houtside
  have hpart : .line own ∈ parts text := by
    rw [← filterMap_line?_parts, List.mem_filterMap] at hown
    obtain ⟨part, hmem, hline⟩ := hown
    cases part with
    | docString doc => cases hline
    | line other =>
        cases hline
        exact hmem
  obtain ⟨before, after, earlier, hsplit, hparts⟩ := exists_of_mem_partsFrom hpart
  have hnumbered : (Text.lines text.toList).zipIdx 1
      = above.zipIdx 1 ++ (line, above.length + 1) :: below.zipIdx (above.length + 2) := by
    rw [hlines, List.zipIdx_append, List.zipIdx_cons, Nat.add_comm 1]
  -- Lines are numbered one after the other, so no other one has this number.
  have hlength : above.length = before.length := by
    have hget := congrArg (·[before.length]?) hsplit
    simp only [List.getElem?_append_right (Nat.le_refl _), Nat.sub_self, List.getElem?_cons_zero,
      List.getElem?_zipIdx, Option.map_eq_some_iff] at hget
    obtain ⟨_, -, rfl⟩ := hget
    simpa [Nat.add_comm 1] using hnumber.symm
  rw [hnumbered] at hsplit
  obtain ⟨-, hbehind⟩ := List.append_inj hsplit (by simpa using hlength)
  obtain ⟨rfl, rfl⟩ := List.cons.inj hbehind
  exact ⟨hown, window_eq hparts⟩

/-- Rows below a line are the beginning of what stands below it. -/
theorem takeWhile_parts_rows {rows : List (List Char × List String)} {below : List (List Char)}
    (hindent : ∀ row ∈ rows, ∀ c ∈ row.1, Text.isBlank c = true)
    (hcells : ∀ row ∈ rows, ∀ cell ∈ row.2, Text.trimmed cell = cell) (first : Nat) :
    (partsFrom ((rows.map TableRow.line ++ below).zipIdx first)).takeWhile (!·.endsWindow)
      = ((rows.map TableRow.line).zipIdx first).map .line
        ++ (partsFrom (below.zipIdx (first + rows.length))).takeWhile (!·.endsWindow) := by
  have hclass : ∀ line ∈ (rows.map TableRow.line).zipIdx first,
      ∃ row ∈ rows, ScriptLine.of line.1 = .row (row.2.map String.toList) := by
    intro line hline
    obtain ⟨row, hrow, hread⟩ := List.mem_map.mp (List.fst_mem_of_mem_zipIdx hline)
    exact ⟨row, hrow, by rw [← hread, TableRow.of_line (hindent row hrow) (hcells row hrow)]⟩
  -- A row is no fence, so each row is a part of its own, and none ends the window.
  have hopening : ∀ line ∈ (rows.map TableRow.line).zipIdx first,
      Fence.opening? line.1 = none := by
    intro line hline
    obtain ⟨row, -, hrow⟩ := hclass line hline
    rw [← OpenDoc.map_fence_of?, OpenDoc.of?, hrow, Option.map_none]
  have hinside : ∀ part ∈ ((rows.map TableRow.line).zipIdx first).map Part.line,
      (!part.endsWindow) = true := by
    intro part hpart
    obtain ⟨line, hline, rfl⟩ := List.mem_map.mp hpart
    obtain ⟨row, -, hrow⟩ := hclass line hline
    simp [Part.endsWindow, Part.line?, hrow, ScriptLine.endsWindow]
  rw [List.zipIdx_append, List.length_map, partsFrom_append hopening,
    List.takeWhile_append_of_pos hinside]

/-- The cells of the lines of rows. -/
theorem filterMap_cells?_rows {rows : List (List Char × List String)}
    (hindent : ∀ row ∈ rows, ∀ c ∈ row.1, Text.isBlank c = true)
    (hcells : ∀ row ∈ rows, ∀ cell ∈ row.2, Text.trimmed cell = cell) :
    ∀ first : Nat, (((rows.map TableRow.line).zipIdx first).map Part.line).filterMap Part.cells?
      = rows.map Prod.snd := by
  induction rows with
  | nil => exact fun _ => rfl
  | cons row rows ih =>
      intro first
      rw [List.forall_mem_cons] at hindent hcells
      have hrow : cells? (TableRow.line row, first) = some row.2 := by
        have hclass : ScriptLine.of (TableRow.line row, first).1 = .row (row.2.map String.toList) :=
          TableRow.of_line hindent.1 hcells.1
        rw [cells?_of_row hclass, List.map_map]
        simp [Function.comp_def]
      have hpart : (Part.line (TableRow.line row, first)).cells? = some row.2 := hrow
      rw [List.map_cons, List.zipIdx_cons, List.map_cons, List.filterMap_cons, hpart,
        ih hindent.2 hcells.2]
      rfl

/-- Where no line is a row, no part has cells. -/
theorem filterMap_cells?_of_no_row {below : List (List Char)}
    (hbelow : ∀ other ∈ below, row? (Text.trim other) = none) (first : Nat) :
    ((partsFrom ((Text.ofParts below).zipIdx first)).takeWhile (!·.endsWindow)).filterMap Part.cells?
      = [] := by
  rw [List.filterMap_eq_nil_iff]
  intro part hpart
  cases part with
  | docString doc => rfl
  | line numbered =>
      obtain ⟨before, after, -, hsplit, -⟩ :=
        exists_of_mem_partsFrom ((List.takeWhile_sublist _).subset hpart)
      have hmem : numbered.1 ∈ Text.ofParts below := by
        refine List.fst_mem_of_mem_zipIdx (k := first) ?_
        rw [hsplit]
        exact List.mem_append_right _ List.mem_cons_self
      show cells? numbered = none
      -- A line below is one of the given ones, up to a carriage return at its end.
      obtain ⟨other, hother, hline | hline⟩ := Text.exists_of_mem_ofParts hmem
      · rw [cells?, hline, hbelow other hother, Option.map_none]
      · rw [cells?, hline, Text.trim_dropReturn, hbelow other hother, Option.map_none]

/-- A written row is read as the cells that it was written from. Rows that are written on the
lines directly below a step outside of closed doc strings, each with any indentation, are the
rows of its table, in their order. Behind them come the rows that other lines still put into
the window of the step, and where no line further down is a row, the table has exactly these
rows. -/
theorem table_of_rows (policy : ConjunctionPolicy) {text : String} {above below : List (List Char)}
    {line sentence : List Char} {keyword : Keyword} {rows : List (List Char × List String)}
    (htext : text.toList
      = Text.joinLines (above ++ line :: (rows.map TableRow.line ++ below)))
    (hlines : ∀ other ∈ above ++ line :: below, '\n' ∉ other)
    (hstep : stepLine? line = some (keyword, sentence))
    (houtside : above.length + 1 ∈ (outside text).map Prod.snd)
    (hrows : rows ≠ [])
    (hindent : ∀ row ∈ rows, ∀ c ∈ row.1, Text.isBlank c = true ∧ c ≠ '\n')
    (hcells : ∀ row ∈ rows, ∀ cell ∈ row.2, Text.trimmed cell = cell) :
    (∀ cells : List String, (∀ cell ∈ cells, Text.trimmed cell = cell) →
        row? (TableRow.text cells) = some (cells.map String.toList))
      ∧ ∃ step ∈ (extract policy text).steps,
          step.line = above.length + 1 ∧ step.keyword = keyword
            ∧ step.text = String.ofList sentence
            ∧ step.table? = some (rows.map Prod.snd
              ++ ((window text (above.length + 1)).drop rows.length).filterMap Part.cells?)
            ∧ ((∀ other ∈ below, row? (Text.trim other) = none) →
              step.table? = some (rows.map Prod.snd)) := by
  have hblank : ∀ row ∈ rows, ∀ c ∈ row.1, Text.isBlank c = true :=
    fun row hrow c hc => (hindent row hrow c hc).1
  have hread := lines_of_rows hrows hlines fun row hrow hc => (hindent row hrow '\n' hc).2 rfl
  rw [← htext] at hread
  have houtside' : (above.map Text.dropReturn).length + 1 ∈ (outside text).map Prod.snd := by
    rwa [List.length_map]
  obtain ⟨hmem, hwindow⟩ := window_of_lines hread houtside'
  rw [List.length_map] at hmem hwindow
  have hstep' : stepLine? (Text.dropReturn line) = some (keyword, sentence) := by
    rw [stepLine?_dropReturn, hstep]
  obtain ⟨step, hmem, hnumber, hkeyword, hsentence⟩ :=
    exists_step_of_mem_outside policy hmem hstep'
  -- The window of the step is the rows and what other lines put behind them.
  rw [takeWhile_parts_rows hblank hcells] at hwindow
  have hdrop : (window text (above.length + 1)).drop rows.length
      = (partsFrom ((Text.ofParts below).zipIdx (above.length + 2 + rows.length))).takeWhile
          (!·.endsWindow) := by
    rw [hwindow, List.drop_left' (by simp)]
  have htable : step.table? = some (rows.map Prod.snd
      ++ ((window text (above.length + 1)).drop rows.length).filterMap Part.cells?) := by
    rw [(arguments_of_mem_extract hmem).1, hnumber, hdrop, tableOf?, hwindow,
      List.filterMap_append, filterMap_cells?_rows hblank hcells]
    cases rows with
    | nil => exact absurd rfl hrows
    | cons row rows => rfl
  refine ⟨fun cells => TableRow.row?_text, step, hmem, hnumber, hkeyword, hsentence, htable, ?_⟩
  intro hbelow
  rw [htable, hdrop, filterMap_cells?_of_no_row hbelow, List.append_nil]

/-- Cells with a bar, with backslashes at their ends, with a line feed and with nothing come
back from a script. -/
theorem table_of_escaped_rows :
    let text := "# c\nGiven t:\r\n\t| a \\| b |  |\n  | \\\\ | x\\ny\\\\ |\n\nWhen u\n"
    2 ∈ (outside text).map Prod.snd
      ∧ ∃ step ∈ (extract .inherit text).steps, step.line = 2
        ∧ step.table? = some [["a | b", ""], ["\\", "x\ny\\"]] := by
  intro text
  let rows := [(['\t'], ["a | b", ""]), ([' ', ' '], ["\\", "x\ny\\"])]
  have htext : text.toList = Text.joinLines (["# c".toList] ++ "Given t:\r".toList
      :: (rows.map TableRow.line ++ [[], "When u".toList, []])) := by decide
  have hindent : ∀ row ∈ rows, ∀ c ∈ row.1, Text.isBlank c = true ∧ c ≠ '\n' :=
    List.forall_mem_cons.mpr ⟨List.all_iff_forall_prop.mp (by decide),
      List.forall_mem_singleton.mpr (List.all_iff_forall_prop.mp (by decide))⟩
  have hstep : stepLine? "Given t:\r".toList = some (.given, "t:".toList) := by decide
  have houtside : 2 ∈ (outside text).map Prod.snd := by decide
  obtain ⟨-, step, hmem, hline, -, -, -, htable⟩ :=
    table_of_rows .inherit htext (by decide) hstep houtside (by decide) hindent (by decide)
  exact ⟨houtside, step, hmem, hline, htable (by decide)⟩

end Script

end ScenarioSteps
