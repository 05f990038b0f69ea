import ScenarioSteps.File.Header
import ScenarioSteps.Proofs.Declaration.Context
import ScenarioSteps.Proofs.Declaration.ReadBack

/-!
# `ScenarioSteps.Proofs.File.Header`: the header keeps its two texts

The header of a file holds two texts from outside, the name of the script and the title of its
feature. Both stand in line comments, and JavaScript ends a line at four characters.

`FileHeader.lines` are the lines that a header is meant to have. `sourceLines_fileHeader` says
that it has these and no more, since no line of them holds a character that ends one.
`fileHeader_lines` draws from it that each line is empty, a comment or an import, that there is
one comment for each of the three or four, and that both texts read back from their lines.
-/

set_option autoImplicit false

namespace ScenarioSteps

open Literal

namespace FileHeader

/-! ### The lines of a header -/

/-- What a comment begins with. -/
def commentStart : List Char :=
  "// ".toList

/-- What an import begins with. -/
def importStart : List Char :=
  "import \x7b ".toList

/-- What stands before the name of the script. -/
def nameStart : List Char :=
  "// Step definitions generated from ".toList

/-- What stands behind the name of the script. -/
def nameEnd : List Char :=
  " by stepforge.".toList

/-- What stands before the title of the feature. -/
def titleStart : List Char :=
  "// Feature: ".toList

/-- What stands before the names of the targets. -/
def targetStart : List Char :=
  "// Output target: ".toList

/-- The comment that names the script. -/
def nameLine (filename : String) : List Char :=
  nameStart ++ (escapeComment filename).toList ++ nameEnd

/-- The comment that names the feature. -/
def titleLine (title : String) : List Char :=
  titleStart ++ (escapeComment title).toList

/-- The comment that names the targets. -/
def targetLine (options : Options) : List Char :=
  targetStart ++ options.output.name.toList ++ ". Execution target: ".toList
    ++ options.execution.name.toList ++ ['.']

/-- The comment that says where to make changes. -/
def adviceLine : List Char :=
  "// Regenerate from the feature file instead of editing by hand.".toList

/-- All comments. -/
def comments (filename : String) (feature? : Option String) (options : Options) :
    List (List Char) :=
  nameLine filename :: ((feature?.map titleLine).toList ++ [targetLine options, adviceLine])

/-- The import of names from a module. -/
def importText (entry : String × List String) : List Char :=
  importStart ++ (", ".intercalate entry.2).toList ++ " \x7d from '".toList
    ++ entry.1.toList ++ "';".toList

/-- All lines. -/
def lines (filename : String) (feature? : Option String) (options : Options) :
    List (List Char) :=
  comments filename feature? options ++ [] :: options.imports.map importText ++ [[]]

/-- The name of the script that the first comment gives. -/
def readName? (line : List Char) : Option String := do
  let rest ← Text.after? nameStart line
  let escaped ← Declaration.before? nameEnd rest
  some (unescape (String.ofList escaped))

/-- The title that a comment on the feature gives. -/
def readTitle? (line : List Char) : Option String :=
  (Text.after? titleStart line).map fun escaped => unescape (String.ofList escaped)

/-! ### What the header is -/

/-- Lines with a line feed behind each are the lines of a text, if no character of theirs ends
one. -/
theorem sourceLines_flatMap {lines : List (List Char)}
    (hlines : ∀ line ∈ lines, ∀ c ∈ line, c ∉ lineEnds) :
    sourceLines (lines.flatMap (· ++ ['\n'])) = lines ++ [[]] := by
  have hcut := Text.splitBy_flatMap_cut (lineEnds.contains ·) (c := '\n') (by decide)
    (fun line hline c hc => contains_lineEnds_eq_false (hlines line hline c hc)) []
  rwa [List.append_nil] at hcut

/-- An import is one line and its line feed. -/
theorem toList_importLine (entry : String × List String) :
    (importLine entry.1 entry.2).toList = importText entry ++ ['\n'] := by
  have hend : "';\n".toList = "';".toList ++ ['\n'] := by decide
  unfold importLine importText importStart
  simp only [String.toList_append, hend, List.append_assoc]

/-- A header is its lines, each with a line feed behind it. -/
theorem toList_fileHeader (filename : String) (feature? : Option String) (options : Options) :
    (fileHeader filename feature? options).toList
      = (lines filename feature? options).flatMap (· ++ ['\n']) := by
  -- The definition has its line feeds inside the texts, and here they stand between lines.
  have hname : " by stepforge.\n".toList = nameEnd ++ ['\n'] := by decide
  have htargets : ".\n".toList = ['.', '\n'] := by decide
  have hadvice : "// Regenerate from the feature file instead of editing by hand.\n\n".toList
      = adviceLine ++ ['\n', '\n'] := by decide
  have hnewline : "\n".toList = ['\n'] := by decide
  have hempty : "".toList = [] := by decide
  have himports : (String.join
      (options.imports.map fun entry => importLine entry.1 entry.2)).toList
      = (options.imports.map importText).flatMap (· ++ ['\n']) := by
    rw [String.toList_join, List.flatMap_map, List.flatMap_map]
    exact List.flatMap_congr fun entry _ => toList_importLine entry
  unfold fileHeader lines comments nameLine titleLine targetLine targetStart
  cases feature? <;>
    simp only [String.toList_append, hname, htargets, hadvice, hnewline, hempty, himports,
      Option.map_none, Option.map_some, Option.toList_none, Option.toList_some,
      List.flatMap_append, List.flatMap_cons, List.flatMap_nil, List.append_assoc,
      List.cons_append, List.nil_append, List.append_nil] <;> rfl

/-! ### No line ends too early -/

/-- No name of a script ends the comment that it stands in. -/
theorem nameLine_not_lineEnd (filename : String) : ∀ c ∈ nameLine filename, c ∉ lineEnds := by
  have hstart : ∀ c ∈ nameStart, c ∉ lineEnds := List.all_iff_forall_prop.mp (by decide)
  have hend : ∀ c ∈ nameEnd, c ∉ lineEnds := List.all_iff_forall_prop.mp (by decide)
  rw [nameLine, List.forall_mem_append, List.forall_mem_append]
  exact ⟨⟨hstart, escapeComment_not_lineEnd filename⟩, hend⟩

/-- No title of a feature does. -/
theorem titleLine_not_lineEnd (title : String) : ∀ c ∈ titleLine title, c ∉ lineEnds := by
  have hstart : ∀ c ∈ titleStart, c ∉ lineEnds := List.all_iff_forall_prop.mp (by decide)
  rw [titleLine, List.forall_mem_append]
  exact ⟨hstart, escapeComment_not_lineEnd title⟩

/-- The two targets have fixed names, none with a line end in it. -/
theorem targetLine_not_lineEnd (options : Options) : ∀ c ∈ targetLine options, c ∉ lineEnds := by
  obtain ⟨output, execution⟩ := options
  cases output <;> cases execution <;> exact List.all_iff_forall_prop.mp (by decide)

/-- Nor has an import that a target asks for. -/
theorem importText_not_lineEnd (options : Options) :
    ∀ entry ∈ options.imports, ∀ c ∈ importText entry, c ∉ lineEnds := by
  have hall : ∀ entry ∈ options.imports,
      (importText entry).all (fun c => decide (c ∉ lineEnds)) = true := by
    obtain ⟨output, execution⟩ := options
    cases output <;> cases execution <;> decide
  exact fun entry hentry => List.all_iff_forall_prop.mp (hall entry hentry)

/-- So each line of the header stays one line of JavaScript. -/
theorem lines_not_lineEnd (filename : String) (feature? : Option String) (options : Options) :
    ∀ line ∈ lines filename feature? options, ∀ c ∈ line, c ∉ lineEnds := by
  have hadvice : ∀ c ∈ adviceLine, c ∉ lineEnds := List.all_iff_forall_prop.mp (by decide)
  have htitle : ∀ line ∈ (feature?.map titleLine).toList, ∀ c ∈ line, c ∉ lineEnds := by
    cases feature? with
    | none => exact List.forall_mem_nil _
    | some title => exact List.forall_mem_singleton.mpr (titleLine_not_lineEnd title)
  have himports : ∀ line ∈ options.imports.map importText, ∀ c ∈ line, c ∉ lineEnds :=
    List.forall_mem_map.mpr (importText_not_lineEnd options)
  simp only [lines, comments, List.forall_mem_append, List.forall_mem_cons]
  exact ⟨⟨⟨nameLine_not_lineEnd filename, htitle, targetLine_not_lineEnd options, hadvice,
    List.forall_mem_nil _⟩, List.forall_mem_nil _, himports⟩, List.forall_mem_nil _,
    List.forall_mem_nil _⟩

/-- The lines of a header as JavaScript ends them. Behind the last line feed stands nothing. -/
theorem sourceLines_fileHeader (filename : String) (feature? : Option String) (options : Options) :
    sourceLines (fileHeader filename feature? options).toList
      = lines filename feature? options ++ [[]] := by
  rw [toList_fileHeader, sourceLines_flatMap (lines_not_lineEnd filename feature? options)]

/-! ### What kind of line each is -/

/-- The comment on the targets can be told by what it begins with. -/
theorem prefix_targetLine (options : Options) : targetStart <+: targetLine options := by
  rw [targetLine, List.append_assoc, List.append_assoc, List.append_assoc]
  exact List.prefix_append _ _

/-- Each comment begins as one. -/
theorem prefix_of_mem_comments {filename : String} {feature? : Option String} {options : Options}
    {line : List Char} (h : line ∈ comments filename feature? options) :
    commentStart <+: line := by
  have hname : commentStart <+: nameLine filename := by
    rw [nameLine, List.append_assoc]
    exact (List.isPrefixOf_iff_prefix.mp (by decide)).trans (List.prefix_append _ _)
  have htitle : ∀ line ∈ (feature?.map titleLine).toList, commentStart <+: line := by
    cases feature? with
    | none => exact List.forall_mem_nil _
    | some title =>
        exact List.forall_mem_singleton.mpr
          ((List.isPrefixOf_iff_prefix.mp (by decide)).trans (List.prefix_append titleStart _))
  have htarget : commentStart <+: targetLine options :=
    (List.isPrefixOf_iff_prefix.mp (by decide)).trans (prefix_targetLine options)
  have hadvice : commentStart <+: adviceLine := List.isPrefixOf_iff_prefix.mp (by decide)
  rw [comments, List.mem_cons, List.mem_append, List.mem_cons, List.mem_singleton] at h
  obtain rfl | h | rfl | rfl := h
  · exact hname
  · exact htitle line h
  · exact htarget
  · exact hadvice

/-- So can an import. -/
theorem prefix_importText (entry : String × List String) : importStart <+: importText entry := by
  rw [importText, List.append_assoc, List.append_assoc, List.append_assoc]
  exact List.prefix_append _ _

/-- There is a comment line for each comment. -/
theorem countP_lines (filename : String) (feature? : Option String) (options : Options) :
    (lines filename feature? options).countP (commentStart.isPrefixOf ·)
      = (comments filename feature? options).length := by
  have hcomments : (comments filename feature? options).countP (commentStart.isPrefixOf ·)
      = (comments filename feature? options).length :=
    List.countP_eq_length.mpr fun line hline =>
      List.isPrefixOf_iff_prefix.mpr (prefix_of_mem_comments hline)
  have himports : (options.imports.map importText).countP (commentStart.isPrefixOf ·) = 0 := by
    rw [List.countP_eq_zero, List.forall_mem_map]
    exact fun entry _ h => not_begins (prefix_importText entry) (by decide)
      (List.isPrefixOf_iff_prefix.mp h)
  have hempty : ¬ commentStart.isPrefixOf [] = true := by decide
  rw [lines, List.countP_append, List.countP_append, List.countP_cons_of_neg hempty, hcomments,
    himports, List.countP_cons_of_neg hempty, List.countP_nil, Nat.add_zero]

/-- There are three comments, and one more if the feature has a title. -/
theorem length_comments (filename : String) (feature? : Option String) (options : Options) :
    (comments filename feature? options).length = if feature?.isSome then 4 else 3 := by
  cases feature? <;> simp only [comments, List.length_cons, List.length_append, Option.map_none,
    Option.map_some, Option.toList_none, Option.toList_some, List.length_nil,
    Option.isSome_none, Option.isSome_some, Bool.false_eq_true, if_true, if_false]

/-! ### What reads back -/

/-- The name of the script reads back from its comment. -/
theorem readName?_nameLine (filename : String) : readName? (nameLine filename) = some filename := by
  have hescape : unescape (escapeComment filename) = filename :=
    readsBack_commentChar.unescape_escapeWith filename
  rw [readName?, nameLine, List.append_assoc, Declaration.after?_append]
  simp only [Option.bind_eq_bind, Option.bind_some, Declaration.before?_append,
    String.ofList_toList, hescape]

/-- The title of the feature reads back from its comment. -/
theorem readTitle?_titleLine (title : String) : readTitle? (titleLine title) = some title := by
  have hescape : unescape (escapeComment title) = title :=
    readsBack_commentChar.unescape_escapeWith title
  rw [readTitle?, titleLine, Declaration.after?_append, Option.map_some, String.ofList_toList,
    hescape]

/-- The comment on the targets gives no title. -/
theorem readTitle?_targetLine (options : Options) : readTitle? (targetLine options) = none := by
  rw [readTitle?, Option.map_eq_none_iff, Text.after?_eq_none_iff]
  exact not_begins (prefix_targetLine options) (by decide)

/-- The first line gives the name of the script. -/
theorem getElem?_zero_lines (filename : String) (feature? : Option String) (options : Options) :
    (lines filename feature? options)[0]? = some (nameLine filename) := by
  rw [lines, comments, List.cons_append, List.cons_append, List.getElem?_cons_zero]

/-- The second line gives the title of the feature, if there is one. -/
theorem readTitle?_getElem?_one_lines (filename : String) (feature? : Option String)
    (options : Options) :
    (lines filename feature? options)[1]?.bind readTitle? = feature? := by
  cases feature? with
  | none =>
      rw [lines, comments, Option.map_none, Option.toList_none, List.nil_append]
      simp only [List.cons_append, List.getElem?_cons_succ, List.getElem?_cons_zero,
        Option.bind_some, readTitle?_targetLine]
  | some title =>
      rw [lines, comments, Option.map_some, Option.toList_some]
      simp only [List.cons_append, List.getElem?_cons_succ, List.getElem?_cons_zero,
        Option.bind_some, readTitle?_titleLine]

/-- Nothing gets out of the comments of a header. Split where JavaScript ends a line, each of
its lines is empty, a comment or an import, whatever stands in the name of the script and the
title of the feature. There are three comments, and one more for a title. The name reads back
from the first line, and the title from the second one, which gives no title if there is
none. -/
theorem fileHeader_lines (filename : String) (feature? : Option String) (options : Options) :
    let lines := sourceLines (fileHeader filename feature? options).toList
    (∀ line ∈ lines, line = [] ∨ commentStart <+: line ∨ importStart <+: line)
      ∧ lines.countP (commentStart.isPrefixOf ·) = (if feature?.isSome then 4 else 3)
      ∧ lines[0]?.bind readName? = some filename
      ∧ lines[1]?.bind readTitle? = feature? := by
  intro lines
  have hlines : lines = FileHeader.lines filename feature? options ++ [[]] :=
    sourceLines_fileHeader filename feature? options
  have hkinds : ∀ line ∈ FileHeader.lines filename feature? options,
      line = [] ∨ commentStart <+: line ∨ importStart <+: line := by
    intro line hline
    rw [FileHeader.lines, List.mem_append, List.mem_append, List.mem_cons, List.mem_map,
      List.mem_singleton] at hline
    obtain (hline | rfl | ⟨entry, -, rfl⟩) | rfl := hline
    · exact .inr (.inl (prefix_of_mem_comments hline))
    · exact .inl rfl
    · exact .inr (.inr (prefix_importText entry))
    · exact .inl rfl
  -- Behind the last line feed is an empty line, which is no comment.
  have hempty : ¬ commentStart.isPrefixOf [] = true := by decide
  have hone : 1 < (FileHeader.lines filename feature? options).length := by
    rw [FileHeader.lines, comments]
    simp only [List.cons_append, List.length_cons, List.length_append]
    omega
  rw [hlines]
  refine ⟨?_, ?_, ?_, ?_⟩
  · exact List.forall_mem_append.mpr ⟨hkinds, List.forall_mem_singleton.mpr (.inl rfl)⟩
  · rw [List.countP_append, countP_lines, length_comments, List.countP_cons_of_neg hempty,
      List.countP_nil, Nat.add_zero]
  · rw [List.getElem?_append_left (by omega), getElem?_zero_lines, Option.bind_some,
      readName?_nameLine]
  · rw [List.getElem?_append_left hone, readTitle?_getElem?_one_lines]

end FileHeader

end ScenarioSteps
