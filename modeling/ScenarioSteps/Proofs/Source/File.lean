import ScenarioSteps.Proofs.Catalog.Standard
import ScenarioSteps.Proofs.File.Arrange
import ScenarioSteps.Proofs.File.Block
import ScenarioSteps.Proofs.Script.DocStrings
import ScenarioSteps.Proofs.Source.Declaration

/-!
# `ScenarioSteps.Proofs.Source.File`: a file of declarations hangs together

A file is a header and declarations, and each of these parts leaves a reader where
it was. So the whole file lexes cleanly: every literal ends on its line, and every
bracket is closed by its own (`Registry.assemble_lexesCleanly`). This holds for the
registry of the catalog, whatever the layout, the options, the name of the file and
the script are.

The one thing that could break it is a media type, which stands in its comment as it
is written. A media type has no line feed, as it stands on a line of the script. The
other three ends of lines it must not have.
-/

set_option autoImplicit false

namespace ScenarioSteps

open Lexer (State Steady run)
open Literal (lineEnds)

/-! ### The header -/

/-- The line that names the script, with any name. -/
theorem steady_nameLine (filename : String) :
    Steady .code ("// Step definitions generated from " ++ Literal.escapeComment filename
      ++ " by stepforge.\n").toList := by
  have hsplit : " by stepforge.\n".toList = " by stepforge.".toList ++ ['\n'] := by decide
  rw [String.toList_append, String.toList_append, hsplit]
  exact Lexer.steady_commentLine_around ⟨_, rfl⟩ (List.all_iff_forall_prop.mp (by decide))
    (Literal.escapeComment_not_lineEnd filename) (List.all_iff_forall_prop.mp (by decide))

/-- The line that names the feature, with any title. -/
theorem steady_featureLine (title : String) :
    Steady .code ("// Feature: " ++ Literal.escapeComment title ++ "\n").toList := by
  have hsplit : "\n".toList = [] ++ ['\n'] := by decide
  rw [String.toList_append, String.toList_append, hsplit]
  exact Lexer.steady_commentLine_around ⟨_, rfl⟩ (List.all_iff_forall_prop.mp (by decide))
    (Literal.escapeComment_not_lineEnd title) (List.forall_mem_nil _)

/-- The line that names the targets. -/
theorem steady_targetLine (options : Options) :
    Steady .code ("// Output target: " ++ options.output.name ++ ". Execution target: "
      ++ options.execution.name ++ ".\n").toList := by
  cases options.output <;> cases options.execution <;> exact Lexer.steady_of_run (by decide)

/-- The imports of each pair of targets. -/
theorem steady_imports (options : Options) :
    Steady .code (String.join
      (options.imports.map fun (module, names) => importLine module names)).toList := by
  have hlines : ∀ p ∈ options.imports, run .start (importLine p.1 p.2).toList = some .start := by
    obtain ⟨output, execution⟩ := options
    cases output <;> cases execution <;> decide
  rw [String.toList_join, List.flatMap_map]
  exact Steady.flatMap fun p hp => Lexer.steady_of_run (hlines p hp)

/-- Only the name of the script and the title of the feature are text from outside. -/
theorem steady_fileHeader (filename : String) (feature? : Option String) (options : Options) :
    Steady .code (fileHeader filename feature? options).toList := by
  have hadvice : Steady .code
      "// Regenerate from the feature file instead of editing by hand.\n\n".toList :=
    Lexer.steady_of_run (by decide)
  have hnewline : Steady .code "\n".toList := Lexer.steady_of_run (by decide)
  -- What stands behind the lines with texts from outside.
  have hfixed := (((steady_targetLine options).append hadvice).append
    (steady_imports options)).append hnewline
  have hname := steady_nameLine filename
  cases feature? with
  | none =>
      have htext := hname.append hfixed
      simp only [← String.toList_append] at htext
      unfold fileHeader
      simpa only [String.append_assoc, String.append_empty, String.empty_append] using htext
  | some title =>
      have htext := (hname.append (steady_featureLine title)).append hfixed
      simp only [← String.toList_append] at htext
      unfold fileHeader
      simpa only [String.append_assoc] using htext

/-! ### Blocks -/

namespace Block

/-- The first line of a block opens two brackets, with any title. -/
theorem leads_opening (fallback : String) (b : Block) :
    run .start (b.opening fallback).toList = some ⟨.code, ['\x7d', ')']⟩ := by
  rw [opening]
  split
  · decide
  · have hbefore : run .start "test(".toList = some ⟨.opened, [')']⟩ := by decide
    have hbehind : run ⟨.code, [')']⟩ ", async (\x7b page \x7d) => \x7b".toList
        = some ⟨.code, ['\x7d', ')']⟩ := by decide
    have htitle := Lexer.isTerm_quoted (b.scenario?.getD fallback) .opened (by decide) [')']
    rw [String.toList_append, String.toList_append, List.append_assoc,
      Lexer.run_append_of hbefore, Lexer.run_append_of htitle, hbehind]

end Block

namespace Registry

variable {r : Registry}

/-- A block of steps whose media types stay in their comments. -/
theorem steady_blockText (h : r.IsSteady) (layout : Layout) (options : Options) (fallback : String)
    {b : Block} (hmedia : ∀ step ∈ b.steps, step.MediaStaysOnLine) :
    Steady .code (r.blockText layout options fallback b).toList := by
  have hdeclarations : Steady .code ("\n".intercalate ((layout.arrange b.steps).map fun step =>
      indent bodyIndent (r.declareStep options step))).toList := by
    rw [String.toList_intercalate, List.map_map]
    refine Steady.intercalate (Lexer.steady_of_run (by decide)) fun part hpart => ?_
    obtain ⟨step, hstep, rfl⟩ := List.mem_map.mp hpart
    exact (steady_declareStep h options (hmedia step (Layout.mem_of_mem_arrange hstep))).indent
  have hopening : run .start ((b.opening fallback).toList ++ "\n".toList)
      = some ⟨.code, ['\x7d', ')']⟩ := by
    rw [Lexer.run_append_of (b.leads_opening fallback)]
    decide
  have hclosing : run ⟨.code, ['\x7d', ')']⟩ "\x7d);\n".toList = some .start := by decide
  simp only [blockText, String.toList_append]
  exact Steady.enclosed hopening hdeclarations hclosing

/-- A file over patterns that write steady code. -/
theorem steady_assemble (h : r.IsSteady) (layout : Layout) (options : Options)
    (filename script : String)
    (hmedia : ∀ step ∈ (Script.extract layout.conjunctions script).steps, step.MediaStaysOnLine) :
    Steady .code (r.assemble layout options filename script).toList := by
  have hheader := steady_fileHeader filename (Script.extract layout.conjunctions script).feature?
    options
  -- Without blocks, a blank line stands before each declaration.
  have hflat : Steady .code (String.join
      ((layout.arrange (Script.extract layout.conjunctions script).steps).map fun step =>
        "\n" ++ r.declareStep options step ++ "\n")).toList := by
    rw [String.toList_join, List.flatMap_map]
    refine Steady.flatMap fun step hstep => ?_
    have hnewline : Steady .code "\n".toList := Lexer.steady_of_run (by decide)
    have hstep := steady_declareStep h options (hmedia step (Layout.mem_of_mem_arrange hstep))
    rw [String.toList_append, String.toList_append]
    exact (hnewline.append hstep).append hnewline
  have hblocks (fallback : String) : Steady .code ("\n".intercalate
      ((Block.ofSteps (Script.extract layout.conjunctions script).steps).map
        (r.blockText layout options fallback))).toList := by
    rw [String.toList_intercalate, List.map_map]
    refine Steady.intercalate (Lexer.steady_of_run (by decide)) fun part hpart => ?_
    obtain ⟨b, hb, rfl⟩ := List.mem_map.mp hpart
    exact steady_blockText h layout options fallback fun step hstep =>
      hmedia step (Block.mem_of_mem_ofSteps hb hstep)
  rw [assemble]
  cases options.output with
  | cucumber =>
      rw [String.toList_append]
      exact hheader.append hflat
  | generic =>
      rw [String.toList_append]
      exact hheader.append hflat
  | playwrightBdd =>
      rw [String.toList_append]
      exact hheader.append (hblocks _)

/-! ### The catalog -/

/-- All patterns of the catalog write steady code. -/
theorem isSteady_catalog : ∀ p ∈ catalog, p.2.IsSteady :=
  forall_mem_catalog Interaction.isSteady_patterns Navigation.isSteady_patterns
    Auth.isSteady_patterns Store.isSteady_patterns Network.isSteady_patterns

/-- The keys of the catalog can stand in comments. -/
theorem catalog_key_not_lineEnd : ∀ p ∈ catalog, ∀ c ∈ p.1.toList, c ∉ lineEnds := by
  have hkeys : ∀ key ∈ catalog.map Prod.fst, key.toList.all (· ∉ lineEnds) = true := by
    decide
  intro p hp
  exact List.all_iff_forall_prop.mp (hkeys p.1 (List.mem_map_of_mem hp))

/-- The patterns of a registry that holds the catalog write steady code. -/
theorem isSteady_of_entries (hentries : r.entries.map (fun e => (e.key, e.pattern)) = catalog) :
    r.IsSteady := by
  intro entry hentry
  have hmem : (entry.key, entry.pattern) ∈ catalog := by
    rw [← hentries]
    exact List.mem_map_of_mem hentry
  exact ⟨catalog_key_not_lineEnd _ hmem, isSteady_catalog _ hmem⟩

/-- Every file over the catalog lexes cleanly, if no media type of the script has a
carriage return or a separator of lines or paragraphs. -/
theorem assemble_lexesCleanly :
    ∃ r : Registry, standard = .ok r
      ∧ ∀ (layout : Layout) (options : Options) (filename script : String),
        (∀ step ∈ (Script.extract layout.conjunctions script).steps, ∀ doc ∈ step.docString?,
          ∀ media ∈ doc.mediaType?, ∀ c ∈ media.toList, c ∉ ['\r', '\u2028', '\u2029']) →
        Lexer.LexesCleanly (r.assemble layout options filename script).toList := by
  obtain ⟨r, hr, hentries, -⟩ := standard_entries
  refine ⟨r, hr, fun layout options filename script hmedia => Steady.lexesCleanly ?_⟩
  refine steady_assemble (isSteady_of_entries hentries) layout options filename script ?_
  intro step hstep doc hdoc media hmediaType c hc hend
  -- A line feed is the one end of a line that the script itself keeps out.
  rcases List.mem_cons.mp hend with rfl | hother
  · exact Script.newline_not_mem_mediaType hstep hdoc hmediaType hc
  · exact hmedia step hstep doc hdoc media hmediaType c hc hother

/-- A script with a quote in its sentence and a media type at its step. -/
theorem assemble_lexesCleanly_of_json :
    let script := "Given '\n\"\"\"json\n(\n\"\"\"\n"
    let steps := (Script.extract .inherit script).steps
    steps.map (fun step => step.docString?.bind DocString.mediaType?) = [some "json"]
      ∧ ∃ r : Registry, standard = .ok r
        ∧ Lexer.LexesCleanly
          (r.assemble {} { output := .playwrightBdd } "quote.feature" script).toList := by
  intro script steps
  have hmedia : steps.map (fun step => step.docString?.bind DocString.mediaType?)
      = [some "json"] := by
    simp only [steps, Script.extract_eq_onePass]
    decide
  -- The script has one media type, so what is asked of each is asked of this one.
  have hplain : ∀ step ∈ steps, ∀ doc ∈ step.docString?, ∀ media ∈ doc.mediaType?,
      ∀ c ∈ media.toList, c ∉ ['\r', '\u2028', '\u2029'] := by
    intro step hstep doc hdoc media hmediaType
    have hmem : some media
        ∈ steps.map (fun step => step.docString?.bind DocString.mediaType?) := by
      refine List.mem_map.mpr ⟨step, hstep, ?_⟩
      rw [Option.mem_def.mp hdoc]
      exact hmediaType
    rw [hmedia, List.mem_singleton] at hmem
    obtain rfl := Option.some.inj hmem
    exact List.all_iff_forall_prop.mp (by decide)
  obtain ⟨r, hr, hclean⟩ := assemble_lexesCleanly
  exact ⟨hmedia, r, hr, hclean {} { output := .playwrightBdd } "quote.feature" script hplain⟩

end Registry

end ScenarioSteps
