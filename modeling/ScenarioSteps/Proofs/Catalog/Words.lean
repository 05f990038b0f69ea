import ScenarioSteps.Proofs.Catalog.Quoted
import ScenarioSteps.Proofs.Catalog.Suited
import ScenarioSteps.Proofs.Regex.Spelling
import ScenarioSteps.Proofs.Text.CaseFold

/-!
# `ScenarioSteps.Proofs.Catalog.Words`: words that patterns of the catalog capture

A few groups of the catalog choose between words, which they read in any case. What they
capture spells one of the words, and then it is the same up to simple case folding
(`sameFolded_of_spells`). Whether it is also the same in other notions of case is settled
letter by letter: it is so for ASCII if no letter is foreign (`sameAscii_iff_of_spells`),
and always for the upper case if the word has no `k` (`upper_of_spells`).

Patterns of the catalog are looked up by their keys (`InCatalog.of_find?`).
`Registry.run_of_resolve?` goes from a sentence and its key to what the pattern under that
key captures and generates.
-/

set_option autoImplicit false

namespace ScenarioSteps

/-! ### Words in any case -/

/-- A map of characters that takes a letter and what matches it to one value. -/
theorem map_eq_of_spells {α : Type} {f g : Char → α} {word text : List Char}
    (h : Text.Spells (word.map fun c => (CharSet.single c).anyCase) text)
    (hf : ∀ c ∈ word, ∀ d ∈ text, (CharSet.single c).anyCase.mem d = true → f d = g c) :
    text.map f = word.map g := by
  induction word generalizing text with
  | nil =>
      cases h
      rfl
  | cons c word ih =>
      cases h with
      | @cons _ d _ rest hd hrest =>
          rw [List.map_cons, List.map_cons, hf c List.mem_cons_self d List.mem_cons_self hd,
            ih hrest fun c' hc' d' hd' => hf c' (List.mem_cons_of_mem _ hc') d'
              (List.mem_cons_of_mem _ hd')]

section

variable {word text : String}

/-- A spelling has as many characters as its word. -/
theorem length_of_spells (h : Text.Spells (caseless word) text.toList) :
    text.toList.length = word.toList.length := by
  have hlength := List.Forall₂.length_eq h
  rw [caseless, List.length_map] at hlength
  exact hlength.symm

/-- Texts of different lengths are not the same, whatever is done to their characters. -/
theorem map_ne_of_length {α : Type} (f : Char → α) (h : text.toList.length ≠ word.toList.length) :
    text.toList.map f ≠ word.toList.map f := by
  intro heq
  have hlength := congrArg List.length heq
  rw [List.length_map, List.length_map] at hlength
  exact h hlength

/-- A spelling of a word is the same up to simple case folding. -/
theorem sameFolded_of_spells (hword : word.toList ⊆ Text.asciiLetters)
    (h : Text.Spells (caseless word) text.toList) : Text.sameFolded text word = true :=
  beq_iff_eq.mpr <| map_eq_of_spells h fun _ hc _ _ hd =>
    Text.foldChar_of_mem_anyCase (hword hc) hd

/-- A spelling of a word is the same in ASCII if and only if no letter is foreign. -/
theorem sameAscii_iff_of_spells (hword : word.toList ⊆ Text.asciiLetters)
    (h : Text.Spells (caseless word) text.toList) :
    Text.sameAscii text word = true ↔ ∀ c ∈ text.toList, c ∉ Text.foreignLetters := by
  rw [Text.sameAscii, beq_iff_eq]
  constructor
  · intro hsame d hd hforeign
    have hmem : d.toLower ∈ word.toList.map Char.toLower := hsame ▸ List.mem_map_of_mem hd
    obtain ⟨c, hc, heq⟩ := List.mem_map.mp hmem
    -- The lower case of a foreign letter in ASCII is the letter itself.
    have hnone : ∀ d ∈ Text.foreignLetters, d.toLower ∉ Text.asciiLetters.map Char.toLower :=
      List.all_iff_forall_prop.mp (by decide)
    exact hnone d hforeign (heq ▸ List.mem_map_of_mem (hword hc))
  · intro hforeign
    exact map_eq_of_spells h fun c hc d hd hmatch =>
      Text.toLower_of_mem_anyCase (hword hc) hmatch (hforeign d hd)

/-- The upper case of a spelling is that of the word, if the word has no letter that the
Kelvin sign can stand for. -/
theorem upper_of_spells (hword : word.toList ⊆ Text.asciiLetters)
    (hkelvin : 'k' ∉ word.toList.map Char.toLower)
    (h : Text.Spells (caseless word) text.toList) :
    Text.upper text = String.ofList (word.toList.map Char.toUpper) := by
  have hupper := map_eq_of_spells h fun c hc _ _ hd =>
    Text.upperChar_of_mem_anyCase (hword hc) hd fun hk => hkelvin (hk ▸ List.mem_map_of_mem hc)
  rw [Text.upper, List.flatMap_def, hupper, ← List.flatMap_def, ← List.map_eq_flatMap]

end

/-! ### Matches of the catalog -/

/-- A pattern of the catalog by its key, with its expression and its generator. -/
def InCatalog (key : String) (regex : Regex) (generate : CodeGenerator) : Prop :=
  ∃ p : StepPattern, ((key, p), regex) ∈ catalog.zip catalogRegexes
    ∧ p.generator = generate.toGenerator

/-- What is found under a key is in the catalog. -/
theorem InCatalog.of_find? {key : String} {p : StepPattern} {regex : Regex}
    {generate : CodeGenerator}
    (hfound : (catalog.zip catalogRegexes).find? (·.1.1 == key) = some ((key, p), regex))
    (hgenerate : p.generator = generate.toGenerator) : InCatalog key regex generate :=
  ⟨p, List.mem_of_find?_eq_some hfound, hgenerate⟩

namespace Registry

variable {r : Registry} {m : Match}

/-- What a match captures and generates is known from its key. -/
theorem run_of_resolve? (hr : standard = .ok r) {sentence : String}
    (hm : r.resolve? sentence = some m) {key : String} {regex : Regex} {generate : CodeGenerator}
    (hlisted : InCatalog key regex generate) (hkey : m.key = key) :
    regex.loopsConsume = true ∧ regex.captures? (Text.trimmed sentence) = some m.captures
      ∧ ∀ options : Options, (m.generate options).1
        = .body (generate options.execution { values := m.captures }).1.render := by
  obtain ⟨p, hrow, hgenerate⟩ := hlisted
  obtain ⟨hmem, hfound⟩ := recognise?_of_resolve? hm
  -- The entry is the row of the catalog under this key, with its expression.
  obtain ⟨hpattern, hregex⟩ := row_of_mem_standard hr hmem hrow hkey
  dsimp only at hpattern hregex
  rw [← hregex]
  refine ⟨(plain_of_mem_standard hr hmem).1, (Entry.recognise?_eq_some_iff.mp hfound).2, ?_⟩
  intro options
  rw [Match.generate, hpattern, hgenerate]
  exact generate.run_toGenerator options m.captures

/-- A sentence goes where the first expression of the catalog captures something in it. -/
theorem exists_resolve?_standard (sentence key : String) (values : List (Option String))
    (h : ((catalog.map Prod.fst).zip catalogRegexes).findSome? (fun row =>
      (row.2.captures? (Text.trimmed sentence)).map (Prod.mk row.1)) = some (key, values)) :
    ∃ r m, standard = .ok r ∧ r.resolve? sentence = some m ∧ m.key = key
      ∧ m.captures = values := by
  obtain ⟨r, hr, hpatterns, hregexes⟩ := standard_entries
  have hkeys : r.entries.map (fun e => (e.key, e.regex))
      = (catalog.map Prod.fst).zip catalogRegexes := by
    rw [← hpatterns, ← hregexes, List.map_map]
    exact (List.zip_map' ..).symm
  -- So what is looked for among the rows is what dispatch looks for among the entries.
  rw [← hkeys, ← map_captures_resolve?] at h
  obtain ⟨m, hm, hfound⟩ := Option.map_eq_some_iff.mp h
  obtain ⟨hkey, hvalues⟩ := Prod.mk.inj hfound
  exact ⟨r, m, hr, hm, hkey, hvalues⟩

end Registry

end ScenarioSteps
