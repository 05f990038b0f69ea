import ScenarioSteps.Proofs.Catalog.Words
import ScenarioSteps.Proofs.Literal.Delimited
import ScenarioSteps.Proofs.Source.Fragment
import ScenarioSteps.Proofs.Text.Lines

/-!
# `ScenarioSteps.Proofs.Catalog.StorePath`: the keys that lead to a place in the store

Two patterns of the store section capture a dotted path. In a mounted component the code
holds the keys of the path, each in brackets behind the state (`pathKeys`). In a browser it
holds the path as one literal, and cuts it at its dots when the test runs (`walkedKeys`).

A literal is read as the text it was made of, so in both idioms the keys come back as they
were (`readsKeys_propertyPath`). But empty keys are left out of the brackets, and the cut
keeps them. So both idioms lead to the same place exactly if no key of the path is empty
(`Registry.same_place_iff`).
-/

set_option autoImplicit false

namespace ScenarioSteps

/-! ### Keys in code -/

/-- The keys that a dotted path is cut into when a test runs. -/
def walkedKeys (path : String) : List String :=
  (Text.splitBy (· == '.') path.toList).map String.ofList

/-- The keys in brackets are the walked ones, the empty ones left out. -/
theorem pathKeys_eq_filter (path : String) :
    pathKeys path = (walkedKeys path).filter (!·.isEmpty) := by
  rw [pathKeys, walkedKeys, List.filter_map]
  refine congrArg _ (List.filter_congr fun part _ => congrArg Bool.not ?_)
  rw [Bool.eq_iff_iff, List.isEmpty_iff, String.isEmpty_iff, String.ofList_eq_empty_iff]

/-- No key is left out unless a dot stands at an end of the path or behind another dot, or
nothing stands there at all. -/
theorem pathKeys_eq_walkedKeys_iff (path : String) :
    pathKeys path = walkedKeys path
      ↔ path ≠ "" ∧ ¬ ['.'] <+: path.toList ∧ ¬ ['.'] <:+ path.toList
        ∧ ¬ ['.', '.'] <:+: path.toList := by
  have hparts := Text.nil_mem_splitBy_iff '.' path.toList
  rw [String.toList_eq_nil_iff] at hparts
  have hkept : pathKeys path = walkedKeys path ↔ [] ∉ Text.splitBy (· == '.') path.toList := by
    rw [pathKeys_eq_filter, List.filter_eq_self, walkedKeys, List.forall_mem_map]
    constructor
    · exact fun h hmem => absurd (h [] hmem) (by decide)
    · intro h part hpart
      rw [Bool.not_eq_true', ← Bool.not_eq_true, String.isEmpty_iff, String.ofList_eq_empty_iff]
      rintro rfl
      exact h hpart
  rw [hkept, hparts]
  tauto

/-- A literal in single quotes is read as the text. -/
def ReadsText (code : List Char) (text : String) : Prop :=
  ∃ inside, code = '\'' :: inside
    ∧ (Literal.inQuotes '\'').read? inside = some (text.toList, [])

/-- Code is read as keys, each a literal in brackets. -/
inductive ReadsKeys : List Char → List String → Prop
  | nil : ReadsKeys [] []
  | cons {inside rest : List Char} {key : String} {keys : List String}
      (hkey : (Literal.inQuotes '\'').read? inside = some (key.toList, ']' :: rest))
      (hrest : ReadsKeys rest keys) : ReadsKeys ('[' :: '\'' :: inside) (key :: keys)

/-- Code is read as one list of keys at most. -/
theorem ReadsKeys.unique {code : List Char} {keys others : List String}
    (h : ReadsKeys code keys) (hothers : ReadsKeys code others) : keys = others := by
  induction h generalizing others with
  | nil =>
      cases hothers
      rfl
  | cons hkey hrest ih =>
      cases hothers with
      | cons hkey' hrest' =>
          rw [hkey, Option.some_inj, Prod.mk.injEq, List.cons_inj_right] at hkey'
          obtain ⟨htext, rfl⟩ := hkey'
          rw [String.toList_inj.mp htext, ih hrest']

/-- A literal of a text is read as the text, whatever stands behind it. -/
theorem read?_quoted (text : String) (rest : List Char) :
    ∃ inside, (Literal.quoted text).toList ++ rest = '\'' :: inside
      ∧ (Literal.inQuotes '\'').read? inside = some (text.toList, rest) := by
  refine ⟨(Literal.escapeString '\'' text).toList ++ '\'' :: rest, ?_, ?_⟩
  · simp [Literal.quoted]
  · exact (Literal.closes_escapeString (by decide) text).1 rest

/-- The literal of a path is read as the path, and as nothing else. -/
theorem readsText_quoted (path text : String) :
    ReadsText (Literal.quoted path).toList text ↔ text = path := by
  obtain ⟨inside, hinside, hread⟩ := read?_quoted path []
  rw [List.append_nil] at hinside
  rw [ReadsText, hinside]
  constructor
  · rintro ⟨_, hsame, htext⟩
    obtain rfl := (List.cons_inj_right _).mp hsame
    rw [hread, Option.some_inj, Prod.mk.injEq, String.toList_inj] at htext
    exact htext.1.symm
  · rintro rfl
    exact ⟨inside, rfl, hread⟩

namespace Code

/-- A quoted text is rendered as its literal. -/
theorem render_quoted (text : String) :
    (quoted text).render.toList = (Literal.quoted text).toList := by
  rw [toList_render]
  exact List.append_nil _

/-- Without a separator, fragments stand one behind another. -/
theorem render_join (codes : List Code) :
    (join "" codes).render.toList = codes.flatMap fun code => code.render.toList := by
  induction codes with
  | nil => rfl
  | cons first rest ih =>
      cases rest with
      | nil => simp [join]
      | cons next rest =>
          have hjoin : join "" (first :: next :: rest)
            = first ++ fixed "" ++ join "" (next :: rest) := rfl
          rw [hjoin, render_append, render_append, render_fixed, ih, List.flatMap_cons]
          simp

end Code

/-- The brackets of a path are read as its keys, and as nothing else. -/
theorem readsKeys_propertyPath (path : String) (keys : List String) :
    ReadsKeys (Code.propertyPath path).render.toList keys ↔ keys = pathKeys path := by
  have hreads : ReadsKeys (Code.propertyPath path).render.toList (pathKeys path) := by
    rw [Code.propertyPath, Code.render_join, List.flatMap_map]
    -- Each key is read up to its bracket, whatever brackets stand behind it.
    induction pathKeys path with
    | nil => exact .nil
    | cons key keys ih =>
        obtain ⟨inside, hinside, hread⟩ := read?_quoted key (']' :: keys.flatMap fun key =>
          ("[" ++ Code.quoted key ++ "]" : Code).render.toList)
        have hfirst : ("[" ++ Code.quoted key ++ "]" : Code).render.toList
            = '[' :: (Literal.quoted key).toList ++ [']'] := by
          rw [Code.render_append, Code.render_append, Code.render_fixed, Code.render_fixed,
            Code.render_quoted]
          rfl
        rw [List.flatMap_cons, hfirst, List.append_assoc, List.cons_append, List.singleton_append,
          hinside]
        exact .cons hread ih
  exact ⟨fun h => h.unique hreads, fun h => h ▸ hreads⟩

/-! ### The two patterns -/

/-- Code that goes to a place in the store. -/
structure StoreAccess where
  key : String
  /-- The code in a mounted component, for the keys in brackets and a value. -/
  mounted : (brackets value : String) → String
  /-- The code in a browser, for the literal of the path and a value. It cuts the path at its
  dots and goes from the state along all its keys. -/
  browser : (literal value : String) → String

namespace StoreAccess

/-- A value is put there. -/
def put : StoreAccess where
  key := "store/set-state"
  mounted brackets value := "store.state" ++ brackets ++ " = " ++ value ++ ";"
  browser literal value :=
    "await page.evaluate(([path, value]) => \x7b\n  const keys = path.split('.');\n"
      ++ "  const last = keys.pop();\n"
      ++ "  keys.reduce((state, key) => state[key], window.__store__.state)[last] = value;\n\x7d, ["
      ++ literal ++ ", " ++ value ++ "]);"

/-- The value there is compared. -/
def compared : StoreAccess where
  key := "store/state-equals"
  mounted brackets value := "expect(store.state" ++ brackets ++ ").toEqual(" ++ value ++ ");"
  browser literal value :=
    "expect(await page.evaluate((path) => path.split('.').reduce((state, key) => state[key], "
      ++ "window.__store__.state), " ++ literal ++ ")).toEqual(" ++ value ++ ");"

/-- The code for a path and a value. -/
def body (access : StoreAccess) (target : ExecutionTarget) (path value : String) : String :=
  match target with
  | .playwright => access.browser (Literal.quoted path) (Code.value value).render
  | .componentMount => access.mounted (Code.propertyPath path).render (Code.value value).render

/-- What is known of code that goes to the store from the expression and the generator under
its key. -/
structure Fits (access : StoreAccess) (regex : Regex) (generate : CodeGenerator) : Prop where
  listed : InCatalog access.key regex generate
  renders : ∀ target values path value,
    values[0]? = some (some path) → values[1]? = some (some value) →
      Yields values (fun code => code.render = access.body target path value) (generate target)

section

variable {values : List (Option String)} {path value : String}

/-- The generator that puts a value writes the body for its path. -/
theorem yields_put (hpath : values[0]? = some (some path))
    (hvalue : values[1]? = some (some value)) (target : ExecutionTarget) :
    Yields values (fun code => code.render = put.body target path value)
      (Store.setState target) := by
  refine (yields_captured hvalue).bind ?_
  rintro value rfl
  refine (yields_captured hpath).bind ?_
  rintro path rfl
  cases target <;> refine yields_pure (String.toList_inj.mp ?_)
  all_goals
    simp only [body, put, Code.render_append, Code.render_fixed, Code.render_quoted,
      String.toList_append]

/-- What puts a value fits the pattern under its key. -/
theorem put_fits : ∃ regex, put.Fits regex Store.setState :=
  ⟨_, .of_find? rfl rfl, fun target _ _ _ hpath hvalue => yields_put hpath hvalue target⟩

/-- The generator that compares a value writes the other body. -/
theorem yields_compared (hpath : values[0]? = some (some path))
    (hvalue : values[1]? = some (some value)) (target : ExecutionTarget) :
    Yields values (fun code => code.render = compared.body target path value)
      (Store.stateEquals target) := by
  refine (yields_captured hvalue).bind ?_
  rintro value rfl
  refine (yields_captured hpath).bind ?_
  rintro path rfl
  cases target <;> refine yields_pure (String.toList_inj.mp ?_)
  all_goals
    simp only [body, compared, Code.render_append, Code.render_fixed, Code.render_quoted,
      String.toList_append]

/-- What compares a value fits the pattern under its key. -/
theorem compared_fits : ∃ regex, compared.Fits regex Store.stateEquals :=
  ⟨_, .of_find? rfl rfl, fun target _ _ _ hpath hvalue => yields_compared hpath hvalue target⟩

end

end StoreAccess

namespace Registry

variable {r : Registry} {entry : Entry} {access : StoreAccess}

/-- For any path and value, the two bodies of a pattern hold the keys of the path in brackets
and the path as a literal. The literal is read as the path, which is then cut at its dots, and
the brackets are read as those of its keys that are not empty. So both lead to the same place
if and only if the path has no empty key, which is where it is empty itself or has a dot at
one of its ends or behind another one. -/
theorem same_place_iff (hr : standard = .ok r) (hentry : entry ∈ r.entries)
    (haccess : access ∈ [StoreAccess.put, StoreAccess.compared]) (hkey : entry.key = access.key)
    (output : OutputTarget) (path value : String) :
    ∃ brackets literal,
      (entry.pattern.generator.run ⟨output, .componentMount⟩ [some path, some value]).1
          = .body (access.mounted brackets (Code.value value).render)
        ∧ (entry.pattern.generator.run ⟨output, .playwright⟩ [some path, some value]).1
          = .body (access.browser literal (Code.value value).render)
        ∧ (∀ text, ReadsText literal.toList text ↔ text = path)
        ∧ (∀ keys, ReadsKeys brackets.toList keys
          ↔ keys = (walkedKeys path).filter (!·.isEmpty))
        ∧ (ReadsKeys brackets.toList (walkedKeys path)
          ↔ path ≠ "" ∧ ¬ ['.'] <+: path.toList ∧ ¬ ['.'] <:+ path.toList
            ∧ ¬ ['.', '.'] <:+: path.toList) := by
  have hfits : ∃ generate regex, access.Fits regex generate := by
    rcases List.mem_pair.mp haccess with rfl | rfl
    · exact ⟨_, StoreAccess.put_fits⟩
    · exact ⟨_, StoreAccess.compared_fits⟩
  obtain ⟨generate, regex, ⟨p, hrow, hgenerate⟩, hrenders⟩ := hfits
  -- The generator is run on the captures themselves, so path and value can be any texts.
  have hbody (target : ExecutionTarget) :
      (entry.pattern.generator.run ⟨output, target⟩ [some path, some value]).1
        = .body (access.body target path value) := by
    rw [(row_of_mem_standard hr hentry hrow hkey).1, hgenerate]
    refine (generate.run_toGenerator ⟨output, target⟩ _).trans (congrArg Outcome.body ?_)
    exact (hrenders target _ path value rfl rfl { values := [some path, some value] } rfl).1
  refine ⟨_, _, hbody .componentMount, hbody .playwright, readsText_quoted path, ?_, ?_⟩
  · intro keys
    rw [readsKeys_propertyPath, pathKeys_eq_filter]
  · rw [readsKeys_propertyPath, eq_comm, pathKeys_eq_walkedKeys_iff]

/-- A path with two keys leads to the same place in both idioms. -/
theorem put_at_two_keys :
    ∃ r entry, standard = .ok r ∧ entry ∈ r.entries ∧ entry.key = StoreAccess.put.key
      ∧ ∃ brackets literal,
        (entry.pattern.generator.run ⟨.generic, .componentMount⟩
            [some "cart.items", some "3"]).1
          = .body (StoreAccess.put.mounted brackets (Code.value "3").render)
        ∧ (entry.pattern.generator.run ⟨.generic, .playwright⟩ [some "cart.items", some "3"]).1
          = .body (StoreAccess.put.browser literal (Code.value "3").render)
        ∧ (∀ text, ReadsText literal.toList text ↔ text = "cart.items")
        ∧ (∀ keys, ReadsKeys brackets.toList keys
          ↔ keys = (walkedKeys "cart.items").filter (!·.isEmpty))
        ∧ (ReadsKeys brackets.toList (walkedKeys "cart.items")
          ↔ "cart.items" ≠ "" ∧ ¬ ['.'] <+: "cart.items".toList
            ∧ ¬ ['.'] <:+ "cart.items".toList ∧ ¬ ['.', '.'] <:+: "cart.items".toList) := by
  obtain ⟨r, m, hr, hm, hkey, -⟩ := exists_resolve?_standard
    "the store state \"cart.items\" is \"3\"" "store/set-state" [some "cart.items", some "3"]
    (by decide +kernel)
  have hmem := (recognise?_of_resolve? hm).1
  exact ⟨r, m.entry, hr, hmem, hkey,
    same_place_iff hr hmem List.mem_cons_self hkey .generic "cart.items" "3"⟩

/-- Two dots one behind the other are an empty key in a browser, and none in brackets. -/
theorem doubled_dot_is_lost :
    ∃ r m, standard = .ok r ∧ r.resolve? "the store state \"a..b\" is \"1\"" = some m
      ∧ m.key = StoreAccess.put.key ∧ m.captures = [some "a..b", some "1"]
      ∧ (m.generate ⟨.generic, .playwright⟩).1 = .body (StoreAccess.put.browser "'a..b'" "1")
      ∧ walkedKeys "a..b" = ["a", "", "b"]
      ∧ (m.generate ⟨.generic, .componentMount⟩).1
        = .body (StoreAccess.put.mounted "['a']['b']" "1")
      ∧ ∀ keys, ReadsKeys "['a']['b']".toList keys ↔ keys = ["a", "b"] := by
  obtain ⟨r, m, hr, hm, hkey, hvalues⟩ := exists_resolve?_standard
    "the store state \"a..b\" is \"1\"" "store/set-state" [some "a..b", some "1"]
    (by decide +kernel)
  obtain ⟨regex, hfits⟩ := StoreAccess.put_fits
  obtain ⟨-, -, hgenerate⟩ := run_of_resolve? hr hm hfits.listed hkey
  refine ⟨r, m, hr, hm, hkey, hvalues, ?_, by decide, ?_, ?_⟩
  · rw [hgenerate, hvalues]
    exact congrArg Outcome.body (by decide +kernel)
  · rw [hgenerate, hvalues]
    exact congrArg Outcome.body (by decide +kernel)
  · intro keys
    have hbrackets : "['a']['b']".toList = (Code.propertyPath "a..b").render.toList := by
      decide
    have hkeys : pathKeys "a..b" = ["a", "b"] := by decide
    rw [hbrackets, readsKeys_propertyPath, hkeys]

end Registry

end ScenarioSteps
