import ScenarioSteps.Proofs.Catalog.Words

/-!
# `ScenarioSteps.Proofs.Catalog.Method`: methods of requests

Two patterns of the network section capture the method of a request in any case, up to
simple case folding. The code names the method by the full upper case of what was
captured. For the five methods the two notions of case fit together: a long s is read as
the `S` of `POST`, and its upper case is `S` again. The Kelvin sign, for which they do not,
stands for no letter of a method.

So the body names exactly the method that was matched, however it is written
(`Registry.request_names_method`).
-/

set_option autoImplicit false

namespace ScenarioSteps

/-- The methods that the patterns name. -/
def requestMethods : List String :=
  ["GET", "POST", "PUT", "PATCH", "DELETE"]

/-- A check of the requests that were sent, with the body for a method and an address. -/
structure RequestCheck where
  key : String
  body : ExecutionTarget → (method url : String) → String

namespace RequestCheck

/-- Some request was sent. -/
def made : RequestCheck where
  key := "network/request-made"
  body
    | .playwright, method, url =>
      "await page.waitForRequest((request) => request.method() === " ++ Literal.quoted method
        ++ " && request.url().includes(" ++ Literal.quoted url ++ "));"
    | .componentMount, method, url =>
      "expect(\n  vi.mocked(fetch).mock.calls.some(\n    ([input, init]) => "
        ++ "String(input).includes(" ++ Literal.quoted url ++ ") && (init?.method ?? 'GET') === "
        ++ Literal.quoted method ++ ",\n  ),\n).toBe(true);"

/-- No request was sent. -/
def unexpected : RequestCheck where
  key := "network/no-request"
  body
    | .playwright, method, url =>
      "const unexpected = [];\npage.on('request', (request) => \x7b\n  if (request.method() === "
        ++ Literal.quoted method ++ " && request.url().includes(" ++ Literal.quoted url
        ++ ")) unexpected.push(request.url());\n\x7d);\n"
        ++ "await page.waitForLoadState('networkidle');\nexpect(unexpected).toEqual([]);"
    | .componentMount, method, url =>
      "expect(vi.mocked(fetch).mock.calls.some(([input, init]) => String(input).includes("
        ++ Literal.quoted url ++ ") && (init?.method ?? 'GET') === " ++ Literal.quoted method
        ++ ")).toBe(false);"

/-- What is known of a check from the expression and the generator under its key. The first
group is the method and the second one the address. -/
structure Fits (check : RequestCheck) (regex : Regex) (generate : CodeGenerator) : Prop where
  listed : InCatalog check.key regex generate
  count : regex.groupCount = 2
  passes : regex.alwaysPasses 2 = true
  words : regex.groupWords? 1 = some (requestMethods.map caseless)
  renders : ∀ target values word url,
    values[0]? = some (some word) → values[1]? = some (some url) →
      Yields values (fun code => code.render = check.body target (Text.upper word) url)
        (generate target)

section

variable {values : List (Option String)} {word url : String}

/-- The generator for a sent request writes the body of the check. -/
theorem yields_made (hword : values[0]? = some (some word)) (hurl : values[1]? = some (some url))
    (target : ExecutionTarget) :
    Yields values (fun code => code.render = made.body target (Text.upper word) url)
      (Network.requestMade target) := by
  refine (yields_captured hword).bind ?_
  rintro word rfl
  refine (yields_captured hurl).bind ?_
  rintro url rfl
  cases target <;> refine yields_pure ?_
  all_goals
    simp [Code.render, CodePiece.render, String.join, String.append_assoc, made,
      Network.requestTest, Network.callTest]

/-- The check for a sent request fits the pattern under its key, which always captures a
method. -/
theorem made_fits :
    ∃ regex, made.Fits regex Network.requestMade ∧ regex.alwaysPasses 1 = true := by
  refine ⟨_, ⟨.of_find? rfl rfl, ?_, ?_, ?_,
    fun target _ _ _ hword hurl => yields_made hword hurl target⟩, ?_⟩
  all_goals decide

/-- The generator for requests that must not be sent writes the body of the other check, if
a method is named. -/
theorem yields_unexpected (hword : values[0]? = some (some word))
    (hurl : values[1]? = some (some url)) (target : ExecutionTarget) :
    Yields values (fun code => code.render = unexpected.body target (Text.upper word) url)
      (Network.noRequest target) := by
  refine (yields_captured hurl).bind ?_
  rintro url rfl
  refine (yields_get 0).bind ?_
  rintro _ rfl
  rw [hword]
  cases target <;> refine yields_pure ?_
  all_goals
    simp [Code.render, CodePiece.render, String.join, String.append_assoc, unexpected,
      Network.requestTest, Network.callTest]

/-- The check that no request was sent fits the pattern under its key. -/
theorem unexpected_fits : ∃ regex, unexpected.Fits regex Network.noRequest := by
  refine ⟨_, .of_find? rfl rfl, ?_, ?_, ?_,
    fun target _ _ _ hword hurl => yields_unexpected hword hurl target⟩
  all_goals decide

end

end RequestCheck

/-- A spelling of a method is the same as this method only, and its upper case is it. -/
theorem method_of_spells {word : String}
    (hspells : ∃ letters ∈ requestMethods.map caseless, Text.Spells letters word.toList) :
    ∃ method ∈ requestMethods, Text.upper word = method
      ∧ ∀ other ∈ requestMethods, Text.sameFolded word other = true ↔ other = method := by
  obtain ⟨_, hmem, hspells⟩ := hspells
  obtain ⟨method, hmethod, rfl⟩ := List.mem_map.mp hmem
  have hletters : ∀ method ∈ requestMethods, method.toList ⊆ Text.asciiLetters := by
    decide
  have hkelvin : ∀ method ∈ requestMethods, 'k' ∉ method.toList.map Char.toLower := by
    decide
  -- The methods are in upper case, and no two are the same in any case.
  have hupper : ∀ method ∈ requestMethods,
      String.ofList (method.toList.map Char.toUpper) = method := by
    decide
  have hdistinct : ∀ method ∈ requestMethods, ∀ other ∈ requestMethods,
      Text.sameFolded method other = true → other = method := by
    decide
  have hsame := sameFolded_of_spells (hletters method hmethod) hspells
  refine ⟨method, hmethod, ?_, fun other hother => ⟨fun h => ?_, fun h => h ▸ hsame⟩⟩
  · rw [upper_of_spells (hletters method hmethod) (hkelvin method hmethod) hspells,
      hupper method hmethod]
  · refine hdistinct method hmethod other hother ?_
    rw [Text.sameFolded, beq_iff_eq] at hsame h ⊢
    exact hsame.symm.trans h

namespace Registry

variable {r : Registry} {sentence : String} {m : Match} {check : RequestCheck}

/-- The body for a sent request names exactly one of five methods: the one that the
sentence names, in whatever case. The sentence may leave the method out only if it is
about requests that must not be sent. -/
theorem request_names_method (hr : standard = .ok r) (hm : r.resolve? sentence = some m)
    (hcheck : check ∈ [RequestCheck.made, RequestCheck.unexpected]) (hkey : m.key = check.key)
    (hnamed : m.key = "network/no-request" → ∃ word, m.captures[0]? = some (some word))
    (options : Options) :
    ∃ word url, ∃ method ∈ requestMethods, m.captures = [some word, some url]
      ∧ (∀ other ∈ requestMethods, Text.sameFolded word other = true ↔ other = method)
      ∧ (m.generate options).1 = .body (check.body options.execution method url) := by
  -- A request that was made is never without a method. For the others it is a premise.
  have hfits : ∃ regex generate, check.Fits regex generate
      ∧ ∃ word, m.captures[0]? = some (some word) := by
    rcases List.mem_pair.mp hcheck with rfl | rfl
    · obtain ⟨regex, hfits, hpasses⟩ := RequestCheck.made_fits
      obtain ⟨hloops, hcaptures, -⟩ := run_of_resolve? hr hm hfits.listed hkey
      exact ⟨_, _, hfits, Regex.exists_captured hloops hcaptures (by rw [hfits.count]; decide)
        hpasses⟩
    · obtain ⟨regex, hfits⟩ := RequestCheck.unexpected_fits
      exact ⟨_, _, hfits, hnamed hkey⟩
  obtain ⟨regex, generate, hfits, word, hword⟩ := hfits
  obtain ⟨hloops, hcaptures, hgenerate⟩ := run_of_resolve? hr hm hfits.listed hkey
  obtain ⟨url, hurl⟩ : ∃ url, m.captures[1]? = some (some url) :=
    Regex.exists_captured hloops hcaptures (by rw [hfits.count]; decide) hfits.passes
  obtain ⟨method, hmethod, rfl, honly⟩ := method_of_spells
    (Regex.exists_spells_of_captures? hloops hfits.words hcaptures word (by simp [hword]))
  have hvalues : m.captures = [some word, some url] := by
    have hlength := (Regex.length_of_captures? hcaptures).trans hfits.count
    refine List.ext_getElem? fun index => ?_
    match index with
    | 0 => exact hword
    | 1 => exact hurl
    | index + 2 => rw [List.getElem?_eq_none (by omega)]; rfl
  refine ⟨word, url, _, hmethod, hvalues, honly, ?_⟩
  rw [hgenerate]
  exact congrArg Outcome.body (hfits.renders _ _ _ _ hword hurl { values := m.captures } rfl).1

/-- A request that must not be sent, by a method with a long s. -/
theorem no_post_with_long_s :
    ∃ r m, standard = .ok r
      ∧ r.resolve? "no po\u017Ft request should be sent to \"/\"" = some m
      ∧ m.key = RequestCheck.unexpected.key ∧ (∃ word, m.captures[0]? = some (some word))
      ∧ ∃ word url, ∃ method ∈ requestMethods, m.captures = [some word, some url]
        ∧ (∀ other ∈ requestMethods, Text.sameFolded word other = true ↔ other = method)
        ∧ (m.generate {}).1 = .body (RequestCheck.unexpected.body .playwright method url) := by
  obtain ⟨r, m, hr, hm, hkey, hvalues⟩ := exists_resolve?_standard
    "no po\u017Ft request should be sent to \"/\"" "network/no-request"
    [some "po\u017Ft", some "/"] (by decide +kernel)
  have hnamed : ∃ word, m.captures[0]? = some (some word) := ⟨"po\u017Ft", by rw [hvalues]; rfl⟩
  exact ⟨r, m, hr, hm, hkey, hnamed, request_names_method hr hm
    (List.mem_cons_of_mem _ List.mem_cons_self) hkey (fun _ => hnamed) {}⟩

end Registry

end ScenarioSteps
