import ScenarioSteps.Proofs.Catalog.Words
import ScenarioSteps.Proofs.Source.Blank
import ScenarioSteps.Proofs.Source.Generators

/-!
# `ScenarioSteps.Proofs.Catalog.Status`: statuses in code

Two patterns of the network section capture a status of three digits, which stands in the
code as it was captured. A `StatusCode` says what surrounds it there. What is left of the
body without the contents of its literals is this code and the status, nothing else.

The digits of an expression are those of all scripts. So the status is three decimal
digits, but it is a number of the code only if all of them are ASCII
(`Registry.status_in_code`).
-/

set_option autoImplicit false

namespace ScenarioSteps

/-- Code with a status, the contents of its literals left out. -/
structure StatusCode where
  key : String
  /-- The group of the status, from zero. -/
  group : Nat
  before : ExecutionTarget → String
  behind : ExecutionTarget → String

namespace StatusCode

/-- The status of a stubbed endpoint. -/
def stubbed : StatusCode where
  key := "network/mock-response"
  group := 1
  before
    | .playwright =>
      "await page.route(\x60**$\x7b''\x7d\x60, (route) =>\n  route.fulfill(\x7b status: "
    | .componentMount =>
      "vi.spyOn(globalThis, '').mockImplementation(async (input) =>\n"
        ++ "  String(input).includes('')\n    ? new Response('', \x7b status: "
  behind
    | .playwright => ", contentType: '', body: '' \x7d),\n);"
    | .componentMount =>
      ", headers: \x7b '': '' \x7d \x7d)\n    : new Response(null, \x7b status: 404 \x7d),\n);"

/-- The status that a response should have. -/
def expected : StatusCode where
  key := "network/response-status"
  group := 0
  before
    | .playwright =>
      "const response = await page.waitForResponse((response) => "
        ++ "response.request().resourceType() === '');\nexpect(response.status()).toBe("
    | .componentMount =>
      "const response = await vi.mocked(fetch).mock.results.at(-1)?.value;\n"
        ++ "expect(response?.status).toBe("
  behind _ := ");"

/-- What is known of code with a status from the expression and the generator under its
key. -/
structure Fits (code : StatusCode) (regex : Regex) (generate : CodeGenerator) : Prop where
  listed : InCatalog code.key regex generate
  count : code.group < regex.groupCount
  passes : regex.alwaysPasses (code.group + 1) = true
  words : regex.groupWords? (code.group + 1) = some [[.digit, .digit, .digit]]
  blanks : ∀ target values status, values[code.group]? = some (some status) →
    (∀ c ∈ status.toList, c ≠ '\'') →
      Yields values (fun fragment => blankLiterals fragment.render
        = code.before target ++ status ++ code.behind target) (generate target)

section

variable {values : List (Option String)} {status : String}

/-- Of the code of a stubbed endpoint, the status and the fixed code are left. -/
theorem yields_stubbed (hstatus : values[1]? = some (some status))
    (hplain : ∀ c ∈ status.toList, c ≠ '\'') (target : ExecutionTarget) :
    Yields values (fun fragment => blankLiterals fragment.render
      = stubbed.before target ++ status ++ stubbed.behind target)
      (Network.mockResponse target) := by
  -- Address and body of the response stand in literals, so empty ones leave the same.
  have hbefore : ∀ url body url' body',
      (Network.stubBefore target url body).Alike (Network.stubBefore target url' body') := by
    intro url body url' body'
    cases target <;> repeat' constructor
  have hbehind : ∀ body,
      (Network.stubBehind target body).Alike (Network.stubBehind target "") := by
    intro body
    cases target <;> repeat' constructor
  -- With empty texts, nothing is left to blank but fixed code.
  have hblank : blankLiterals (Network.stubBefore target "" "").render = stubbed.before target
      ∧ blankLiterals (Network.stubBehind target "").render = stubbed.behind target := by
    cases target <;> decide +kernel
  refine Network.yields_stub target fun url body => ?_
  rw [hstatus, Option.join_some, Option.getD_some,
    Code.blankLiterals_around (hbefore url body url body) hplain,
    (hbefore url body "" "").blankLiterals_eq, (hbehind body).blankLiterals_eq, hblank.1, hblank.2]

/-- The code of a stubbed endpoint fits the pattern under its key. -/
theorem stubbed_fits : ∃ regex, stubbed.Fits regex Network.mockResponse := by
  refine ⟨_, .of_find? rfl rfl, ?_, ?_, ?_,
    fun target _ _ hstatus hplain => yields_stubbed hstatus hplain target⟩
  all_goals decide

/-- Of the code of an expected status, the same is left. -/
theorem yields_expected (hstatus : values[0]? = some (some status))
    (hplain : ∀ c ∈ status.toList, c ≠ '\'') (target : ExecutionTarget) :
    Yields values (fun fragment => blankLiterals fragment.render
      = expected.before target ++ status ++ expected.behind target)
      (Network.responseStatus target) := by
  refine (yields_captured hstatus).bind ?_
  rintro status rfl
  cases target <;> refine yields_pure ?_
  all_goals
    refine (Code.blankLiterals_around ?_ hplain).trans ?_
    · repeat' constructor
    · refine congrArg₂ (fun before behind => before ++ status ++ behind) ?_ ?_
      · decide +kernel
      · decide

/-- The code of an expected status fits the pattern under its key. -/
theorem expected_fits : ∃ regex, expected.Fits regex Network.responseStatus := by
  refine ⟨_, .of_find? rfl rfl, ?_, ?_, ?_,
    fun target _ _ hstatus hplain => yields_expected hstatus hplain target⟩
  all_goals decide

end

end StatusCode

/-- A decimal digit of some script is one of ASCII if it is an ASCII character at all. -/
theorem isDigit_iff_of_mem_digit {c : Char} (h : CharSet.digit.mem c = true) :
    c.isDigit = true ↔ c.toNat ≤ 127 := by
  have hall : ∀ c ∈ CharSet.digit.members, c.isDigit = true ↔ c.toNat ≤ 127 :=
    List.all_iff_forall_prop.mp (by decide +kernel)
  exact hall c (CharSet.mem_members h)

/-- What spells three digits. -/
theorem digits_of_spells {text : List Char}
    (h : ∃ word ∈ [[CharSet.digit, .digit, .digit]], Text.Spells word text) :
    text.length = 3 ∧ ∀ c ∈ text, CharSet.digit.mem c = true := by
  obtain ⟨word, hword, hspells⟩ := h
  obtain rfl := List.mem_singleton.mp hword
  refine ⟨(List.Forall₂.length_eq hspells).symm, ?_⟩
  cases hspells with
  | cons ha hrest =>
      cases hrest with
      | cons hb hrest =>
          cases hrest with
          | cons hc hrest =>
              cases hrest
              simp [ha, hb, hc]

namespace Registry

variable {r : Registry} {sentence : String} {m : Match} {code : StatusCode}

/-- A sentence with a status leaves the status that it captures in the code, and all other
code outside literals is fixed. The status is three decimal digits of any scripts, which
are digits of ASCII exactly if they are ASCII characters. -/
theorem status_in_code (hr : standard = .ok r) (hm : r.resolve? sentence = some m)
    (hcode : code ∈ [StatusCode.stubbed, StatusCode.expected]) (hkey : m.key = code.key)
    (options : Options) :
    ∃ status body, m.captures[code.group]? = some (some status)
      ∧ (m.generate options).1 = .body body
      ∧ blankLiterals body
        = code.before options.execution ++ status ++ code.behind options.execution
      ∧ status.toList.length = 3 ∧ (∀ c ∈ status.toList, CharSet.digit.mem c = true)
      ∧ ((∀ c ∈ status.toList, c.isDigit = true) ↔ ∀ c ∈ status.toList, c.toNat ≤ 127) := by
  have hfits : ∃ generate regex, code.Fits regex generate := by
    rcases List.mem_pair.mp hcode with rfl | rfl
    · exact ⟨_, StatusCode.stubbed_fits⟩
    · exact ⟨_, StatusCode.expected_fits⟩
  obtain ⟨generate, regex, hfits⟩ := hfits
  obtain ⟨hloops, hcaptures, hgenerate⟩ := run_of_resolve? hr hm hfits.listed hkey
  obtain ⟨status, hstatus⟩ := Regex.exists_captured hloops hcaptures hfits.count hfits.passes
  obtain ⟨hlength, hdigits⟩ := digits_of_spells
    (Regex.exists_spells_of_captures? hloops hfits.words hcaptures status (by simp [hstatus]))
  -- No digit is a quotation mark, so the status opens no literal.
  have hplain : ∀ c ∈ status.toList, c ≠ '\'' := by
    have hquote : CharSet.digit.mem '\'' = false := by decide
    rintro c hc rfl
    rw [hdigits _ hc] at hquote
    cases hquote
  refine ⟨status, _, hstatus, hgenerate options, ?_, hlength, hdigits, ?_⟩
  · exact (hfits.blanks _ _ _ hstatus hplain { values := m.captures } rfl).1
  · exact forall₂_congr fun c hc => isDigit_iff_of_mem_digit (hdigits c hc)

/-- An endpoint that is stubbed with a status in ASCII. -/
theorem stub_with_ascii_status :
    ∃ r m, standard = .ok r ∧ r.resolve? "the API \"/\" returns 404" = some m
      ∧ m.key = StatusCode.stubbed.key
      ∧ ∃ status body, m.captures[1]? = some (some status) ∧ (m.generate {}).1 = .body body
        ∧ blankLiterals body
          = StatusCode.stubbed.before .playwright ++ status ++ StatusCode.stubbed.behind .playwright
        ∧ status.toList.length = 3 ∧ (∀ c ∈ status.toList, CharSet.digit.mem c = true)
        ∧ ((∀ c ∈ status.toList, c.isDigit = true) ↔ ∀ c ∈ status.toList, c.toNat ≤ 127) := by
  obtain ⟨r, m, hr, hm, hkey, -⟩ := exists_resolve?_standard
    "the API \"/\" returns 404" "network/mock-response" [some "/", some "404", none]
    (by decide +kernel)
  exact ⟨r, m, hr, hm, hkey, status_in_code hr hm List.mem_cons_self hkey {}⟩

/-- A status in Arabic digits stands in the code as it is. -/
theorem arabic_status_in_code :
    ∃ r m body, standard = .ok r
      ∧ r.resolve? "the response status should be \u0662\u0660\u0660" = some m
      ∧ m.key = StatusCode.expected.key ∧ (m.generate {}).1 = .body body
      ∧ blankLiterals body
        = StatusCode.expected.before .playwright ++ "\u0662\u0660\u0660"
          ++ StatusCode.expected.behind .playwright
      ∧ ∀ c ∈ "\u0662\u0660\u0660".toList, c.isDigit = false := by
  obtain ⟨r, m, hr, hm, hkey, hvalues⟩ := exists_resolve?_standard
    "the response status should be \u0662\u0660\u0660" "network/response-status"
    [some "\u0662\u0660\u0660"] (by decide +kernel)
  obtain ⟨regex, hfits⟩ := StatusCode.expected_fits
  obtain ⟨-, -, hgenerate⟩ := run_of_resolve? hr hm hfits.listed hkey
  have hascii : ∀ c ∈ "\u0662\u0660\u0660".toList, c.isDigit = false :=
    List.all_iff_forall_prop.mp (by decide)
  have hplain : ∀ c ∈ "\u0662\u0660\u0660".toList, c ≠ '\'' :=
    List.all_iff_forall_prop.mp (by decide)
  have hstatus : m.captures[0]? = some (some "\u0662\u0660\u0660") := by
    rw [hvalues]
    rfl
  refine ⟨r, m, _, hr, hm, hkey, hgenerate {}, ?_, hascii⟩
  exact (hfits.blanks _ _ _ hstatus hplain { values := m.captures } rfl).1

end Registry

end ScenarioSteps
