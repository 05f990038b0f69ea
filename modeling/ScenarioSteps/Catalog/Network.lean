import ScenarioSteps.Catalog.Sentence
import ScenarioSteps.Text.Uppercase

/-!
# `ScenarioSteps.Catalog.Network`: stubbed endpoints and sent requests

A browser intercepts requests at the page. A mounted component runs against a
`fetch` that is spied on.
-/

set_option autoImplicit false

namespace ScenarioSteps.Network

/-- A browser's route to all addresses that end in `url`. -/
def route (url : String) : Code :=
  "await page.route(\x60**$\x7b" ++ Code.quoted url ++ "\x7d\x60, (route) =>"

/-- Answers requests to an address with a status and a body, an empty one if the sentence
gives none. The status stands in the code as it was captured. -/
def mockResponse : CodeGenerator := fun target => do
  let url ← Captures.text 0
  let status := Code.fixed (← Captures.text 1)
  let body := Code.quoted ((← Captures.get 2).getD "")
  match target with
  | .playwright =>
    pure (route url ++ "\n  route.fulfill("
      ++ Code.object
        [("status", status), ("contentType", Code.quoted "application/json"), ("body", body)]
      ++ "),\n);")
  | .componentMount =>
    pure ("vi.spyOn(globalThis, 'fetch').mockImplementation(async (input) =>\n"
      ++ "  String(input).includes(" ++ Code.quoted url ++ ")\n    ? new Response(" ++ body ++ ", "
      ++ Code.object
        [("status", status),
         ("headers", Code.object [("'Content-Type'", Code.quoted "application/json")])]
      ++ ")\n    : new Response(null, " ++ Code.object [("status", "404")] ++ "),\n);")

/-- Lets requests to an address fail. -/
def mockFailure : CodeGenerator :=
  .ofFirst
    (fun url => route url ++ " route.abort('failed'));")
    (fun url =>
      "vi.spyOn(globalThis, 'fetch').mockImplementation(async (input) => \x7b\n"
        ++ "  if (String(input).includes(" ++ Code.quoted url ++ ")) \x7b\n"
        ++ "    throw new TypeError('Failed to fetch');\n  \x7d\n  return new Response(null, "
        ++ Code.object [("status", "404")] ++ ");\n\x7d);")

/-- The condition that a browser's request goes to an address, by a method if
one is given. -/
def requestTest (method? : Option String) (url : String) : Code :=
  let toUrl := "request.url().includes(" ++ Code.quoted url ++ ")"
  match method? with
  | some method => "request.method() === " ++ Code.quoted (Text.upper method) ++ " && " ++ toUrl
  | none => toUrl

/-- The condition that a call of `fetch` goes to an address, by a method if one
is given. -/
def callTest (method? : Option String) (url : String) : Code :=
  let toUrl := "String(input).includes(" ++ Code.quoted url ++ ")"
  match method? with
  | some method => toUrl ++ " && (init?.method ?? 'GET') === " ++ Code.quoted (Text.upper method)
  | none => toUrl

/-- Waits for a request by a method to an address. -/
def requestMade : CodeGenerator := fun target => do
  let method ← Captures.text 0
  let url ← Captures.text 1
  match target with
  | .playwright =>
    pure ("await page.waitForRequest((request) => " ++ requestTest (some method) url ++ ");")
  | .componentMount =>
    pure ("expect(\n  vi.mocked(fetch).mock.calls.some(\n    ([input, init]) => "
      ++ callTest (some method) url ++ ",\n  ),\n).toBe(true);")

/-- Expects no request to an address, of all methods if the sentence names none. -/
def noRequest : CodeGenerator := fun target => do
  let url ← Captures.text 1
  let method? ← Captures.get 0
  match target with
  | .playwright =>
    pure ("const unexpected = [];\npage.on('request', (request) => \x7b\n  if ("
      ++ requestTest method? url ++ ") unexpected.push(request.url());\n\x7d);\n"
      ++ "await page.waitForLoadState('networkidle');\nexpect(unexpected).toEqual([]);")
  | .componentMount =>
    pure ("expect(vi.mocked(fetch).mock.calls.some(([input, init]) => "
      ++ callTest method? url ++ ")).toBe(false);")

/-- Compares the status of the latest response. It stands in the code as it was captured. -/
def responseStatus : CodeGenerator :=
  .ofFirst
    (fun status =>
      "const response = await page.waitForResponse((response) => "
        ++ "response.request().resourceType() === 'fetch');\n"
        ++ "expect(response.status()).toBe(" ++ Code.fixed status ++ ");")
    (fun status =>
      "const response = await vi.mocked(fetch).mock.results.at(-1)?.value;\n"
        ++ "expect(response?.status).toBe(" ++ Code.fixed status ++ ");")

/-- The patterns in order of priority. -/
def patterns : List (String × StepPattern) :=
  [("network/mock-response",
    { source :=
        "the API (?:endpoint )?\"([^\"]*)\" (?:returns|responds with) (?:status )?(\\d\x7b3\x7d)(?: with \"([^\"]*)\")?"
      kind := .setup
      generator := mockResponse.toGenerator
      arity := 3
      tags := ["network", "api", "mock"]
      description := "Stub an endpoint with a status and optional body"
      sample? := some "the API \"/api/users\" returns status 200 with \"[]\"" }),
   ("network/mock-failure",
    { source := "the API (?:endpoint )?\"([^\"]*)\" (?:fails|is unavailable)"
      kind := .setup
      generator := mockFailure.toGenerator
      arity := 1
      tags := ["network", "api", "mock", "error"]
      description := "Make requests to an endpoint fail at the network level"
      sample? := some "the API \"/api/users\" is unavailable" }),
   ("network/request-made",
    { source :=
        "an? (GET|POST|PUT|PATCH|DELETE) request should (?:have been|be) (?:made|sent) to \"([^\"]*)\""
      kind := .assertion
      generator := requestMade.toGenerator
      arity := 2
      tags := ["network", "api", "request"]
      description := "Assert that a request was sent to an endpoint"
      sample? := some "a POST request should have been made to \"/api/login\"" }),
   ("network/no-request",
    { source :=
        "no (?:(GET|POST|PUT|PATCH|DELETE) )?requests? should (?:have been|be) (?:made|sent) to \"([^\"]*)\""
      kind := .assertion
      generator := noRequest.toGenerator
      arity := 2
      tags := ["network", "api", "request"]
      description := "Assert that no request was sent to an endpoint"
      sample? := some "no request should have been made to \"/api/analytics\"" }),
   ("network/response-status",
    { source := "the response status should be (\\d\x7b3\x7d)"
      kind := .assertion
      generator := responseStatus.toGenerator
      arity := 1
      tags := ["network", "api", "response"]
      description := "Assert the status of the most recent response"
      sample? := some "the response status should be 201" })]

end ScenarioSteps.Network
