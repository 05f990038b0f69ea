import ScenarioSteps.Catalog.Sentence

/-!
# `ScenarioSteps.Catalog.Navigation`: pages, addresses and history

A page is named by a path, an address or its words (`pagePath`). A browser goes
there through its page, a mounted component through the router.
-/

set_option autoImplicit false

namespace ScenarioSteps.Navigation

/-- Opens a page by its address, its path or its words. -/
def visit : CodeGenerator :=
  .ofFirst
    (fun name => "await page.goto(" ++ Code.quoted (pagePath name) ++ ");")
    (fun name =>
      "await router.push(" ++ Code.quoted (pagePath name) ++ ");\nawait router.isReady();")

/-- Goes back one entry in the history. -/
def goBack : CodeGenerator :=
  .constant "await page.goBack();" "router.back();"

/-- Loads the page once more. -/
def reload : CodeGenerator :=
  .constant "await page.reload();" "await router.replace(router.currentRoute.value.fullPath);"

/-- Compares the path of the current page. -/
def onPage : CodeGenerator :=
  .ofFirst
    (fun name =>
      "expect(new URL(page.url()).pathname).toBe(" ++ Code.quoted (pagePath name) ++ ");")
    (fun name =>
      "expect(router.currentRoute.value.path).toBe(" ++ Code.quoted (pagePath name) ++ ");")

/-- Waits until the path is that of the page. -/
def redirected : CodeGenerator :=
  .ofFirst
    (fun name =>
      "await page.waitForURL((url) => url.pathname === " ++ Code.quoted (pagePath name) ++ ");")
    (fun name =>
      "await waitFor(() => expect(router.currentRoute.value.path).toBe("
        ++ Code.quoted (pagePath name) ++ "));")

/-- Looks for a text in the address. -/
def urlContains : CodeGenerator :=
  .ofFirst
    (fun part => "expect(page.url()).toContain(" ++ Code.quoted part ++ ");")
    (fun part =>
      "expect(router.currentRoute.value.fullPath).toContain(" ++ Code.quoted part ++ ");")

/-- Compares the title of the document. -/
def pageTitle : CodeGenerator :=
  .ofFirst
    (fun title => "await expect(page).toHaveTitle(" ++ Code.quoted title ++ ");")
    (fun title => "expect(document.title).toBe(" ++ Code.quoted title ++ ");")

/-- The patterns in order of priority. Literal paths and addresses come first,
so that they are never read as names of pages. -/
def patterns : List (String × StepPattern) :=
  [("navigation/visit-url",
    { source :=
        "I (?:navigate to|visit|go to|open) (?:the )?(?:url )?\"(/[^\"]*|https?://[^\"]*)\""
      kind := .action
      generator := visit.toGenerator
      arity := 1
      tags := ["navigation", "url"]
      description := "Navigate to a literal path or URL"
      sample? := some "I navigate to \"/dashboard\"" }),
   ("navigation/visit-page",
    { source := "I (?:visit|go to|am on|open|navigate to) the \"([^\"]*)\" page"
      kind := .action
      generator := visit.toGenerator
      arity := 1
      tags := ["navigation", "page", "routing"]
      description := "Navigate to a named page"
      sample? := some "I visit the \"login\" page" }),
   ("navigation/go-back",
    { source := "I go back"
      kind := .action
      generator := goBack.toGenerator
      tags := ["navigation", "history"]
      description := "Go back one entry in history"
      sample? := some "I go back" }),
   ("navigation/reload",
    { source := "I (?:reload|refresh) the page"
      kind := .action
      generator := reload.toGenerator
      tags := ["navigation", "page"]
      description := "Reload the current page"
      sample? := some "I reload the page" }),
   ("navigation/on-page",
    { source := "I should be on the \"([^\"]*)\" page"
      kind := .assertion
      generator := onPage.toGenerator
      arity := 1
      tags := ["navigation", "page", "routing"]
      description := "Assert the current route is a named page"
      sample? := some "I should be on the \"dashboard\" page" }),
   ("navigation/redirected",
    { source := "I should be redirected to the \"([^\"]*)\" page"
      kind := .assertion
      generator := redirected.toGenerator
      arity := 1
      tags := ["navigation", "redirect", "routing"]
      description := "Wait for a redirect to a named page"
      sample? := some "I should be redirected to the \"login\" page" }),
   ("navigation/url-contains",
    { source := "the url should contain \"([^\"]*)\""
      kind := .assertion
      generator := urlContains.toGenerator
      arity := 1
      tags := ["navigation", "url"]
      description := "Assert the current URL contains text"
      sample? := some "the URL should contain \"page=2\"" }),
   ("navigation/page-title",
    { source := "the page title should be \"([^\"]*)\""
      kind := .assertion
      generator := pageTitle.toGenerator
      arity := 1
      tags := ["navigation", "page", "title"]
      description := "Assert the document title"
      sample? := some "the page title should be \"Dashboard\"" })]

end ScenarioSteps.Navigation
