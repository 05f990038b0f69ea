import ScenarioSteps.Catalog.Sentence

/-!
# `ScenarioSteps.Catalog.Auth`: users, sessions and access

In a browser, a session begins at the real login form, and users are made
through an interface for tests. In a mounted component, the session lives in
the module `session` of the store.
-/

set_option autoImplicit false

namespace ScenarioSteps.Auth

/-- The password of a user whose sentence gives none. -/
def defaultPassword : String :=
  "password123"

/-- The address of the test account of a role: its small ASCII letters and
digits, with a point for every other character. -/
def roleEmail (role : String) : String :=
  let keep := fun (c : Char) => if c.isAlphanum then c else '.'
  String.ofList ((Text.lower (Text.trimmed role)).toList.map keep) ++ "@example.com"

/-- Fills in and sends the login form. -/
def loginForm (email password : String) : Code :=
  "await page.goto('/login');\nawait page.getByLabel('Email').fill(" ++ Code.quoted email
    ++ ");\nawait page.getByLabel('Password').fill(" ++ Code.quoted password
    ++ ");\nawait " ++ Locator.byRole .playwright "button" "Log in" ++ ".click();"

/-- Makes a user, with the default password if the sentence gives none. -/
def userExists : CodeGenerator := fun target => do
  let email ← Captures.text 0
  let password := (← Captures.get 1).getD defaultPassword
  let user := Code.object [("email", Code.quoted email), ("password", Code.quoted password)]
  match target with
  | .playwright =>
    pure ("await page.request.post('/api/test/users', "
      ++ Code.object [("data", user)] ++ ");")
  | .componentMount => pure ("store.commit('users/add', " ++ user ++ ");")

/-- Begins a session with the test account of a role. -/
def loggedInAs : CodeGenerator :=
  .ofFirst
    (fun role => loginForm (roleEmail role) defaultPassword)
    (fun role =>
      "store.commit('session/login', "
        ++ Code.object [("email", Code.quoted (roleEmail role)), ("role", Code.quoted role)]
        ++ ");")

/-- Clears the session. -/
def notLoggedIn : CodeGenerator :=
  .constant "await page.context().clearCookies();" "store.commit('session/logout');"

/-- Begins a session with an address and a password. -/
def logInWith : CodeGenerator := fun target => do
  let email ← Captures.text 0
  let password ← Captures.text 1
  match target with
  | .playwright => pure (loginForm email password)
  | .componentMount =>
    pure ("await store.dispatch('session/login', "
      ++ Code.object [("email", Code.quoted email), ("password", Code.quoted password)] ++ ");")

/-- The button that ends a session. -/
def logOutButton : Code :=
  Locator.byRole .playwright "button" "Log out"

/-- Ends the session, in a browser by its button. -/
def logOut : CodeGenerator := fun target =>
  match target with
  | .playwright => pure ("await " ++ logOutButton ++ ".click();")
  | .componentMount => pure "await store.dispatch('session/logout');"

/-- Looks for a session, or for none if the first group took part. -/
def shouldBeLoggedIn : CodeGenerator := fun target => do
  let expected := !(← Captures.present 0)
  match target with
  | .playwright =>
    let check := if expected then ").toBeVisible();" else ").toHaveCount(0);"
    pure ("await expect(" ++ logOutButton ++ Code.fixed check)
  | .componentMount =>
    pure ("expect(store.getters['session/isAuthenticated']).toBe("
      ++ Code.fixed (toString expected) ++ ");")

/-- Looks for the page that refuses access. -/
def accessDenied : CodeGenerator :=
  .constant
    "await expect(page.getByText(/access denied|forbidden|unauthorized/i)).toBeVisible();"
    "expect(screen.getByText(/access denied|forbidden|unauthorized/i)).toBeTruthy();"

/-- The patterns in order of priority. -/
def patterns : List (String × StepPattern) :=
  [("auth/user-exists",
    { source :=
        "an? (?:user|account) exists with email \"([^\"]*)\"(?: and password \"([^\"]*)\")?"
      kind := .setup
      generator := userExists.toGenerator
      arity := 2
      tags := ["auth", "user", "fixture"]
      description := "Create a user account"
      sample? := some "a user exists with email \"a@b.com\"" }),
   ("auth/logged-in-as",
    { source := "I am logged in as (?:an? |the )?\"([^\"]*)\"(?: user)?"
      kind := .setup
      generator := loggedInAs.toGenerator
      arity := 1
      tags := ["auth", "session", "role"]
      description := "Start with a session for a role"
      sample? := some "I am logged in as an \"admin\" user" }),
   ("auth/not-logged-in",
    { source := "I am not logged in"
      kind := .setup
      generator := notLoggedIn.toGenerator
      tags := ["auth", "session"]
      description := "Start without a session"
      sample? := some "I am not logged in" }),
   ("auth/log-in-with",
    { source := "I (?:log|sign) in with email \"([^\"]*)\" and password \"([^\"]*)\""
      kind := .action
      generator := logInWith.toGenerator
      arity := 2
      tags := ["auth", "login", "form"]
      description := "Log in through the login form"
      sample? := some "I log in with email \"a@b.com\" and password \"secret\"" }),
   ("auth/log-out",
    { source := "I (?:log|sign) out"
      kind := .action
      generator := logOut.toGenerator
      tags := ["auth", "logout", "session"]
      description := "End the current session"
      sample? := some "I log out" }),
   ("auth/should-be-logged-in",
    { source := "I should (not )?be logged in"
      kind := .assertion
      generator := shouldBeLoggedIn.toGenerator
      arity := 1
      tags := ["auth", "session"]
      description := "Assert whether a session is active"
      sample? := some "I should be logged in" }),
   ("auth/access-denied",
    { source :=
        "I should see an? (?:access denied|forbidden|unauthorized) (?:message|error|page)"
      kind := .assertion
      generator := accessDenied.toGenerator
      tags := ["auth", "access-control", "error"]
      description := "Assert that access was refused"
      sample? := some "I should see an access denied message" })]

end ScenarioSteps.Auth
