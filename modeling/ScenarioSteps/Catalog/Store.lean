import ScenarioSteps.Catalog.Sentence

/-!
# `ScenarioSteps.Catalog.Store`: state, actions and getters of the store

A mounted component shares the store of the application. In a browser the same
store is reached through the window, where builds for tests put it.
-/

set_option autoImplicit false

namespace ScenarioSteps.Store

/-- The value of an optional capture, `undefined` if it took no part. -/
def payload (index : Nat) : StateM Captures Code := do
  match ← Captures.get index with
  | some text => pure (Code.value text)
  | none => pure "undefined"

/-- Puts a value into the state. A browser walks to the place at run time, and a mounted
component gets the path as code. -/
def setState : CodeGenerator := fun target => do
  let value := Code.value (← Captures.text 1)
  let path ← Captures.text 0
  match target with
  | .playwright =>
    pure ("await page.evaluate(([path, value]) => \x7b\n  const keys = path.split('.');\n"
      ++ "  const last = keys.pop();\n"
      ++ "  keys.reduce((state, key) => state[key], window.__store__.state)[last] = value;\n\x7d, ["
      ++ Code.quoted path ++ ", " ++ value ++ "]);")
  | .componentMount =>
    pure ("store.state" ++ Code.propertyPath path ++ " = " ++ value ++ ";")

/-- Sends a named message with a payload to the store, by a method of it. -/
def send (target : ExecutionTarget) (method waiting : String) (name : String) (load : Code) :
    Code :=
  match target with
  | .playwright =>
    "await page.evaluate(([type, payload]) => window.__store__." ++ Code.fixed method
      ++ "(type, payload), [" ++ Code.quoted name ++ ", " ++ load ++ "]);"
  | .componentMount =>
    Code.fixed waiting ++ "store." ++ Code.fixed method ++ "(" ++ Code.quoted name ++ ", " ++ load
      ++ ");"

/-- Sends an action. -/
def dispatch : CodeGenerator := fun target => do
  let action ← Captures.text 0
  pure (send target "dispatch" "await " action (← payload 1))

/-- Sends a mutation. -/
def commit : CodeGenerator := fun target => do
  let mutation ← Captures.text 0
  pure (send target "commit" "" mutation (← payload 1))

/-- Compares the value at a place of the state. -/
def stateEquals : CodeGenerator := fun target => do
  let expected := Code.value (← Captures.text 1)
  let path ← Captures.text 0
  match target with
  | .playwright =>
    pure ("expect(await page.evaluate((path) => path.split('.').reduce((state, key) => state[key], "
      ++ "window.__store__.state), " ++ Code.quoted path ++ ")).toEqual(" ++ expected ++ ");")
  | .componentMount =>
    pure ("expect(store.state" ++ Code.propertyPath path ++ ").toEqual(" ++ expected ++ ");")

/-- Compares what a getter returns. -/
def getterEquals : CodeGenerator := fun target => do
  let getter := Code.quoted (← Captures.text 0)
  let expected := Code.value (← Captures.text 1)
  match target with
  | .playwright =>
    pure ("expect(await page.evaluate((name) => window.__store__.getters[name], " ++ getter
      ++ ")).toEqual(" ++ expected ++ ");")
  | .componentMount =>
    pure ("expect(store.getters[" ++ getter ++ "]).toEqual(" ++ expected ++ ");")

/-- The patterns in order of priority. -/
def patterns : List (String × StepPattern) :=
  [("store/set-state",
    { source := "the store state \"([^\"]*)\" is \"([^\"]*)\""
      kind := .setup
      generator := setState.toGenerator
      arity := 2
      tags := ["store", "state", "fixture"]
      description := "Seed a value at a dotted store path"
      sample? := some "the store state \"cart.items\" is \"3\"" }),
   ("store/dispatch",
    { source := "I dispatch (?:the )?\"([^\"]*)\" action(?: with \"([^\"]*)\")?"
      kind := .action
      generator := dispatch.toGenerator
      arity := 2
      tags := ["store", "action"]
      description := "Dispatch a store action with an optional payload"
      sample? := some "I dispatch the \"cart/addItem\" action with \"42\"" }),
   ("store/commit",
    { source := "I commit (?:the )?\"([^\"]*)\" mutation(?: with \"([^\"]*)\")?"
      kind := .action
      generator := commit.toGenerator
      arity := 2
      tags := ["store", "mutation"]
      description := "Commit a store mutation with an optional payload"
      sample? := some "I commit the \"cart/clear\" mutation" }),
   ("store/state-equals",
    { source := "the store state \"([^\"]*)\" should (?:be|equal) \"([^\"]*)\""
      kind := .assertion
      generator := stateEquals.toGenerator
      arity := 2
      tags := ["store", "state"]
      description := "Assert the value at a dotted store path"
      sample? := some "the store state \"cart.items\" should be \"0\"" }),
   ("store/getter-equals",
    { source := "the \"([^\"]*)\" getter should (?:return|be|equal) \"([^\"]*)\""
      kind := .assertion
      generator := getterEquals.toGenerator
      arity := 2
      tags := ["store", "getter"]
      description := "Assert the value of a store getter"
      sample? := some "the \"cart/total\" getter should return \"30\"" })]

end ScenarioSteps.Store
