/-!
# `ScenarioSteps.Fault`: what can go wrong, and where

Only registration, settings and files can fail. Generating code for a step
never does: a sentence that no pattern recognises becomes code that fails when
the generated test runs.

A fault is a cause with an optional place. `Fault.Cause.message` is the
wording of every cause, and `Place.text` that of a place.
-/

set_option autoImplicit false

namespace ScenarioSteps

/-- The options that are read from names. -/
inductive OptionAxis where
  | outputTarget
  | executionTarget
  | conjunctions
deriving Repr, DecidableEq

/-- An option as messages call it. -/
def OptionAxis.name : OptionAxis → String
  | .outputTarget => "output target"
  | .executionTarget => "execution target"
  | .conjunctions => "conjunction policy"

/-- Where a fault was found. -/
structure Place where
  /-- The catalog section whose patterns were being registered. -/
  catalogSection? : Option String := none
  /-- The file that was being read or written. -/
  source? : Option String := none
  /-- The line in that file, counted from one. -/
  line? : Option Nat := none
deriving Repr, DecidableEq

/-- A place in words. A line is shown only with the file it belongs to. -/
def Place.text (place : Place) : String :=
  let named :=
    match place.catalogSection? with
    | some name => "in module " ++ name
    | none => ""
  match place.source? with
  | none => named
  | some source =>
    let gap := if place.catalogSection?.isSome then " " else ""
    let line :=
      match place.line? with
      | some line => ":" ++ toString line
      | none => ""
    named ++ gap ++ "at " ++ source ++ line

/-- The causes of a fault. -/
inductive Fault.Cause where
  /-- The source of a pattern is not a regular expression. -/
  | invalidPattern (key source detail : String)
  /-- A pattern has another number of groups than its generator reads. -/
  | arityMismatch (key : String) (declared groups : Nat)
  /-- A pattern does not match its own example. -/
  | exampleMismatch (key example' : String)
  /-- A key is taken, and replacing its pattern was not asked for. -/
  | duplicateKey (key : String)
  /-- No pattern has the key. -/
  | patternNotFound (key : String)
  /-- An option has no value of this name. -/
  | unknownOption (axis : OptionAxis) (value : String)
  /-- A settings file is malformed or sets something impossible. -/
  | badSettings (detail : String)
  /-- A file cannot be read or written. -/
  | fileAccess (detail : String)
deriving Repr, DecidableEq

namespace Fault.Cause

/-- A cause in words. -/
def message : Fault.Cause → String
  | .invalidPattern key _ detail => "invalid pattern for " ++ key ++ ": " ++ detail
  | .arityMismatch key declared groups =>
    "arity mismatch for " ++ key ++ ": generator reads " ++ toString declared
      ++ " captures, pattern has " ++ toString groups
  | .exampleMismatch key sentence =>
    "example for " ++ key ++ " does not match its pattern: " ++ sentence
  | .duplicateKey key => "duplicate pattern key: " ++ key
  | .patternNotFound key => "pattern not found: " ++ key
  | .unknownOption axis value => "unknown " ++ axis.name ++ ": " ++ value
  | .badSettings detail => "configuration error: " ++ detail
  | .fileAccess detail => "i/o error: " ++ detail

/-- Whether a cause is a defect of a pattern, found when it is registered. -/
def isRegistrationDefect : Fault.Cause → Bool
  | .invalidPattern .. | .arityMismatch .. | .exampleMismatch .. | .duplicateKey .. => true
  | _ => false

end Fault.Cause

/-- A cause, and the place where it was found if that is known. -/
structure Fault where
  cause : Fault.Cause
  place? : Option Place := none
deriving Repr, DecidableEq

/-- The same fault at a place, which replaces any place it had. -/
def Fault.at (fault : Fault) (place : Place) : Fault :=
  { fault with place? := some place }

end ScenarioSteps
