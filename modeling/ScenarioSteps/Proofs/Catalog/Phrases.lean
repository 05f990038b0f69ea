import Mathlib.Data.List.Forall2
import ScenarioSteps.Catalog.Standard
import ScenarioSteps.Proofs.Regex.Follow

/-!
# `ScenarioSteps.Proofs.Catalog.Phrases`: the expressions of the catalog

The sources of the catalog are written again as expressions, in the same order,
from a few building blocks: words, quoted arguments, optional parts and
choices. A pattern `Fits` its expression if its source reads as the expression
and the pattern passes registration. `checkFitAll` checks this for a list of
patterns, and `fitAll_sections` in `Proofs.Catalog.Standard` for the catalog.
-/

set_option autoImplicit false

namespace ScenarioSteps

namespace Phrase

open Regex (join oneOf times ofChar)

/-- Words in any case. They are ASCII, so each octet is a character. -/
def words (text : String) : Regex :=
  join (text.toUTF8.data.toList.map fun octet =>
    ofChar ⟨true, false, false, false⟩ (Char.ofUInt8 octet))

scoped instance : Coe String Regex := ⟨words⟩

/-- One of several phrases. -/
def anyOf (phrases : List String) : Regex :=
  oneOf (phrases.map words)

/-- A part that may be left out. -/
def maybe (part : Regex) : Regex :=
  times ⟨0, some 1, true⟩ part

/-- Any text without quotation marks. -/
def unquoted : Regex :=
  times ⟨0, none, true⟩ (.set .unquoted)

/-- A quoted text, which is a group. -/
def argument (index : Nat) : Regex :=
  join ["\"", .group index unquoted, "\""]

/-- So many digits. -/
def digits (n : Nat) : Regex :=
  times ⟨n, some n, true⟩ (.set .digit)

end Phrase

namespace StepPattern

/-- A pattern whose source reads as an expression without conditions on a place,
and which passes registration. -/
structure Fits (p : StepPattern) (regex : Regex) : Prop where
  reads : Regex.parse p.source = .ok regex
  arity_eq : regex.groupCount = p.arity
  loops : regex.loopsConsume = true
  plain : regex.isUnconditional = true
  sample_occurs : ∀ sample ∈ p.sample?, regex.occursIn sample = true

/-- Checks `Fits`. The sample is matched from its beginning. -/
def checkFits (p : StepPattern) (regex : Regex) : Bool :=
  (Regex.parse p.source).toOption == some regex && regex.groupCount == p.arity
    && regex.loopsConsume && regex.isUnconditional
    && p.sample?.all fun sample =>
      (regex.follow .accept (sample.toList.map .char) []).isFound

/-- A pattern that passes the check fits its expression. -/
theorem fits_of_checkFits {p : StepPattern} {regex : Regex} (h : p.checkFits regex = true) :
    p.Fits regex := by
  simp only [checkFits, Bool.and_eq_true, beq_iff_eq, Option.all_eq_true] at h
  obtain ⟨⟨⟨⟨hreads, harity⟩, hloops⟩, hplain⟩, hsample⟩ := h
  refine ⟨?_, harity, hloops, hplain, fun sample hs => ?_⟩
  · cases hparse : Regex.parse p.source with
    | error defect =>
        rw [hparse] at hreads
        cases hreads
    | ok other =>
        rw [hparse] at hreads
        cases hreads
        rfl
  · have hfound := Regex.occursIn_of_follow hloops (hsample sample hs)
    rwa [String.ofList_toList] at hfound

end StepPattern

/-- Patterns that fit expressions, one by one. -/
def FitAll (patterns : List (String × StepPattern)) (regexes : List Regex) : Prop :=
  List.Forall₂ (fun p regex => p.2.Fits regex) patterns regexes

/-- Checks `FitAll`. -/
def checkFitAll : List (String × StepPattern) → List Regex → Bool
  | [], [] => true
  | p :: patterns, regex :: regexes => p.2.checkFits regex && checkFitAll patterns regexes
  | _, _ => false

/-- If all patterns of a list pass it, they all fit. -/
theorem fitAll_of_check {patterns : List (String × StepPattern)} {regexes : List Regex}
    (h : checkFitAll patterns regexes = true) : FitAll patterns regexes := by
  induction patterns generalizing regexes with
  | nil =>
      cases regexes with
      | nil => exact .nil
      | cons regex regexes => cases h
  | cons p patterns ih =>
      cases regexes with
      | nil => cases h
      | cons regex regexes =>
          rw [checkFitAll, Bool.and_eq_true] at h
          exact .cons (StepPattern.fits_of_checkFits h.1) (ih h.2)

namespace Interaction

open Phrase Regex

/-- The expressions of the section, in order of priority. -/
def regexes : List Regex :=
  [join ["I click ", maybe "on ", "the ", argument 1, " button"],
   join ["I click ", maybe "on ", "the ", argument 1, " link"],
   join ["I click ", maybe "on ", maybe "the ", argument 1, maybe " element"],
   join ["I ", anyOf ["fill in", "fill", "enter", "type"], " ", argument 1, " ",
     anyOf ["in", "into", "for"], " ", maybe "the ", argument 2, maybe " field"],
   join ["I fill in ", maybe "the ", argument 1, maybe " field", " with ", argument 2],
   join ["I select ", argument 1, " from ", maybe "the ", argument 2,
     maybe (anyOf [" dropdown", " select"])],
   join ["I ", group 1 (anyOf ["check", "uncheck"]), " ", maybe "the ", argument 2,
     maybe " checkbox"],
   join ["I press ", maybe "the ", argument 1, " key"],
   join ["I hover over ", maybe "the ", argument 1],
   join ["I should ", maybe (group 1 "not "), "see ", argument 2],
   join ["the ", argument 1, " ", maybe "element ", "should ", maybe (group 2 "not "),
     "be visible"],
   join ["the ", argument 1, " field should ", anyOf ["contain", "have value"], " ", argument 2],
   join ["the ", argument 1, " button should be ", group 2 (anyOf ["enabled", "disabled"])]]

end Interaction

namespace Navigation

open Phrase Regex

/-- The expressions of the section, in order of priority. -/
def regexes : List Regex :=
  [join ["I ", anyOf ["navigate to", "visit", "go to", "open"], " ", maybe "the ", maybe "url ",
     "\"", group 1 (oneOf [join ["/", unquoted], join ["http", maybe "s", "://", unquoted]]),
     "\""],
   join ["I ", anyOf ["visit", "go to", "am on", "open", "navigate to"], " the ", argument 1,
     " page"],
   "I go back",
   join ["I ", anyOf ["reload", "refresh"], " the page"],
   join ["I should be on the ", argument 1, " page"],
   join ["I should be redirected to the ", argument 1, " page"],
   join ["the url should contain ", argument 1],
   join ["the page title should be ", argument 1]]

end Navigation

namespace Auth

open Phrase Regex

/-- The expressions of the section, in order of priority. -/
def regexes : List Regex :=
  [join ["a", maybe "n", " ", anyOf ["user", "account"], " exists with email ", argument 1,
     maybe (join [" and password ", argument 2])],
   join ["I am logged in as ", maybe (oneOf [join ["a", maybe "n", " "], "the "]), argument 1,
     maybe " user"],
   "I am not logged in",
   join ["I ", anyOf ["log", "sign"], " in with email ", argument 1, " and password ",
     argument 2],
   join ["I ", anyOf ["log", "sign"], " out"],
   join ["I should ", maybe (group 1 "not "), "be logged in"],
   join ["I should see a", maybe "n", " ", anyOf ["access denied", "forbidden", "unauthorized"],
     " ", anyOf ["message", "error", "page"]]]

end Auth

namespace Store

open Phrase Regex

/-- The expressions of the section, in order of priority. -/
def regexes : List Regex :=
  [join ["the store state ", argument 1, " is ", argument 2],
   join ["I dispatch ", maybe "the ", argument 1, " action",
     maybe (join [" with ", argument 2])],
   join ["I commit ", maybe "the ", argument 1, " mutation",
     maybe (join [" with ", argument 2])],
   join ["the store state ", argument 1, " should ", anyOf ["be", "equal"], " ", argument 2],
   join ["the ", argument 1, " getter should ", anyOf ["return", "be", "equal"], " ",
     argument 2]]

end Store

namespace Network

open Phrase Regex

/-- The expressions of the section, in order of priority. -/
def regexes : List Regex :=
  [join ["the API ", maybe "endpoint ", argument 1, " ", anyOf ["returns", "responds with"],
     " ", maybe "status ", group 2 (digits 3), maybe (join [" with ", argument 3])],
   join ["the API ", maybe "endpoint ", argument 1, " ", anyOf ["fails", "is unavailable"]],
   join ["a", maybe "n", " ", group 1 (anyOf ["GET", "POST", "PUT", "PATCH", "DELETE"]),
     " request should ", anyOf ["have been", "be"], " ", anyOf ["made", "sent"], " to ",
     argument 2],
   join ["no ", maybe (join [group 1 (anyOf ["GET", "POST", "PUT", "PATCH", "DELETE"]), " "]),
     "request", maybe "s", " should ", anyOf ["have been", "be"], " ", anyOf ["made", "sent"],
     " to ", argument 2],
   join ["the response status should be ", group 1 (digits 3)]]

end Network

end ScenarioSteps
