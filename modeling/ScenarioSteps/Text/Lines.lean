import ScenarioSteps.Text.Blank

/-!
# `ScenarioSteps.Text.Lines`: the lines of a text

A line ends at a line feed, and one carriage return before that line feed
belongs to the line's end. Nothing else ends a line: a lone carriage return
and the separators U+2028 and U+2029 are ordinary characters here. What
follows the last line feed is a line only if it is not empty.
-/

set_option autoImplicit false

namespace ScenarioSteps.Text

/-- Drops one carriage return at the end. -/
def dropReturn (cs : List Char) : List Char :=
  if cs.getLast? == some '\r' then cs.dropLast else cs

/-- The lines of a text, without their ends. -/
def lines (cs : List Char) : List (List Char) :=
  let parts := splitBy (· == '\n') cs
  let rest := parts.getLastD []
  parts.dropLast.map dropReturn ++ if rest.isEmpty then [] else [rest]

/-- Lines put together with a line feed between any two. -/
def joinLines (ls : List (List Char)) : List Char :=
  ['\n'].intercalate ls

end ScenarioSteps.Text
