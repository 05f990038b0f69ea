/-!
# `ScenarioSteps.Regex.Defect`: why a text is not a regular expression
-/

set_option autoImplicit false

namespace ScenarioSteps.Regex

/-- The ways in which a text fails to be a regular expression. -/
inductive Defect where
  | unopenedGroup
  | unclosedGroup
  | unclosedClass
  | nothingToRepeat
  | badCount
  | badEscape
  | badInterval
  | badFlag
  | badGroupName
  | repeatedGroupName
  | lookAround
  | tooDeep
  | tooLarge
deriving Repr, DecidableEq

/-- A defect in words. -/
def Defect.message : Defect → String
  | .unopenedGroup => "unopened group"
  | .unclosedGroup => "unclosed group"
  | .unclosedClass => "unclosed character class"
  | .nothingToRepeat => "repetition operator missing expression"
  | .badCount => "invalid repetition count"
  | .badEscape => "unrecognized escape sequence"
  | .badInterval => "invalid character class range"
  | .badFlag => "unrecognized flag"
  | .badGroupName => "invalid capture group name"
  | .repeatedGroupName => "duplicate capture group name"
  | .lookAround => "look-around is not supported"
  | .tooDeep => "pattern exceeds the nesting limit"
  | .tooLarge => "pattern exceeds the size limit"

end ScenarioSteps.Regex
