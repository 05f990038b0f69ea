import ScenarioSteps.Code.Fragment
import ScenarioSteps.Text.Blank
import ScenarioSteps.Text.Decimal
import ScenarioSteps.Text.Lowercase

/-!
# `ScenarioSteps.Code.Value`: values, page paths and property paths

Three readings of a captured text.

- As a *value*, `true`, `false`, `null` and finite numerals stay as they are
  written, and all other texts are string literals.
- As a *page*, a path or an absolute address stays as it is, and a name becomes
  a path of its words in lower case, put together by hyphens. The page `home`
  is the root.
- As a *property path*, the parts between dots are keys in brackets. Empty
  parts are left out.
-/

set_option autoImplicit false

namespace ScenarioSteps

/-- Whether a trimmed text is a value without quotes. -/
def isBareValue (text : String) : Bool :=
  ["true", "false", "null"].contains text
    || (Text.numeral? text.toList).any Text.Numeral.isFinite

/-- A text as a value. -/
def Code.value (text : String) : Code :=
  let bare := Text.trimmed text
  -- A literal keeps the blanks around the text, a bare value does not.
  if isBareValue bare then .fixed bare else .quoted text

/-- The beginnings of paths and addresses that name a page by themselves. -/
def addressStarts : List String :=
  ["/", "http://", "https://"]

/-- The words of a name in lower case, put together by hyphens. -/
def slug (name : String) : String :=
  "-".intercalate ((Text.words name.toList).map fun word => Text.lower (String.ofList word))

/-- The path or address of a page. -/
def pagePath (name : String) : String :=
  let name := Text.trimmed name
  if addressStarts.any fun start => start.toList.isPrefixOf name.toList then name
  else
    let slug := slug name
    -- A name of blanks alone has no words. It is the root as well.
    if slug.isEmpty || slug == "home" then "/" else "/" ++ slug

/-- The keys of a dotted path. -/
def pathKeys (path : String) : List String :=
  ((Text.splitBy (· == '.') path.toList).filter (!·.isEmpty)).map String.ofList

/-- The keys of a dotted path, each in brackets. -/
def Code.propertyPath (path : String) : Code :=
  Code.join "" ((pathKeys path).map fun key => "[" ++ Code.quoted key ++ "]")

end ScenarioSteps
