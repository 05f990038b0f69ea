import ScenarioSteps.Catalog.Auth
import ScenarioSteps.Catalog.Interaction
import ScenarioSteps.Catalog.Navigation
import ScenarioSteps.Catalog.Network
import ScenarioSteps.Catalog.Store
import ScenarioSteps.Pattern.Registry

/-!
# `ScenarioSteps.Catalog.Standard`: the standard catalog

The catalog has five sections. Its patterns are registered section by section,
so an earlier section takes priority over a later one. A defect is reported
together with the section that it stands in.
-/

set_option autoImplicit false

namespace ScenarioSteps

/-- The sections of the catalog by name, in order of priority. -/
def catalogSections : List (String × List (String × StepPattern)) :=
  [("interaction", Interaction.patterns), ("navigation", Navigation.patterns),
   ("auth", Auth.patterns), ("store", Store.patterns), ("network", Network.patterns)]

namespace Registry

/-- Registers a section of the catalog. A fault is placed in that section. -/
def registerSection (r : Registry) (name : String) (patterns : List (String × StepPattern)) :
    Except Fault Registry :=
  (r.registerList patterns).mapError (·.at { catalogSection? := some name })

/-- Registers the whole catalog. -/
def registerCatalog (r : Registry) : Except Fault Registry :=
  catalogSections.foldlM (fun r s => r.registerSection s.1 s.2) r

/-- The registry that holds the catalog and nothing else. -/
def standard : Except Fault Registry :=
  empty.registerCatalog

end Registry

end ScenarioSteps
