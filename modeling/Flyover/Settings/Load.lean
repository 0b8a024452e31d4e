import Flyover.Settings.Reading
import Flyover.Settings.Source
/-!
Settings loaded from a file and the environment.
-/

namespace Flyover.Settings

def configuration (file : Option Document) (environment : List (String × String)) : Except Fault Value := do
  let members ← match file with
    | some d => d.members
    | none => pure []
  return layer (layer (layer .empty defaults) members) (variableMembers environment)

def load (file : Option Document) (environment : List (String × String)) : Except Fault Settings := do
  let settings ← ofValue (← configuration file environment)
  settings.validate
  return settings

end Flyover.Settings
