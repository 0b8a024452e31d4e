import Flyover.Address
import Flyover.Error
/-!
Addresses read from texts that may be wrong.
-/

namespace Flyover.Address

def parse (s : String) : Except Error Address :=
  match ofText? s with
  | some a => .ok a
  | none => .error (.unsupportedAddress s)

end Flyover.Address
