import Flyover.Wei.Json
import Std.Data.ExtTreeMap
/-!
How many confirmations a deposit needs, by its amount.
-/

namespace Flyover

structure ConfirmationTable where
  byThreshold : Std.ExtTreeMap Wei UInt16
deriving DecidableEq

namespace ConfirmationTable

def ofList (entries : List (Wei × UInt16)) : ConfirmationTable :=
  ⟨entries.foldl (fun t e => t.insert e.1 e.2) ∅⟩

def isEmpty (t : ConfirmationTable) : Bool := t.byThreshold.isEmpty

def toList (t : ConfirmationTable) : List (Wei × UInt16) := t.byThreshold.toList

/-- The confirmations for an amount: those of the smallest threshold that is not below it, those of the largest one if it
is above them all, and none if the table is empty. -/
def forValue (t : ConfirmationTable) (value : Wei) : UInt16 :=
  match t.byThreshold.getEntryGE? value with
  | some (_, n) => n
  | none => (t.byThreshold.maxEntry?.map Prod.snd).getD 0

def max (t : ConfirmationTable) : UInt16 := (t.byThreshold.values.max?).getD 0

instance : Json.Encode ConfirmationTable where
  encode t := .object (t.toList.map fun e => (e.1.text, Json.encode e.2))

def decodeEntry (member : String × Json) : Except Json.Fault (Wei × UInt16) := do
  let threshold ← Json.decode (.string member.1)
  let n ← Json.decode member.2
  return (threshold, n)

instance : Json.Decode ConfirmationTable where
  decode
    | .object members => (members.mapM decodeEntry).map ofList
    | j => .error (.wrongType j.shape "a map")

end ConfirmationTable

end Flyover
