import Flyover.Json.Record
/-!
The federation that holds the deposits, as the bridge reports it.
-/

namespace Flyover

structure Federation where
  size : Int64
  threshold : Int64
  publicKeys : List String
  address : String
  activeHeight : Int64
  activationHeight : Int64
  emergencyKeys : List String
deriving DecidableEq

namespace Federation

instance : Json.Encode Federation where
  encode f := .object
    [("fedSize", Json.encode f.size), ("fedThreshold", Json.encode f.threshold), ("pubKeys", Json.encode f.publicKeys),
      ("fedAddress", Json.encode f.address), ("activeFedBlockHeight", Json.encode f.activeHeight),
      ("irisActivationHeight", Json.encode f.activationHeight), ("erpKeys", Json.encode f.emergencyKeys)]

instance : Json.Decode Federation where
  decode := Json.record ⟨"FederationInfo", 7⟩ do
    return {
      size := ← Json.field "fedSize"
      threshold := ← Json.field "fedThreshold"
      publicKeys := ← Json.field "pubKeys"
      address := ← Json.field "fedAddress"
      activeHeight := ← Json.field "activeFedBlockHeight"
      activationHeight := ← Json.field "irisActivationHeight"
      emergencyKeys := ← Json.field "erpKeys" }

end Federation

end Flyover
