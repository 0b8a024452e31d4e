import Flyover.Address
import Flyover.Error
import Flyover.Txid
/-!
Settlements: the record that a provider keeps of an accepted quote until it is paid for.
-/

namespace Flyover

structure Settlement.Transaction where
  hash : Option String
  gasUsed : UInt64
  gasPrice : Wei
deriving DecidableEq

namespace Settlement.Transaction

def none : Transaction := ⟨.none, 0, 0⟩

def ofReceipt (r : Receipt) : Transaction := ⟨some r.txHash, r.gasUsed, r.gasPrice⟩

end Settlement.Transaction

structure Settlement where
  quoteHash : String
  depositAddress : String
  signature : String
  requiredLiquidity : Wei
  state : Settlement.State
  deposit : Option Txid
  callForUser : Settlement.Transaction
  registerPegin : Settlement.Transaction
  owner : Option Address
deriving DecidableEq

namespace Settlement

def isLocking (s : Settlement) : Bool := State.locking.contains s.state

def moveTo (s : Settlement) (next : State) : Except Error Settlement :=
  if s.state.canMove next then .ok { s with state := next } else .error (.wrongState s.state)

def recordCallForUser (s : Settlement) (r : Receipt) : Settlement := { s with callForUser := .ofReceipt r }

def recordRegisterPegin (s : Settlement) (r : Receipt) : Settlement := { s with registerPegin := .ofReceipt r }

instance : Json.Encode Settlement where
  encode s := .object
    [("quoteHash", Json.encode s.quoteHash), ("depositAddress", Json.encode s.depositAddress),
      ("signature", Json.encode s.signature), ("requiredLiquidity", Json.encode s.requiredLiquidity),
      ("state", Json.encode s.state), ("userBtcTxHash", Json.encode s.deposit),
      ("callForUserTxHash", Json.encode s.callForUser.hash), ("callForUserGasUsed", Json.encode s.callForUser.gasUsed),
      ("callForUserGasPrice", Json.encode s.callForUser.gasPrice),
      ("registerPeginTxHash", Json.encode s.registerPegin.hash),
      ("registerPeginGasUsed", Json.encode s.registerPegin.gasUsed),
      ("registerPeginGasPrice", Json.encode s.registerPegin.gasPrice),
      ("ownerAccountAddress", Json.encode s.owner)]

instance : Json.Decode Settlement where
  decode := Json.record ⟨"RetainedPeginQuote", 13⟩ do
    return {
      quoteHash := ← Json.field "quoteHash"
      depositAddress := ← Json.field "depositAddress"
      signature := ← Json.field "signature"
      requiredLiquidity := ← Json.field "requiredLiquidity"
      state := ← Json.field "state"
      deposit := ← Json.field "userBtcTxHash"
      callForUser := {
        hash := ← Json.field "callForUserTxHash"
        gasUsed := ← Json.field "callForUserGasUsed"
        gasPrice := ← Json.field "callForUserGasPrice" }
      registerPegin := {
        hash := ← Json.field "registerPeginTxHash"
        gasUsed := ← Json.field "registerPeginGasUsed"
        gasPrice := ← Json.field "registerPeginGasPrice" }
      owner := ← Json.field "ownerAccountAddress" }

end Settlement

end Flyover
