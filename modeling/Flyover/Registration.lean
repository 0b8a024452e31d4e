import Flyover.Run
/-!
Registration: the provider proves the deposit of a user whom it has paid, and the bridge gives it the deposit. As long as
the bridge lags behind the Bitcoin chain, nothing changes and registration can be tried again.
-/

namespace Flyover

namespace Registration

def arguments (settlement : Settlement) : ErrorArgs :=
  let args := ErrorArgs.single "quoteHash" settlement.quoteHash
  match settlement.deposit with
  | some txid => args.insert "btcTx" txid.text
  | none => args

def prove (settlement : Settlement) : Run (Quote × DepositProof) := do
  Run.check (settlement.state = .callForUserSucceeded) (.wrongState settlement.state)
  let txid ← settlement.deposit |> Run.require (.illegalState "no user bitcoin transaction")
  let quote ← (← Run.findQuote settlement.quoteHash) |> Run.require .quoteNotFound
  let deposit ← Run.ask (.deposit txid)
  let required ← Run.ask .requiredConfirmations
  Run.check (required ≤ deposit.confirmations) (.notEnoughConfirmations deposit.confirmations required)
  let signature ← (Hex.decode (Hex.dropMarkers settlement.signature)).mapError Error.hex
  let transaction ← Run.ask (.rawTransaction txid)
  let merkleTree ← Run.ask (.merkleTree txid)
  let height ← Run.ask (.blockHeight txid)
  return (quote, { signature, transaction, merkleTree, height })

def currentSettlement (hash : String) : Run Settlement := do
  let settlement ← (← Run.findSettlement hash) |> Run.require .quoteNotAccepted
  Run.check (settlement.state = .callForUserSucceeded) (.wrongState settlement.state)
  return settlement

def settle (settlement : Settlement) (answer : Except Error Receipt) : Except Error (Settlement × Option Error) :=
  match answer with
  | .ok receipt => do return (← (settlement.recordRegisterPegin receipt).moveTo .registerPeginSucceeded, none)
  | .error e => do
    if e.isWaitingForBridge then throw e
    let recorded := e.attemptedReceipt?.elim settlement settlement.recordRegisterPegin
    return (← recorded.moveTo .registerPeginFailed, some e)

def register (given : Settlement) : Run Settlement := do
  let (quote, proof) ← prove given
  Run.acquire .wallet
  let settlement ← currentSettlement given.quoteHash
  let answer ← Run.attempt (Run.ask (.registerPegin proof quote))
  let (settled, registerError) ← settle settlement answer
  Run.publish (.registeredPegin settled (registerError.map fun e => e.message))
  let written ← Run.attempt (Run.updateSettlement settled)
  let writeError := match written with
    | .ok _ => none
    | .error e => some e
  match registerError.toList ++ writeError.toList with
  | [] => return settled
  | errors => Run.fail (.nonRecoverable errors)

end Registration

def registerPegin (settlement : Settlement) : Run Settlement :=
  Run.mapError (fun e => e.orWithin .registerPegin (Registration.arguments settlement)) (Registration.register settlement)

end Flyover
