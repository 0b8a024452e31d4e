import Flyover.Run
/-!
The call for the user: once the deposit is confirmed, the provider sends the value of the quote to its destination. From
the call on, every error leaves the settlement in a final state.
-/

namespace Flyover

namespace Payout

def amountToSend (quote : Quote) : Run Wei := do
  let provider := (← Run.settings).provider
  let contractBalance ← Run.ask (.contractBalance provider)
  let amount := quote.value.monus contractBalance
  if amount = 0 then return amount
  let networkBalance ← Run.ask (.balance provider)
  if networkBalance < amount then Run.fail .noLiquidity
  return amount

def refuse (quote : Quote) (settlement : Settlement) (error : Error) : Run Unit := do
  let closed ← settlement.moveTo .callForUserFailed
  Run.publish (.calledForUser quote closed (some error.message))
  match ← Run.attempt (Run.updateSettlement closed) with
  | .ok _ => Run.fail error
  | .error e => Run.fail (.nonRecoverable [error, e])

def settle (settlement : Settlement) (answer : Except Error Receipt) : Except Error (Settlement × Option Error) :=
  match answer with
  | .ok receipt => do return (← (settlement.recordCallForUser receipt).moveTo .callForUserSucceeded, none)
  | .error e => do
    let recorded := e.attemptedReceipt?.elim settlement settlement.recordCallForUser
    return (← recorded.moveTo .callForUserFailed, some e)

def checkDeposit (settlement : Settlement) : Run Quote := do
  Run.check (settlement.state = .waitingForDepositConfirmations) (.wrongState settlement.state)
  let txid ← settlement.deposit |> Run.require (.illegalState "no user bitcoin transaction")
  let quote ← (← Run.findQuote settlement.quoteHash) |> Run.require .quoteNotFound
  Run.check (!quote.isExpiredAt (← Run.now)) .expiredQuote
  let deposit ← Run.ask (.deposit txid)
  let confirmations := quote.confirmations.toUInt64
  Run.check (confirmations ≤ deposit.confirmations) (.notEnoughConfirmations deposit.confirmations confirmations)
  let required ← quote.total
  let sent ← deposit.amountTo settlement.depositAddress
  if sent < required then refuse quote settlement (.insufficientAmount sent required)
  return quote

def currentSettlement (hash : String) : Run Settlement := do
  let settlement ← (← Run.findSettlement hash) |> Run.require .quoteNotAccepted
  Run.check (settlement.state = .waitingForDepositConfirmations) (.wrongState settlement.state)
  return settlement

def pay (given : Settlement) : Run Settlement := do
  let quote ← checkDeposit given
  Run.acquire .wallet
  let settlement ← currentSettlement given.quoteHash
  let amount ← amountToSend quote
  let gasLimit := UInt64.ofNat (quote.gasLimit.toNat + Quote.callOverhead)
  let answer ← Run.attempt (Run.ask (.callForUser amount gasLimit quote))
  let (settled, callError) ← settle settlement answer
  Run.publish (.calledForUser quote settled (callError.map fun e => e.message))
  let written ← Run.attempt (Run.updateSettlement settled)
  let writeError := match written with
    | .ok _ => none
    | .error e => some e
  match callError.toList ++ writeError.toList with
  | [] => return settled
  | errors => Run.fail (.nonRecoverable errors)

end Payout

def callForUser (settlement : Settlement) : Run Settlement :=
  Run.mapError (fun e => e.orWithin .callForUser (.single "quoteHash" settlement.quoteHash)) (Payout.pay settlement)

end Flyover
