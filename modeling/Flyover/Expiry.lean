import Flyover.Run
/-!
Expiry: settlements without a deposit end with the time for it, which frees their liquidity.
-/

namespace Flyover

namespace Expiry

def close (settlement : Settlement) : Run Settlement := do
  if settlement.state = .timeForDepositElapsed then return settlement
  Run.check (settlement.state = .waitingForDeposit) (.illegalState "only quotes waiting for a deposit expire")
  let quote ← (← Run.findQuote settlement.quoteHash) |> Run.require (.illegalState "retained quote without a quote")
  Run.check (quote.isExpiredAt (← Run.now)) (.illegalState "quote has not expired")
  let closed ← settlement.moveTo .timeForDepositElapsed
  Run.updateSettlement closed
  return closed

def isDue (settlement : Settlement) : Run Bool := do
  let quote ← Run.mapError (fun e => e.within .expireQuote) (Run.findQuote settlement.quoteHash)
  let now ← Run.now
  return quote.any fun q => q.isExpiredAt now

end Expiry

def expireQuote (settlement : Settlement) : Run Settlement :=
  Run.mapError (fun e => e.orWithin .expireQuote (.single "quoteHash" settlement.quoteHash)) (Expiry.close settlement)

namespace Expiry

def sweepOne (settlement : Settlement) : Run (Option String) := do
  if ← isDue settlement then
    match ← Run.attempt (expireQuote settlement) with
    | .ok _ => return some settlement.quoteHash
    | .error _ => return none
  else return none

end Expiry

/-- Ends every settlement that waits for a deposit and is due, and tells their hashes. One that cannot be ended is left for
the next time. -/
def sweepExpired : Run (List String) := do
  let waiting ← Run.mapError (fun e => e.within .expireQuote) (Run.settlementsIn [.waitingForDeposit])
  let hashes ← waiting.mapM Expiry.sweepOne
  return hashes.filterMap id

end Flyover
