import Flyover.Run
/-!
The collateral that the provider has in the contract.
-/

namespace Flyover

namespace Collateral

def add (amount : Wei) : Run Wei := do
  let provider := (← Run.settings).provider
  let minimum ← Run.ask .minimumCollateral
  let current ← Run.ask (.collateral provider)
  let collateral ← current.add amount
  if collateral < minimum then Run.fail (.insufficientAmount collateral minimum)
  Run.ask (.addCollateral amount)
  return collateral

def notResignedReasons : List String := ["notresigned", "resignationdelaynotmet"]

def occursIn (word : List Char) : List Char → Bool
  | [] => word.isEmpty
  | c :: cs => word.isPrefixOf (c :: cs) || occursIn word cs

def withdrawalError : Error → Error
  | .contractReverted reason receipt =>
    if notResignedReasons.any fun r => occursIn r.toList (Text.lower reason).toList then .providerNotResigned
    else .contractReverted reason receipt
  | e => e

end Collateral

def addCollateral (amount : Wei) : Run Wei := Run.mapError (fun e => e.within .addCollateral) (Collateral.add amount)

def getCollateral : Run Wei :=
  Run.mapError (fun e => e.within .getCollateral) do Run.ask (.collateral (← Run.settings).provider)

def withdrawCollateral : Run Unit :=
  Run.mapError (fun e => (Collateral.withdrawalError e).within .withdrawCollateral) (Run.ask .withdrawCollateral)

end Flyover
