import Flyover.Run
/-!
The liquidity that a provider has left: what it holds on the network and in the contract, less what its settlements lock.
-/

namespace Flyover.Liquidity

def locked (settlements : List Settlement) : Except Error Wei := Wei.sum (settlements.map fun s => s.requiredLiquidity)

def availableAs (listed : Store → List Settlement) : Run Wei := do
  let provider := (← Run.settings).provider
  let networkBalance ← Run.ask (.balance provider)
  let contractBalance ← Run.ask (.contractBalance provider)
  let settlements ← Run.access (.settlementsIn Settlement.State.locking) listed
  let locked ← locked settlements
  let held ← networkBalance.add contractBalance
  return held.monus locked

def available : Run Wei := availableAs fun s => s.settlementsIn Settlement.State.locking

def require (amount : Wei) : Run Unit := do
  let available ← available
  if available < amount then Run.fail .noLiquidity

end Flyover.Liquidity
