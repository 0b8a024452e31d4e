import Flyover.Instant
import Flyover.Quote.Pricing
import Flyover.Settlement
import Flyover.Signed
/-!
What a provider keeps: quotes with the fees behind them, settlements, and the accounts that it trusts.
-/

namespace Flyover

/-- Quotes, the fee parameters behind them and settlements by quote hash, and trusted accounts by address. -/
structure Store where
  quotes : Std.ExtTreeMap String Quote
  pricing : Std.ExtTreeMap String Pricing
  settlements : Std.ExtTreeMap String Settlement
  accounts : Std.ExtTreeMap Address (Signed TrustedAccount)
deriving DecidableEq

namespace Store

def empty : Store := ⟨∅, ∅, ∅, ∅⟩

def pricingOf (s : Store) (hash : String) : Pricing := s.pricing.getD hash ⟨0, .zero false, 0⟩

def settlementsWhere (s : Store) (condition : Settlement → Bool) : List Settlement :=
  (s.settlements.toList.map Prod.snd).filter condition

def settlementsIn (s : Store) (states : List Settlement.State) : List Settlement :=
  s.settlementsWhere fun t => states.contains t.state

def settlementsOf (s : Store) (owner : Address) (states : List Settlement.State) : List Settlement :=
  s.settlementsWhere fun t => t.owner = some owner && states.contains t.state

/-- The listed quotes agreed on between two points in time, both included, each once and in the order of the hashes. -/
def quotesWithin (s : Store) (hashes : List String) (start stop : Instant) : List (String × Quote) :=
  let found := hashes.filterMap fun h => do
    let q ← s.quotes[h]?
    guard (start.seconds ≤ q.agreedAt.toNat ∧ (q.agreedAt.toNat : Int) ≤ stop.seconds)
    return (h, q)
  (found.foldl (fun t e => t.insert e.1 e.2) (∅ : Std.ExtTreeMap String Quote)).toList

def putQuote (s : Store) (p : PricedQuote) : Store :=
  { s with quotes := s.quotes.insert p.hash p.quote, pricing := s.pricing.insert p.hash p.pricing }

def setSettlement (s : Store) (t : Settlement) : Store :=
  { s with settlements := s.settlements.insert t.quoteHash t }

def insertSettlement (s : Store) (t : Settlement) : Except Error Store :=
  if t.quoteHash ∈ s.settlements then .error (.storage ("retained quote " ++ t.quoteHash ++ " already exists"))
  else .ok (s.setSettlement t)

def updateSettlement (s : Store) (t : Settlement) : Except Error Store :=
  if t.quoteHash ∈ s.settlements then .ok (s.setSettlement t)
  else .error (.storage ("retained quote " ++ t.quoteHash ++ " does not exist"))

def putAccount (s : Store) (a : Signed TrustedAccount) : Store :=
  { s with accounts := s.accounts.insert a.value.address a }

def entriesSince {κ β : Type} [Ord κ] [Std.TransOrd κ] [DecidableEq β] (entries before : Std.ExtTreeMap κ β) :
    Std.ExtTreeMap κ β :=
  entries.filter fun k a => before[k]? ≠ some a

def since (s before : Store) : Store where
  quotes := entriesSince s.quotes before.quotes
  pricing := entriesSince s.pricing before.pricing
  settlements := entriesSince s.settlements before.settlements
  accounts := entriesSince s.accounts before.accounts

end Store

end Flyover
