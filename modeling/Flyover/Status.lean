import Flyover.Run
/-!
Everything known about an accepted quote.
-/

namespace Flyover

structure QuoteStatus where
  quote : Quote
  settlement : Settlement
  pricing : Pricing
deriving DecidableEq

def quoteStatus (hash : String) : Run QuoteStatus :=
  Run.mapError (.inUseCase .quoteStatus (.single "quoteHash" hash)) do
    let quote ← (← Run.findQuote hash) |> Run.require .quoteNotFound
    let settlement ← (← Run.findSettlement hash) |> Run.require .quoteNotAccepted
    let pricing ← Run.findPricing hash
    return { quote, settlement, pricing }

end Flyover
