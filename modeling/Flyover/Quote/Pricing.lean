import Flyover.Quote
/-!
The fee parameters behind a quote.
-/

namespace Flyover

structure Pricing where
  gasPrice : Wei
  feePercentage : Binary64
  fixedFee : Wei
deriving DecidableEq

structure PricedQuote where
  hash : String
  quote : Quote
  pricing : Pricing
deriving DecidableEq

instance : Json.Encode Pricing where
  encode p := .object [("gasPrice", Json.encode p.gasPrice), ("feePercentage", Json.encode p.feePercentage),
    ("fixedFee", Json.encode p.fixedFee)]

instance : Json.Decode Pricing where
  decode := Json.record ⟨"PeginCreationData", 3⟩ do
    return {
      gasPrice := ← Json.field "gasPrice"
      feePercentage := ← Json.field "feePercentage"
      fixedFee := ← Json.field "fixedFee" }

instance : Json.Encode PricedQuote where
  encode p := .object [("hash", Json.encode p.hash), ("quote", Json.encode p.quote), ("creationData", Json.encode p.pricing)]

instance : Json.Decode PricedQuote where
  decode := Json.record ⟨"CreatedPeginQuote", 3⟩ do
    return {
      hash := ← Json.field "hash"
      quote := ← Json.field "quote"
      pricing := ← Json.field "creationData" }

end Flyover
