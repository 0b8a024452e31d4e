import Flyover.Run
/-!
Figures over the peg-ins that the provider has settled.
-/

namespace Flyover

structure Report where
  count : Nat
  minValue : Wei
  maxValue : Wei
  averageValue : Wei
  totalFees : Wei
  averageFee : Wei
deriving DecidableEq

namespace Report

def empty : Report := ⟨0, 0, 0, 0, 0, 0⟩

def add (sum : Wei × Report) (quote : Quote) : Except Error (Wei × Report) := do
  let r := sum.2
  let total ← sum.1.add quote.value
  let fees ← r.totalFees.add quote.callFee
  return (total, { r with
    count := r.count + 1
    minValue := if r.count = 0 || quote.value < r.minValue then quote.value else r.minValue
    maxValue := if r.maxValue < quote.value then quote.value else r.maxValue
    totalFees := fees })

def ofQuotes (quotes : List Quote) : Except Error Report := do
  let (total, r) ← quotes.foldlM add (0, empty)
  if r.count = 0 then return r
  let count := Wei.ofUInt64 (UInt64.ofNat r.count)
  let averageValue ← total.div count
  let averageFee ← r.totalFees.div count
  return { r with averageValue, averageFee }

def compute (start stop : Instant) : Run Report := do
  let settled ← Run.settlementsIn [.registerPeginSucceeded]
  let hashes := settled.map fun s => s.quoteHash
  if hashes.isEmpty then return empty
  let quotes ← Run.quotesWithin hashes start stop
  ofQuotes (quotes.map Prod.snd)

instance : Json.Encode Report where
  encode r := .object
    [("numberOfQuotes", .int r.count), ("minimumQuoteValue", Json.encode r.minValue),
      ("maximumQuoteValue", Json.encode r.maxValue), ("averageQuoteValue", Json.encode r.averageValue),
      ("totalFeesCollected", Json.encode r.totalFees), ("averageFeePerQuote", Json.encode r.averageFee)]

end Report

def peginReport (start stop : Instant) : Run Report :=
  let args := (ErrorArgs.single "from" (Text.signedNumeral start.seconds)).insert "to" (Text.signedNumeral stop.seconds)
  Run.mapError (.inUseCase .report args) (Report.compute start stop)

end Flyover
