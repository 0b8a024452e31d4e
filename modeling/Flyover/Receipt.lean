import Flyover.Wei.Json
/-!
Receipts of mined transactions.
-/

namespace Flyover

structure Receipt where
  txHash : String
  gasUsed : UInt64
  gasPrice : Wei
deriving DecidableEq

namespace Receipt

instance : Json.Encode Receipt where
  encode r := .object [("txHash", .string r.txHash), ("gasUsed", Json.encode r.gasUsed), ("gasPrice", Json.encode r.gasPrice)]

instance : Json.Decode Receipt where
  decode := Json.record ⟨"TransactionReceipt", 3⟩ do
    return { txHash := ← Json.field "txHash", gasUsed := ← Json.field "gasUsed", gasPrice := ← Json.field "gasPrice" }

end Receipt

end Flyover
