import Flyover.Txid
import Flyover.Wei.Checked
import Std.Data.ExtTreeMap
/-!
What the Bitcoin chain tells about the transaction of a deposit.
-/

namespace Flyover

structure Deposit where
  confirmations : UInt64
  outputs : Std.ExtTreeMap String (List Wei)
deriving DecidableEq

namespace Deposit

def outputsTo (d : Deposit) (address : String) : List Wei := d.outputs.getD address []

def amountTo (d : Deposit) (address : String) : Except Error Wei := Wei.sum (d.outputsTo address)

end Deposit

end Flyover
