import Flyover.Binary64.Shortest
import Flyover.Crypto.Secp256k1
import Flyover.Hex
import Flyover.Wei
/-!
What can be wrong with the settings of a provider, and how it is put.
-/

namespace Flyover.Settings

inductive KeyFault
  | length (characters : Nat)
  | digits (fault : Hex.Fault)
  | range
deriving DecidableEq

def keyRangeMessage : String := "malformed or out-of-range secret key"

def KeyFault.message : KeyFault → String
  | length n => "The provider private key provided is invalid, it must be 64 hex characters, got " ++ Text.numeral n ++
      " characters"
  | digits e => "The provider private key provided is invalid: " ++ e.message
  | range => "The provider private key provided is invalid: " ++ keyRangeMessage

inductive Fault
  | noFile
  | malformedFile
  | conversion (found expected : String) (key origin : Option String)
  | wrongType (found expected : String)
  | missing (field : String)
  | tooShort (length : Nat) (expected : String)
  | unknownNetwork (name : String)
  | networkShape
  | negativeAmount (amount : Int)
  | malformedAmount (text : String)
  | accountAddress (text : String)
  | secretKey (fault : KeyFault)
  | bitcoinAddress (text : String)
  | valueRange (min max : Wei)
  | feeScale (scale : UInt64)
  | negativeFee (percentage : Binary64)
  | noConfirmations
deriving DecidableEq

def Fault.message : Fault → String
  | noFile => "configuration file not found"
  | malformedFile => "configuration file is malformed"
  | conversion found expected key origin =>
    "invalid type: " ++ found ++ ", expected " ++ expected ++ (key.elim "" fun k => " for key `" ++ k ++ "`") ++
      origin.elim "" fun o => " in " ++ o
  | wrongType found expected => "invalid type: " ++ found ++ ", expected " ++ expected
  | missing field => "missing field `" ++ field ++ "`"
  | tooShort n expected => "invalid length " ++ Text.numeral n ++ ", expected " ++ expected
  | networkShape => "value of enum NetworkKind should be represented by either string or table with exactly one key"
  | unknownNetwork name => "enum NetworkKind does not have variant constructor " ++ name
  | negativeAmount i => "negative amount: " ++ Text.signedNumeral i
  | malformedAmount s => Wei.malformedMessage s
  | accountAddress s => "Invalid Rootstock address, expected 0x followed by 40 hex characters: '" ++ s ++ "'"
  | secretKey e => e.message
  | bitcoinAddress s => "The provider Bitcoin address '" ++ s ++ "' is not valid for the configured network"
  | valueRange min max => "[pegin] min_value (" ++ min.text ++ ") must not be greater than max_value (" ++ max.text ++ ")"
  | feeScale n => "[lps] fee_scale must be a positive multiple of 100, got " ++ Text.numeral n.toNat
  | negativeFee x => "[pegin] fee_percentage must not be negative, got " ++ x.text
  | noConfirmations => "[general] btc_confirmations must contain at least one entry"

end Flyover.Settings
