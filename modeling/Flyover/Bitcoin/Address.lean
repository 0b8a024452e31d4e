import Flyover.Bitcoin.Base58
import Flyover.Bitcoin.Bech32
/-!
Bitcoin addresses and the networks they belong to.
-/

namespace Flyover.Bitcoin

inductive Network
  | mainnet
  | testnet
  | regtest
deriving DecidableEq

namespace Network

def isMain : Network → Bool
  | mainnet => true
  | testnet | regtest => false

def humanReadable : Network → String
  | mainnet => "bc"
  | testnet => "tb"
  | regtest => "bcrt"

def all : List Network := [mainnet, testnet, regtest]

end Network

inductive Address
  | keyHash (main : Bool) (hash : Bytes)
  | scriptHash (main : Bool) (hash : Bytes)
  | witness (network : Network) (program : Bech32.Program)
deriving DecidableEq

namespace Address

def ofPayload? : Bytes → Option Address
  | [] => none
  | version :: hash =>
    if hash.length ≠ 20 then none
    else if version = 0 then some (keyHash true hash)
    else if version = 111 then some (keyHash false hash)
    else if version = 5 then some (scriptHash true hash)
    else if version = 196 then some (scriptHash false hash)
    else none

def ofText? (s : String) : Option Address :=
  match Bech32.decode? s with
  | some (hrp, program) => (Network.all.find? fun n => n.humanReadable = hrp).map fun n => witness n program
  | none => if s.utf8ByteSize ≤ 50 then (Base58.decodeChecked? s).bind ofPayload? else none

def belongsTo (a : Address) (network : Network) : Bool :=
  match a with
  | keyHash main _ | scriptHash main _ => main = network.isMain
  | witness n _ => n = network

end Address

def isAddress (s : String) (network : Network) : Bool :=
  match Address.ofText? s with
  | some a => a.belongsTo network
  | none => false

def isScriptHash (s : String) (network : Network) : Bool :=
  match Address.ofText? s with
  | some (.scriptHash main hash) => (Address.scriptHash main hash).belongsTo network
  | _ => false

end Flyover.Bitcoin
