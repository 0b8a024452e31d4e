import Flyover.Json.Basic
import Flyover.Settings.Fault
import Flyover.Toml.Basic
/-!
Configuration values: what a source says, with a note of the source. Sources are laid over each other member by member,
and names do not depend on case.
-/

namespace Flyover.Settings

inductive Scalar
  | nil
  | bool (b : Bool)
  | int (i : Int)
  | word (n : UInt64)
  | real (x : Binary64)
  | text (s : String)
deriving DecidableEq

inductive Value
  | scalar (origin : Option String) (value : Scalar)
  | table (origin : Option String) (members : List (String × Value))
  | list (origin : Option String) (items : List Value)

namespace Value

instance : Inhabited Value := ⟨scalar none .nil⟩

def empty : Value := table none []

def origin : Value → Option String
  | scalar o _ | table o _ | list o _ => o

def toTable : Value → Value
  | table o ms => table o ms
  | _ => empty

def toList : Value → Value
  | list o xs => list o xs
  | _ => list none []

def changeMember (change : Option Value → Value) (name : String) : List (String × Value) → List (String × Value)
  | [] => [(name, change none)]
  | (k, v) :: rest => if k = name then (k, change (some v)) :: rest else (k, v) :: changeMember change name rest

def changeIn (change : Option Value → Value) (name : String) : Value → Value
  | table o ms => table o (changeMember change name ms)
  | v => v

def place (index : Int) (length : Nat) : Nat := if 0 ≤ index then index.toNat else length - index.natAbs

def changeAt (change : Value → Value) (index : Int) : Value → Value
  | list o xs =>
    let n := place index xs.length
    list o ((xs ++ List.replicate (n + 1 - xs.length) (scalar none .nil)).modify n change)
  | v => v

mutual

def put (root : Value) (name : String) : Value → Value
  | table _ incoming => root.toTable.changeIn (fun old => putAll (old.getD empty) incoming) (Text.lower name)
  | scalar o s => root.toTable.changeIn (fun _ => scalar o s) (Text.lower name)
  | list o xs => root.toTable.changeIn (fun _ => list o xs) (Text.lower name)

def putAll (root : Value) : List (String × Value) → Value
  | [] => root
  | (k, v) :: rest => putAll (put root k v) rest

end

mutual

def ofJson (source : String) : Json → Value
  | .null => scalar source .nil
  | .bool b => scalar source (.bool b)
  | .int i => scalar source (if Text.fitsInt64 i then .int i else .real (.ofNat i.toNat))
  | .real x => scalar source (.real x)
  | .string s => scalar source (.text s)
  | .array items => list source (ofJsonItems source items)
  | .object members => table source (ofJsonMembers source members)

def ofJsonItems (source : String) : List Json → List Value
  | [] => []
  | j :: js => ofJson source j :: ofJsonItems source js

def ofJsonMembers (source : String) : List (String × Json) → List (String × Value)
  | [] => []
  | (k, j) :: ms => (k, ofJson source j) :: ofJsonMembers source ms

end

mutual

def ofToml (source : String) : Toml → Value
  | .string s | .time s => scalar source (.text s)
  | .int i => scalar source (.int i)
  | .real x => scalar source (.real x)
  | .bool b => scalar source (.bool b)
  | .array items => list source (ofTomlItems source items)
  | .table _ members => table source (ofTomlMembers source members)
  | .tables elements => list source (ofTomlElements source elements)

def ofTomlItems (source : String) : List Toml → List Value
  | [] => []
  | t :: ts => ofToml source t :: ofTomlItems source ts

def ofTomlMembers (source : String) : List (String × Toml) → List (String × Value)
  | [] => []
  | (k, t) :: ms => (k, ofToml source t) :: ofTomlMembers source ms

def ofTomlElements (source : String) : List (List (String × Toml)) → List Value
  | [] => []
  | ms :: rest => table source (ofTomlMembers source ms) :: ofTomlElements source rest

end

end Value

end Flyover.Settings
