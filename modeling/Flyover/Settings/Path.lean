import Flyover.Settings.Value
/-!
Paths to configuration values: a name, then names after a point and indices in brackets.
-/

namespace Flyover.Settings

inductive Path
  | name (id : String)
  | member (parent : Path) (id : String)
  | item (parent : Path) (index : Int)
deriving DecidableEq

namespace Path

def isNameChar (c : Char) : Bool := c.isAlphanum || c = ' ' || c = '_' || c = '-'

def index? (cs : List Char) : Option Int :=
  let isSpace (c : Char) : Bool := c = ' ' || c = '\t'
  let trimmed := ((cs.dropWhile isSpace).reverse.dropWhile isSpace).reverse
  match trimmed with
  | '+' :: _ => none
  | ds => (Text.integer? ds).filter Text.fitsInt64

def steps? : (fuel : Nat) → Path → List Char → Option Path
  | _, path, [] => some path
  | 0, _, _ => none
  | fuel + 1, path, '.' :: cs =>
    let id := cs.takeWhile isNameChar
    if id.isEmpty then none else steps? fuel (member path (String.ofList id)) (cs.dropWhile isNameChar)
  | fuel + 1, path, '[' :: cs => do
    let i ← index? (cs.takeWhile (· ≠ ']'))
    match cs.dropWhile (· ≠ ']') with
    | _ :: rest => steps? fuel (item path i) rest
    | [] => none
  | _, _, _ => none

def ofText? (s : String) : Option Path :=
  let id := s.toList.takeWhile isNameChar
  if id.isEmpty then none else steps? s.length (name (String.ofList id)) (s.toList.dropWhile isNameChar)

def change (f : Value → Value) : Path → Value → Value
  | name id, root => root.changeIn (fun old => f (old.getD (.scalar none .nil))) id
  | member parent id, root =>
    parent.change (fun v => v.toTable.changeIn (fun old => f (old.getD (.scalar none .nil))) id) root
  | item parent i, root => parent.change (fun v => v.toList.changeAt f i) root

def put (value : Value) : Path → Value → Value
  | name id, root => root.put id value
  | member parent id, root => parent.change (fun v => v.toTable.put id value) root
  | item parent i, root => parent.change (fun v => v.toList.changeAt (fun _ => value) i) root

end Path

def Value.insert (root : Value) (key : String) (value : Value) : Value :=
  match Path.ofText? key with
  | some path => path.put value root
  | none => root.put key value

end Flyover.Settings
