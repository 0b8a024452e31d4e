import Flyover.Binary64
/-!
TOML documents as trees, and how headers and dotted keys make a tree grow. A table remembers how it came about, since that
decides what may still be added to it.
-/

namespace Flyover

inductive Toml.TableOrigin
  | header
  | implied
  | dotted
  | inline
deriving DecidableEq

inductive Toml
  | string (s : String)
  | int (i : Int)
  | real (x : Binary64)
  | bool (b : Bool)
  | time (text : String)
  | array (items : List Toml)
  | table (origin : Toml.TableOrigin) (members : List (String × Toml))
  | tables (elements : List (List (String × Toml)))

namespace Toml

abbrev Members := List (String × Toml)

def replace (key : String) (value : Toml) : Members → Members
  | [] => []
  | (k, v) :: rest => if k = key then (key, value) :: rest else (k, v) :: replace key value rest

def changeWithin (change : Members → Option Members) : (path : List String) → Members → Option Members
  | [], members => change members
  | key :: path, members =>
    match members.lookup key with
    | none => do return members ++ [(key, table .implied (← changeWithin change path []))]
    | some (table .inline _) => none
    | some (table origin inner) => do return replace key (table origin (← changeWithin change path inner)) members
    | some (tables elements) =>
      match elements.getLast? with
      | none => none
      | some inner => do return replace key (tables (elements.dropLast ++ [← changeWithin change path inner])) members
    | some _ => none

def openTable (key : String) (members : Members) : Option Members :=
  match members.lookup key with
  | none => some (members ++ [(key, table .header [])])
  | some (table .implied inner) => some (replace key (table .header inner) members)
  | some _ => none

def openElement (key : String) (members : Members) : Option Members :=
  match members.lookup key with
  | none => some (members ++ [(key, tables [[]])])
  | some (tables elements) => some (replace key (tables (elements ++ [[]])) members)
  | some _ => none

def addValue (key : String) (value : Toml) (members : Members) : Option Members :=
  match members.lookup key with
  | none => some (members ++ [(key, value)])
  | some _ => none

def addDotted (key : String) (value : Toml) : (path : List String) → Members → Option Members
  | [], members => addValue key value members
  | step :: path, members =>
    match members.lookup step with
    | none => do return members ++ [(step, table .dotted (← addDotted key value path []))]
    | some (table .dotted inner) => do return replace step (table .dotted (← addDotted key value path inner)) members
    | some (table .implied inner) =>
      if path.isEmpty then none
      else do return replace step (table .implied (← addDotted key value path inner)) members
    | some _ => none

end Toml

end Flyover
