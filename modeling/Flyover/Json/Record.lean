import Flyover.Json.Printer
/-!
Types with a JSON form: how their values are written as JSON values and read back. A record is written as an object with
one member per field and read from such an object, whose other members are ignored, or from an array of its fields in
order.
-/

namespace Flyover.Json

class Encode (α : Type) where
  encode : α → Json

class Decode (α : Type) where
  decode : Json → Except Fault α
  absent : Option α := none

export Encode (encode)
export Decode (decode)

instance : Encode String := ⟨string⟩

instance : Decode String where
  decode
    | string s => .ok s
    | j => .error (.wrongType j.shape "a string")

instance : Encode Bool := ⟨bool⟩

instance : Decode Bool where
  decode
    | bool b => .ok b
    | j => .error (.wrongType j.shape "a boolean")

def decodeInt (low high : Int) (expected : String) : Json → Except Fault Int
  | int i => if low ≤ i ∧ i ≤ high then .ok i else .error (.wrongValue (.int i) expected)
  | j => .error (.wrongType j.shape expected)

instance : Encode UInt64 := ⟨fun n => int n.toNat⟩

instance : Decode UInt64 := ⟨fun j => (decodeInt 0 0xFFFFFFFFFFFFFFFF "u64" j).map fun i => UInt64.ofNat i.toNat, none⟩

instance : Encode UInt32 := ⟨fun n => int n.toNat⟩

instance : Decode UInt32 := ⟨fun j => (decodeInt 0 0xFFFFFFFF "u32" j).map fun i => UInt32.ofNat i.toNat, none⟩

instance : Encode UInt16 := ⟨fun n => int n.toNat⟩

instance : Decode UInt16 := ⟨fun j => (decodeInt 0 0xFFFF "u16" j).map fun i => UInt16.ofNat i.toNat, none⟩

instance : Decode UInt8 := ⟨fun j => (decodeInt 0 0xFF "u8" j).map fun i => UInt8.ofNat i.toNat, none⟩

instance : Encode Int64 := ⟨fun n => int n.toInt⟩

instance : Decode Int64 := ⟨fun j => (decodeInt (-0x8000000000000000) 0x7FFFFFFFFFFFFFFF "i64" j).map Int64.ofInt, none⟩

instance : Encode Binary64 := ⟨fun x => if x.isFinite then real x else null⟩

instance : Decode Binary64 where
  decode
    | real x => .ok x
    | int i => .ok (Binary64.nearest (i < 0) i.natAbs 1)
    | j => .error (.wrongType j.shape "f64")

instance {α : Type} [Encode α] : Encode (Option α) := ⟨fun x => x.elim null encode⟩

instance {α : Type} [Decode α] : Decode (Option α) where
  decode
    | null => .ok none
    | j => (decode j).map some
  absent := some none

instance {α : Type} [Encode α] : Encode (List α) := ⟨fun xs => array (xs.map encode)⟩

instance {α : Type} [Decode α] : Decode (List α) where
  decode
    | array items => items.mapM decode
    | j => .error (.wrongType j.shape "a sequence")

inductive Source
  | named (members : List (String × Json))
  | listed (taken : Nat) (items : List Json)

structure RecordKind where
  name : String
  fields : Nat

def RecordKind.expected (k : RecordKind) : String := "struct " ++ k.name

def RecordKind.expectedItems (k : RecordKind) : String :=
  k.expected ++ " with " ++ Text.numeral k.fields ++ (if k.fields = 1 then " element" else " elements")

abbrev FieldReader := ReaderT RecordKind (StateT Source (Except Fault))

def field {α : Type} [Decode α] (name : String) : FieldReader α := fun kind source =>
  match source with
  | .named members =>
    match member? name members with
    | some j => (decode j).map (·, source)
    | none =>
      match Decode.absent (α := α) with
      | some a => .ok (a, source)
      | none => .error (.missingField name)
  | .listed taken (j :: items) => (decode j).map (·, .listed (taken + 1) items)
  | .listed taken [] => .error (.wrongLength taken kind.expectedItems)

def record {α : Type} (kind : RecordKind) (read : FieldReader α) : Json → Except Fault α
  | object members => (read kind (.named members)).map Prod.fst
  | array items =>
    match read kind (.listed 0 items) with
    | .ok (a, .listed _ []) => .ok a
    | .ok (_, .listed _ (_ :: _)) => .error (.wrongLength items.length "fewer elements in array")
    | .ok (a, .named _) => .ok a
    | .error e => .error e
  | j => .error (.wrongType j.shape kind.expected)

end Flyover.Json
