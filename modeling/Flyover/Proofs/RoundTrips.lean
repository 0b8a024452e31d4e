import Flyover.Federation
import Flyover.Settlement
import Flyover.Signed
import Flyover.Proofs.HexText
import Flyover.Proofs.JsonText
import Flyover.Proofs.Thresholds

/-! JSON forms: a value that is encoded is decoded from its form, and from the text of that form. -/

namespace Flyover

namespace Json

lemma Plain.mono {depth depth' : Nat} {j : Json} (h : Plain depth j) (le : depth ≤ depth') : Plain depth' j := by
  induction h generalizing depth' with
  | null => exact .null
  | bool b => exact .bool b
  | int low high => exact .int low high
  | string s => exact .string s
  | array _ ih =>
    obtain _ | depth' := depth'
    · omega
    exact .array fun j hj => ih j hj (by omega)
  | object distinct _ ih =>
    obtain _ | depth' := depth'
    · omega
    exact .object distinct fun m hm => ih m hm (by omega)

class LawfulCodec (α : Type) [Encode α] [Decode α] (levels : outParam Nat) : Prop where
  decode_encode (x : α) : decode (encode x) = .ok x
  plain_encode (x : α) : Plain levels (encode x)

export LawfulCodec (decode_encode plain_encode)

instance : LawfulCodec String 0 := ⟨fun _ => rfl, .string⟩

instance : LawfulCodec Bool 0 := ⟨fun _ => rfl, .bool⟩

lemma lawful_of_decodeInt {α : Type} [Encode α] [Decode α] {toInt : α → Int} {ofInt : Int → α} {low high : Int}
    {expected : String} (encodes : ∀ x : α, encode x = int (toInt x))
    (decodes : ∀ j, decode j = (decodeInt low high expected j).map ofInt) (bounds : ∀ x, low ≤ toInt x ∧ toInt x ≤ high)
    (inverse : ∀ x, ofInt (toInt x) = x) (wide : -0x8000000000000000 ≤ low ∧ high ≤ 0xFFFFFFFFFFFFFFFF) :
    LawfulCodec α 0 where
  decode_encode x := by rw [encodes, decodes, decodeInt, if_pos (bounds x), Except.map, inverse]
  plain_encode x := by
    obtain ⟨above, below⟩ := bounds x
    rw [encodes]
    exact .int (by omega) (by omega)

instance : LawfulCodec UInt64 0 :=
  lawful_of_decodeInt (fun _ => rfl) (fun _ => rfl) (fun n => by have := n.toNat_lt; omega) (by simp) (by decide)

instance : LawfulCodec UInt32 0 :=
  lawful_of_decodeInt (fun _ => rfl) (fun _ => rfl) (fun n => by have := n.toNat_lt; omega) (by simp) (by decide)

instance : LawfulCodec UInt16 0 :=
  lawful_of_decodeInt (fun _ => rfl) (fun _ => rfl) (fun n => by have := n.toNat_lt; omega) (by simp) (by decide)

instance : LawfulCodec Int64 0 :=
  lawful_of_decodeInt (fun _ => rfl) (fun _ => rfl)
    (fun n => by have low := n.le_toInt; have high := n.toInt_lt; omega) (by simp) (by decide)

section collections

variable {α : Type} [Encode α] [Decode α] {levels : Nat} [lawful : LawfulCodec α levels]

include lawful

lemma decode_encode_option (h : ∀ x : α, encode x ≠ null) (x : Option α) : decode (encode x) = .ok x := by
  cases x with
  | none => rfl
  | some x =>
    have inner := decode_encode x
    have present := h x
    simp only [encode, decode, Option.elim_some] at inner present ⊢
    rw [inner, Except.map]

lemma plain_encode_option (x : Option α) : Plain levels (encode x) := by
  cases x with
  | none => exact .null
  | some x => exact plain_encode x

lemma mapM_decode_encode (xs : List α) : (xs.map encode).mapM decode = (.ok xs : Except Fault (List α)) := by
  induction xs with
  | nil => rfl
  | cons x xs ih => simp only [List.map_cons, List.mapM_cons, decode_encode, ih, bind, Except.bind, pure, Except.pure]

instance : LawfulCodec (List α) (levels + 1) where
  decode_encode := mapM_decode_encode
  plain_encode xs := .array fun j hj => by
    obtain ⟨x, -, rfl⟩ := List.mem_map.mp hj
    exact plain_encode x

end collections

def Yields {α : Type} (members : List (String × Json)) (read : FieldReader α) (x : α) : Prop :=
  ∀ kind, read kind (.named members) = .ok (x, .named members)

namespace Yields

variable {α β : Type} {members : List (String × Json)}

lemma pure (x : α) : Yields members (Pure.pure x) x := fun _ => rfl

lemma bind {read : FieldReader α} {next : α → FieldReader β} {x : α} {y : β} (h : Yields members read x)
    (h' : Yields members (next x) y) : Yields members (read >>= next) y := by
  intro kind
  simp only [Bind.bind, ReaderT.bind, StateT.bind, Except.bind, h kind, h' kind]

lemma field [Encode α] [Decode α] {levels : Nat} [LawfulCodec α levels] {name : String} {x : α}
    (h : member? name members = some (encode x)) : Yields members (field name) x := by
  intro kind
  simp only [Json.field, h, decode_encode, Except.map]

lemma decode_record {read : FieldReader α} {x : α} (h : Yields members read x) (kind : RecordKind) :
    record kind read (.object members) = .ok x := by
  simp only [record, h kind, Except.map]

end Yields

end Json

open Json

instance : LawfulCodec Wei 0 where
  decode_encode a := by simp only [decode, encode, Wei.ofText?_text]
  plain_encode a := .string a.text

lemma FixedBytes.ofHex_encode {size : Nat} (a : FixedBytes size) : ofHex ("0x" ++ Hex.encode a.toBytes) = .ok a := by
  have whole : ofBytes? a.toBytes = some a := ofBytes?_eq_some_iff.mpr rfl
  simp only [ofHex, Hex.dropMarker_encode, List.length_map, Hex.length_encodeChars, a.length_toBytes,
    Hex.pairs_encodeChars, whole]
  rw [if_neg (by omega), if_neg (by simp)]

lemma Address.lowerText_eq (a : Address) : a.lowerText = "0x" ++ Hex.encode a.toBytes := by
  rw [← String.toList_inj]
  simp only [lowerText, Hex.encode, String.toList_append, String.toList_ofList]
  rfl

instance : LawfulCodec Address 0 where
  decode_encode a := by simp only [decode, encode, FixedBytes.ofJson, Address.lowerText_eq, FixedBytes.ofHex_encode]
  plain_encode a := .string a.lowerText

instance : LawfulCodec CallData 0 where
  decode_encode d := by
    simp only [decode, encode, CallData.ofText?, CallData.text, Hex.dropMarker_encode, Hex.decodeBytes_encodeChars]
  plain_encode d := .string d.text

lemma Txid.ofText_text (t : Txid) : ofText t.text = .ok t := by
  have whole : FixedBytes.ofBytes? t.hash.toBytes = some t.hash := FixedBytes.ofBytes?_eq_some_iff.mpr rfl
  have length : ((Hex.encodeChars t.hash.toBytes.reverse).map Hex.asciiByte).length = 64 := by
    rw [List.length_map, Hex.length_encodeChars, List.length_reverse, t.hash.length_toBytes]
  simp only [ofText, text, Hex.ofText_encode, length, Hex.decodeBytes_encodeChars, List.reverse_reverse, whole]
  rfl

instance : LawfulCodec Txid 0 where
  decode_encode t := by simp only [decode, encode, Txid.ofText_text, Except.mapError]
  plain_encode t := .string t.text

instance : LawfulCodec Settlement.State 0 where
  decode_encode s := by simp only [decode, encode, Settlement.State.decodeName, Settlement.State.ofName?_name]
  plain_encode s := .string s.name

instance : LawfulCodec (Option String) 0 := ⟨decode_encode_option nofun, plain_encode_option⟩

instance : LawfulCodec (Option Address) 0 := ⟨decode_encode_option nofun, plain_encode_option⟩

instance : LawfulCodec (Option Txid) 0 := ⟨decode_encode_option nofun, plain_encode_option⟩

instance : LawfulCodec Quote 1 where
  decode_encode q := by
    refine Yields.decode_record ?_ _
    iterate 21 refine .bind (.field rfl) ?_
    exact .pure _
  plain_encode q := by
    refine .object (by simp only [List.map]; decide) ?_
    simp [plain_encode]

instance : LawfulCodec Settlement 1 where
  decode_encode s := by
    refine Yields.decode_record ?_ _
    iterate 13 refine .bind (.field rfl) ?_
    exact .pure _
  plain_encode s := by
    refine .object (by simp only [List.map]; decide) ?_
    simp [plain_encode]

instance : LawfulCodec Receipt 1 where
  decode_encode r := by
    refine Yields.decode_record ?_ _
    iterate 3 refine .bind (.field rfl) ?_
    exact .pure _
  plain_encode r := by
    refine .object (by simp only [List.map]; decide) ?_
    simp [plain_encode, Plain.string]

instance : LawfulCodec Federation 2 where
  decode_encode f := by
    refine Yields.decode_record ?_ _
    iterate 7 refine .bind (.field rfl) ?_
    exact .pure _
  plain_encode f := by
    refine .object (by simp only [List.map]; decide) ?_
    simp [plain_encode, (plain_encode _).mono (Nat.zero_le 1)]

instance : LawfulCodec TrustedAccount 1 where
  decode_encode a := by
    refine Yields.decode_record ?_ _
    iterate 4 refine .bind (.field rfl) ?_
    exact .pure _
  plain_encode a := by
    refine .object (by simp only [List.map]; decide) ?_
    simp [plain_encode]

instance {α : Type} [Encode α] [Decode α] {levels : Nat} [LawfulCodec α levels] :
    LawfulCodec (Signed α) (levels + 1) where
  decode_encode a := by
    refine Yields.decode_record ?_ _
    iterate 3 refine .bind (.field rfl) ?_
    exact .pure _
  plain_encode a := by
    refine .object (by simp only [List.map]; decide) ?_
    simp [plain_encode, (plain_encode _).mono (Nat.zero_le levels)]

namespace ConfirmationTable

lemma mapM_decodeEntry (entries : List (Wei × UInt16)) :
    (entries.map fun e => (e.1.text, encode e.2)).mapM decodeEntry = .ok entries := by
  induction entries with
  | nil => rfl
  | cons e entries ih =>
    have threshold : decode (.string e.1.text) = .ok e.1 := decode_encode e.1
    simp only [List.map_cons, List.mapM_cons, decodeEntry, threshold, decode_encode, ih, bind, Except.bind, pure,
      Except.pure]

lemma nodup_names (t : ConfirmationTable) : ((t.toList.map fun e => (e.1.text, encode e.2)).map Prod.fst).Nodup := by
  have names : (t.toList.map fun e => (e.1.text, encode e.2)).map Prod.fst = t.byThreshold.keys.map Wei.text := by
    rw [← Std.ExtTreeMap.map_fst_toList_eq_keys, List.map_map, List.map_map]
    rfl
  rw [names]
  exact Std.ExtTreeMap.nodup_keys.map Wei.text_injective

instance : LawfulCodec ConfirmationTable 1 where
  decode_encode t := by
    change ((t.toList.map fun e => (e.1.text, encode e.2)).mapM decodeEntry).map ofList = .ok t
    rw [mapM_decodeEntry, Except.map, ofList_toList]
  plain_encode t := .object t.nodup_names fun m hm => by
    obtain ⟨e, -, rfl⟩ := List.mem_map.mp hm
    exact plain_encode e.2

end ConfirmationTable

namespace Json

/-- Decoding undoes encoding, of the form as of its text; and what is decoded from any other form is encoded as one that
is decoded in the same way. -/
structure RoundTrips (α : Type) [Encode α] [Decode α] : Prop where
  decode_encode (x : α) : decode (encode x) = .ok x
  decode_text (x : α) : (parse? (text (encode x))).map decode = some (.ok x : Except Fault α)
  decode_again (j : Json) (x : α) : decode j = .ok x → decode (encode x) = .ok x

lemma LawfulCodec.roundTrips {α : Type} [Encode α] [Decode α] {levels : Nat} [LawfulCodec α levels] (h : levels ≤ 127) :
    RoundTrips α where
  decode_encode := decode_encode
  decode_text x := by rw [parse?_text ((plain_encode x).mono h), Option.map_some, decode_encode]
  decode_again _ x _ := decode_encode x

end Json

theorem decoding_undoes_encoding :
    RoundTrips Wei ∧ RoundTrips Quote ∧ RoundTrips Settlement ∧ RoundTrips Receipt ∧ RoundTrips Federation ∧
      RoundTrips TrustedAccount ∧ RoundTrips (Signed TrustedAccount) ∧ RoundTrips ConfirmationTable := by
  refine ⟨?_, ?_, ?_, ?_, ?_, ?_, ?_, ?_⟩ <;> exact LawfulCodec.roundTrips (by decide)

end Flyover
