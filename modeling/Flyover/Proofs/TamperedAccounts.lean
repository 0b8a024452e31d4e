import Flyover.Proofs.Endings.Acceptance
import Flyover.Proofs.RoundTrips

/-! A record under the hash of another one is intact only if the hash function collides on the texts of the two. -/

namespace Flyover

open Json

lemma Bytes.ofText_eq (s : String) : ofText s = s.toByteArray.data.toList := by
  rw [← String.utf8Encode_toList, List.utf8Encode, List.data_toByteArray, List.toList_toArray]
  rfl

lemma Bytes.ofText_injective : Function.Injective ofText := by
  intro s s' h
  rw [ofText_eq, ofText_eq] at h
  exact String.toByteArray_inj.mp (ByteArray.ext (Array.toList_inj.mp h))

lemma Hex.encode_injective : Function.Injective encode := by
  intro b b' h
  exact encodeChars_injective (String.ofList_injective h)

def Collide (b b' : Bytes) : Prop := b ≠ b' ∧ keccak256 b = keccak256 b'

namespace Signed

variable {α : Type} [Encode α]

def preimage (value : α) : Bytes := Bytes.ofText (text (encode value))

lemma valueHash_eq (value : α) : valueHash value = keccak256 (preimage value) := rfl

lemma preimage_injective [Decode α] {levels : Nat} [LawfulCodec α levels] (h : levels ≤ 127) :
    Function.Injective (preimage (α := α)) := by
  intro x y same
  have texts := Bytes.ofText_injective same
  have read := parse?_text ((plain_encode x).mono h)
  rw [texts, parse?_text ((plain_encode y).mono h), Option.some.injEq] at read
  have decoded : (decode (encode y) : Except Fault α) = decode (encode x) := congrArg decode read
  rw [decode_encode, decode_encode, Except.ok.injEq] at decoded
  exact decoded.symm

lemma isIntact_iff (key : SecretKey) (value other : α) (signature : String) :
    isIntact ⟨other, (sign key value).hash, signature⟩ ↔ valueHash other = valueHash value := by
  rw [isIntact, sign, Hex.dropMarkers_encode, decide_eq_true_iff]
  constructor
  · intro h
    exact FixedBytes.ext_toBytes (Hex.encode_injective h)
  · intro h
    rw [h]

end Signed

namespace TrustedAccount

lemma preimage_injective : Function.Injective (Signed.preimage (α := TrustedAccount)) :=
  Signed.preimage_injective (by decide)

lemma isIntact_iff (key : SecretKey) (account other : TrustedAccount) (signature : String) :
    Signed.isIntact ⟨other, (Signed.sign key account).hash, signature⟩ ↔
      other = account ∨ Collide (Signed.preimage other) (Signed.preimage account) := by
  rw [Signed.isIntact_iff, Signed.valueHash_eq, Signed.valueHash_eq, Collide, preimage_injective.ne_iff]
  by_cases same : other = account
  · simp [same]
  · simp [same]

end TrustedAccount

theorem Acceptance.Vouched.genuine {hash signature : String} {s : Store} {account : TrustedAccount}
    (h : Vouched hash s (some signature) (some account)) :
    ∃ (signer : Address) (record : Signed TrustedAccount), s.accounts[signer]? = some record ∧ record.value = account ∧
      ∀ key original, record.hash = (Signed.sign key original).hash →
        account = original ∨ Collide (Signed.preimage account) (Signed.preimage original) := by
  cases h with
  | @signed _ signer record recovered found intact =>
    refine ⟨signer, record, found, rfl, fun key original hash => ?_⟩
    rw [← TrustedAccount.isIntact_iff key original record.value record.signature, ← hash]
    exact intact

/-- No two accounts have the same text; so a record that has been put under the hash of another account fails the check,
whatever was changed in it, unless the hash function collides on the two texts. -/
theorem tampering_needs_a_collision (key : SecretKey) (account other : TrustedAccount) (signature : String) :
    (Signed.sign key account).isIntact ∧
      Function.Injective (fun a : TrustedAccount => text (encode a)) ∧
      (Signed.isIntact ⟨other, (Signed.sign key account).hash, signature⟩ ↔
        other = account ∨ Collide (Signed.preimage other) (Signed.preimage account)) := by
  refine ⟨?_, ?_, TrustedAccount.isIntact_iff key account other signature⟩
  · exact (Signed.isIntact_iff key account account _).mpr rfl
  · intro a b same
    exact TrustedAccount.preimage_injective (congrArg Bytes.ofText same)

end Flyover
