import Flyover.Proofs.HexText
import Flyover.Proofs.History.Deed

/-! From a signature of the provider the provider is recovered, in whatever form hash and signature are written down. -/

namespace Flyover

namespace Bytes

lemma toNatBE_concat (b : Bytes) (x : UInt8) : toNatBE (b ++ [x]) = toNatBE b * 256 + x.toNat := by
  rw [toNatBE, List.foldl_append]
  rfl

lemma toNatBE_ofNatBE {w n : Nat} (h : n < 256 ^ w) : toNatBE (ofNatBE w n) = n := by
  induction w generalizing n with
  | zero => exact (Nat.lt_one_iff.mp h).symm
  | succ w ih =>
    have quotient : n / 256 < 256 ^ w := Nat.div_lt_of_lt_mul (by rwa [Nat.pow_succ'] at h)
    rw [ofNatBE, toNatBE_concat, ih quotient, UInt8.toNat_ofNat']
    omega

end Bytes

def SecretKey.Recovers (k : SecretKey) (digest : Bytes) : Prop := (k.sign digest).recover? digest = some k.publicKey

/-- The text spells the two numbers of the signature that the key makes of the hash as a personal message, and the byte that
tells which point to recover from, with its offset. -/
def SecretKey.Signs (k : SecretKey) (hash : FixedBytes 32) (signature : String) : Prop :=
  let s := k.sign (keccak256 (0x19 :: Bytes.ofText "Ethereum Signed Message:\n32" ++ hash.toBytes)).toBytes
  Hex.Spells (Bytes.ofNatBE 32 s.r ++ Bytes.ofNatBE 32 s.s ++ [27 + ((if s.odd then 1 else 0) + if s.large then 2 else 0)])
    signature

lemma RecoverableSignature.lt_of_recover? {s : RecoverableSignature} {digest : Bytes} {q : PublicKey}
    (h : s.recover? digest = some q) : s.r < 256 ^ 32 ∧ s.s < 256 ^ 32 := by
  have order : Secp256k1.n < 256 ^ 32 := by decide
  rw [recover?] at h
  split at h
  · cases h
  · rename_i proper
    simp only [Bool.or_eq_true, decide_eq_true_eq, not_or] at proper
    omega

namespace Signature

def isRecoveryByte (v : UInt8) : Prop := v < 4 ∨ 27 ≤ v ∧ v < 31

def signer (hash : FixedBytes 32) (s : RecoverableSignature) : Except Error Address :=
  match s.recover? (personalMessageDigest hash).toBytes with
  | some q => .ok (Address.ofPublicKey q)
  | none => .error (.signature .signature)

lemma recoverSigner_concat (hash : FixedBytes 32) {b : Bytes} (length : b.length = 64) (v : UInt8) :
    recoverSigner hash (b ++ [v]) = ofBytes b v >>= signer hash := by
  have whole : (b ++ [v]).length = size := by rw [List.length_append, length]; rfl
  have numbers : (b ++ [v]).take 64 = b := by rw [← length, List.take_left]
  have last : (b ++ [v]).getD 64 0 = v := by
    rw [List.getD_eq_getElem?_getD, ← length, List.getElem?_concat_length]
    rfl
  rw [recoverSigner, if_neg (not_not.mpr whole), numbers, last]
  rfl

lemma ofBytes_add_offset (b : Bytes) {v : UInt8} (small : v < 4) : ofBytes b (v + 27) = ofBytes b v := by
  have each : ∀ n < 4, (if 27 ≤ UInt8.ofNat n + 27 then UInt8.ofNat n + 27 - 27 else UInt8.ofNat n + 27) =
      if 27 ≤ UInt8.ofNat n then UInt8.ofNat n - 27 else UInt8.ofNat n := by decide
  have same := each v.toNat small
  rw [UInt8.ofNat_toNat] at same
  rw [ofBytes, same, ofBytes]

lemma ofBytes_of_not_isRecoveryByte (b : Bytes) {v : UInt8} (h : ¬ isRecoveryByte v) :
    ofBytes b v = .error (.signature .recoveryId) := by
  obtain ⟨beyond, apart⟩ := not_or.mp h
  refine if_pos ?_
  split
  · rename_i offset
    have far : ¬ v.toNat < 31 := fun near => apart ⟨offset, UInt8.lt_iff_toNat_lt.mpr near⟩
    rw [UInt8.le_iff_toNat_le, UInt8.toNat_sub_of_le _ _ offset]
    show 4 ≤ v.toNat - 27
    omega
  · exact UInt8.not_lt.mp beyond

def numbers (s : RecoverableSignature) : Bytes := Bytes.ofNatBE 32 s.r ++ Bytes.ofNatBE 32 s.s

lemma length_numbers (s : RecoverableSignature) : (numbers s).length = 64 := by
  rw [numbers, List.length_append, Bytes.length_ofNatBE, Bytes.length_ofNatBE]

def recoveryByte (s : RecoverableSignature) : UInt8 := UInt8.ofNat (SecretKey.recoveryId s)

lemma recoveryByte_spec (s : RecoverableSignature) : recoveryByte s < 4 ∧ ¬ 27 ≤ recoveryByte s ∧ ¬ 4 ≤ recoveryByte s ∧
    decide (recoveryByte s % 2 = 1) = s.odd ∧ decide (2 ≤ recoveryByte s) = s.large := by
  rw [recoveryByte, SecretKey.recoveryId]
  -- the byte depends on the two flags only, so four cases are all
  generalize s.odd = odd
  generalize s.large = large
  revert odd large
  decide

lemma ofBytes_numbers {s : RecoverableSignature} (hr : s.r < 256 ^ 32) (hs : s.s < 256 ^ 32) :
    ofBytes (numbers s) (recoveryByte s) = .ok s := by
  have first : (numbers s).take 32 = Bytes.ofNatBE 32 s.r := List.take_left' (Bytes.length_ofNatBE 32 s.r)
  have second : (numbers s).drop 32 = Bytes.ofNatBE 32 s.s := List.drop_left' (Bytes.length_ofNatBE 32 s.r)
  obtain ⟨-, plain, small, odd, large⟩ := recoveryByte_spec s
  rw [ofBytes, first, second, Bytes.toNatBE_ofNatBE hr, Bytes.toNatBE_ofNatBE hs, if_neg plain, if_neg small, odd, large]

lemma recoverSigner_numbers {hash : FixedBytes 32} {s : RecoverableSignature} {q : PublicKey}
    (recovered : s.recover? (personalMessageDigest hash).toBytes = some q) :
    recoverSigner hash (numbers s ++ [recoveryByte s]) = .ok (Address.ofPublicKey q) := by
  obtain ⟨hr, hs⟩ := RecoverableSignature.lt_of_recover? recovered
  have told : signer hash s = .ok (Address.ofPublicKey q) := by simp only [signer, recovered]
  rw [recoverSigner_concat hash (length_numbers s), ofBytes_numbers hr hs]
  exact told

lemma signHash_eq (k : SecretKey) (hash : FixedBytes 32) : k.signHash hash =
    numbers (k.sign (personalMessageDigest hash).toBytes) ++
      [recoveryByte (k.sign (personalMessageDigest hash).toBytes) + 27] := by
  rw [SecretKey.signHash, UInt8.ofNat_add]
  rfl

lemma signs_encode (k : SecretKey) (hash : FixedBytes 32) : k.Signs hash (Hex.encode (k.signHash hash)) := by
  have byte (s : RecoverableSignature) :
      recoveryByte s + 27 = 27 + ((if s.odd then 1 else 0) + if s.large then 2 else 0) := by
    rw [recoveryByte, SecretKey.recoveryId]
    cases s.odd <;> cases s.large <;> rfl
  have bytes := signHash_eq k hash
  rw [byte, numbers] at bytes
  exact bytes ▸ Hex.spells_encode _

lemma modify_concat (b : Bytes) (v : UInt8) (f : UInt8 → UInt8) : (b ++ [v]).modify b.length f = b ++ [f v] := by
  induction b with
  | nil => rfl
  | cons x b ih => exact congrArg (x :: ·) ih

lemma recoverSigner_signHash {k : SecretKey} {hash : FixedBytes 32}
    (recovers : k.Recovers (personalMessageDigest hash).toBytes) :
    recoverSigner hash (k.signHash hash) = .ok k.address ∧
      recoverSigner hash ((k.signHash hash).modify 64 (· - 27)) = .ok k.address := by
  have recovered := recoverSigner_numbers recovers
  have length := length_numbers (k.sign (personalMessageDigest hash).toBytes)
  have small := (recoveryByte_spec (k.sign (personalMessageDigest hash).toBytes)).1
  rw [signHash_eq]
  -- the recovery byte is written with its offset, and read with it or without
  constructor
  · rw [recoverSigner_concat hash length, ofBytes_add_offset _ small, ← recoverSigner_concat hash length]
    exact recovered
  · rw [← length, modify_concat, UInt8.add_sub_cancel]
    exact recovered

lemma recoverSignerText_of_spells {h : FixedBytes 32} {b : Bytes} {hash signature : String}
    (hash_spelt : Hex.Spells h.toBytes hash) (signature_spelt : Hex.Spells b signature) :
    recoverSignerText hash signature = recoverSigner h b := by
  rw [recoverSignerText, Quote.decodeHash_eq_ok_iff.mpr hash_spelt, Hex.decode_dropMarkers_eq_ok_iff.mpr signature_spelt]
  rfl

lemma recoverSignerText_of_variants {settings : Settings} {hash : String} {h : FixedBytes 32}
    (decoded : Quote.decodeHash hash = .ok h)
    (recovers : settings.secretKey.Recovers (personalMessageDigest h).toBytes) {hash' signature' : String}
    (hashes : Hex.Variant hash hash') (signatures : Hex.Variant (Hex.encode (settings.secretKey.signHash h)) signature') :
    recoverSignerText hash' signature' = .ok settings.provider := by
  have spelt := Quote.decodeHash_eq_ok_iff.mp decoded
  rw [recoverSignerText_of_spells (spelt.variant hashes) ((Hex.spells_encode _).variant signatures)]
  exact (recoverSigner_signHash recovers).1

end Signature

open Signature in
theorem provider_is_recovered :
    (∀ (k : SecretKey) (h : FixedBytes 32), k.Recovers (personalMessageDigest h).toBytes →
      recoverSigner h (k.signHash h) = .ok k.address ∧
        recoverSigner h ((k.signHash h).modify 64 (· - 27)) = .ok k.address) ∧
    (∀ (settings : Settings) (hash : String) (h : FixedBytes 32), Quote.decodeHash hash = .ok h →
      settings.secretKey.Recovers (personalMessageDigest h).toBytes →
        ∃ signature, settings.secretKey.signQuoteHash hash = .ok signature ∧
          recoverSignerText hash signature = .ok settings.provider ∧
          ∀ hash' signature' : String, Hex.Variant hash hash' → Hex.Variant signature signature' →
            recoverSignerText hash' signature' = .ok settings.provider) ∧
    ∀ (h : FixedBytes 32) (b : Bytes),
      (b.length = 64 → ∀ v < 4, recoverSigner h (b ++ [v + 27]) = recoverSigner h (b ++ [v])) ∧
      (b.length = 64 → ∀ v, ¬ isRecoveryByte v → recoverSigner h (b ++ [v]) = .error (.signature .recoveryId)) ∧
      (b.length ≠ 65 → recoverSigner h b = .error (.signatureLength b.length)) := by
  refine ⟨fun k h => recoverSigner_signHash, fun settings hash h decoded recovers => ?_, fun h b => ⟨?_, ?_, ?_⟩⟩
  · refine ⟨_, Acceptance.signQuoteHash_eq _ decoded, ?_, fun hash' signature' => recoverSignerText_of_variants decoded recovers⟩
    exact recoverSignerText_of_variants decoded recovers (Hex.Variant.refl hash) (Hex.Variant.refl _)
  · intro length v small
    rw [recoverSigner_concat h length, recoverSigner_concat h length, ofBytes_add_offset b small]
  · intro length v other
    rw [recoverSigner_concat h length, ofBytes_of_not_isRecoveryByte b other]
    rfl
  · intro length
    exact if_pos length

namespace Sample

def hashBytes : FixedBytes 32 := ⟨List.replicate 31 0 ++ [0xaa], rfl⟩

lemma decodeHash_hash : Quote.decodeHash hash = .ok hashBytes :=
  Quote.decodeHash_eq_ok_iff.mpr ⟨0, hash.toList, rfl, by decide⟩

lemma recovers_hashBytes : settings.secretKey.Recovers (personalMessageDigest hashBytes).toBytes := by
  unfold SecretKey.Recovers
  decide +kernel

def upperHash : String := "0x0x00000000000000000000000000000000000000000000000000000000000000AA"

end Sample

open Signature Sample in
theorem provider_is_recovered_from_upper_case :
    settings.secretKey.Recovers (personalMessageDigest hashBytes).toBytes ∧
      recoverSigner hashBytes (settings.secretKey.signHash hashBytes) = .ok settings.secretKey.address ∧
      (∃ signature, settings.secretKey.signQuoteHash hash = .ok signature ∧
        recoverSignerText upperHash ("0x" ++ signature) = .ok settings.provider) ∧
      recoverSigner hashBytes (List.replicate 64 1 ++ [28]) = recoverSigner hashBytes (List.replicate 64 1 ++ [1]) ∧
      recoverSigner hashBytes (List.replicate 64 1 ++ [31]) = .error (.signature .recoveryId) ∧
      recoverSigner hashBytes [] = .error (.signatureLength 0) := by
  have recovers := recovers_hashBytes
  obtain ⟨signer, provider, others⟩ := provider_is_recovered
  obtain ⟨signature, signed, -, variants⟩ := provider settings hash hashBytes decodeHash_hash recovers
  have upper : Hex.Variant hash upperHash := ⟨2, upperHash.toList.drop 4, by decide, by decide⟩
  obtain ⟨offset, foreign, -⟩ := others hashBytes (List.replicate 64 1)
  exact ⟨recovers, (signer _ _ recovers).1, ⟨signature, signed, variants _ _ upper (Hex.Variant.marked signature)⟩,
    offset rfl 1 (by decide), foreign rfl 31 (by unfold isRecoveryByte; decide), (others hashBytes []).2.2 (by decide)⟩

end Flyover
