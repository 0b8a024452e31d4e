import Flyover.Proofs.HexText
import Flyover.Settings.Reading

/-! Texts of addresses: each one that is recognised is read, as the bytes that its digits write in any letter case. -/

namespace Flyover

lemma Hex.decodeBytes_eq_ok_iff {cs : List Char} (h : ∀ c ∈ cs, c ∈ digits) {b : Bytes} :
    decodeBytes (cs.map asciiByte) = .ok b ↔ cs.map Char.toLower = encodeChars b := by
  have read := decode_eq_ok_iff (s := String.ofList cs) (b := b)
  rwa [decode, ofText_of_digits (by rwa [String.toList_ofList]), String.toList_ofList] at read

namespace Address

variable {s : String} {a : Address}

def Writes (s : String) (a : Address) : Prop :=
  ∃ cs, s.toList = '0' :: 'x' :: cs ∧ cs.map Char.toLower = Hex.encodeChars a.toBytes

lemma ofText?_eq_of_digits {cs : List Char} (marked : s.toList = '0' :: 'x' :: cs) (spelling : Hex.Digits 40 cs) :
    ofText? s = match Hex.decodeBytes (cs.map Hex.asciiByte) with
      | .ok b => FixedBytes.ofBytes? b
      | .error _ => none := by
  rw [ofText?, if_pos (isText_iff.mpr ⟨cs, marked, spelling⟩), marked]
  rfl

lemma ofText?_eq_some_iff_writes : ofText? s = some a ↔ Writes s a := by
  constructor
  · intro read
    have text : isText s := by
      by_contra no
      rw [ofText?, if_neg no] at read
      cases read
    obtain ⟨cs, marked, spelling⟩ := isText_iff.mp text
    rw [ofText?_eq_of_digits marked spelling] at read
    split at read
    · rename_i b decoded
      rw [← FixedBytes.ofBytes?_eq_some_iff.mp read] at decoded
      exact ⟨cs, marked, (Hex.decodeBytes_eq_ok_iff spelling.mem).mp decoded⟩
    · cases read
  · rintro ⟨cs, marked, lower⟩
    have spelling := Hex.digits_of_lower_toBytes lower
    have decoded := (Hex.decodeBytes_eq_ok_iff spelling.mem).mpr lower
    rw [ofText?_eq_of_digits marked spelling, decoded]
    exact FixedBytes.ofBytes?_eq_some_iff.mpr rfl

lemma exists_writes_iff : (∃ a, Writes s a) ↔ isText s := by
  rw [isText_iff]
  constructor
  · rintro ⟨a, cs, marked, lower⟩
    exact ⟨cs, marked, Hex.digits_of_lower_toBytes lower⟩
  · rintro ⟨cs, marked, spelling⟩
    obtain ⟨b, -, length, lower⟩ := Hex.pairs_of_digits (n := 20) spelling 0
    exact ⟨⟨b, length⟩, cs, marked, lower.symm⟩

section Reading

variable {ε : Type} {refusal fault : ε}

def readOr (s : String) (refusal : ε) : Except ε Address := (ofText? s).elim (.error refusal) .ok

lemma readOr_eq_ok_iff : readOr s refusal = .ok a ↔ Writes s a := by
  rw [← ofText?_eq_some_iff_writes, readOr]
  cases ofText? s <;> simp

lemma readOr_eq_error_iff : readOr s refusal = .error fault ↔ ¬ isText s ∧ fault = refusal := by
  rw [← exists_writes_iff]
  simp only [← ofText?_eq_some_iff_writes, readOr]
  cases ofText? s <;> simp [eq_comm]

lemma parse_eq_readOr (s : String) : parse s = readOr s (.unsupportedAddress s) := by
  rw [parse, readOr]
  cases ofText? s <;> rfl

lemma toAddress_eq_readOr (origin : Option String) (s : String) :
    (Settings.Value.scalar origin (.text s)).toAddress = readOr s (.accountAddress s) := by
  simp only [Settings.Value.toAddress, Settings.Value.toText, bind, Except.bind, readOr]
  cases ofText? s <;> rfl

end Reading

lemma length_digits (a : Address) : a.digits.length = 40 := by
  rw [digits, Hex.length_encodeChars, a.length_toBytes]

lemma writes_recase (upper : ℕ → Bool) (a : Address) : Writes (String.ofList ('0' :: 'x' :: Hex.recase upper a.digits)) a :=
  ⟨_, String.toList_ofList, Hex.map_toLower_recase upper a.toBytes⟩

lemma writes_lowerText (a : Address) : Writes a.lowerText a := by
  have written := writes_recase (fun _ => false) a
  rwa [Hex.recase_false] at written

lemma zipWith_eq_recase {cs : List Char} {hash : Bytes} (enough : cs.length ≤ hash.length) :
    List.zipWith (fun c h => if 8 ≤ h then c.toUpper else c) cs hash = Hex.recase (fun i => 8 ≤ hash[i]?.getD 0) cs := by
  refine List.ext_getElem (by simp [Hex.recase, enough]) fun i hi _ => ?_
  rw [List.length_zipWith, lt_min_iff] at hi
  simp [Hex.recase, List.getElem?_eq_getElem hi.2]

lemma exists_checksum_eq_recase (a : Address) : ∃ upper, checksum a.digits = Hex.recase upper a.digits := by
  refine ⟨_, zipWith_eq_recase ?_⟩
  rw [a.length_digits, List.length_flatMap]
  simp [FixedBytes.length_toBytes]

lemma writes_text (a : Address) : Writes a.text a := by
  obtain ⟨upper, checksummed⟩ := a.exists_checksum_eq_recase
  rw [text, checksummed]
  exact writes_recase upper a

def upperText (a : Address) : String := String.ofList ('0' :: 'x' :: a.digits.map Char.toUpper)

lemma writes_upperText (a : Address) : Writes a.upperText a := by
  have written := writes_recase (fun _ => true) a
  rwa [Hex.recase_true] at written

theorem recognised_texts_are_read :
    (∀ s, isText s ↔ ∃ cs, s.toList = '0' :: 'x' :: cs ∧ Hex.Digits 40 cs) ∧
      (∀ s, (∃ a, parse s = .ok a) ↔ isText s) ∧
      (∀ s e, parse s = .error e ↔ ¬ isText s ∧ e = .unsupportedAddress s) ∧
      (∀ s a, parse s = .ok a ↔ Writes s a) ∧
      (∀ origin s a, (Settings.Value.scalar origin (.text s)).toAddress = .ok a ↔ Writes s a) ∧
      (∀ origin s fault, (Settings.Value.scalar origin (.text s)).toAddress = .error fault ↔
        ¬ isText s ∧ fault = .accountAddress s) ∧
      (∀ a upper, parse (String.ofList ('0' :: 'x' :: Hex.recase upper a.digits)) = .ok a) ∧
      ∀ a : Address, parse a.lowerText = .ok a ∧ parse a.upperText = .ok a ∧ parse a.text = .ok a := by
  simp only [parse_eq_readOr, toAddress_eq_readOr, readOr_eq_ok_iff, readOr_eq_error_iff, implies_true, true_and]
  exact ⟨fun s => isText_iff, fun s => exists_writes_iff, fun a upper => writes_recase upper a,
    fun a => ⟨writes_lowerText a, writes_upperText a, writes_text a⟩⟩

end Address

end Flyover
