import Flyover.Proofs.HexText

/-! Hashes of quotes are read from texts exactly: which bytes a text stands for, and what is wrong with one that stands for
none. -/

namespace Flyover

lemma Bytes.length_ofText (s : String) : (ofText s).length = s.utf8ByteSize := by
  rw [ofText, ← String.size_toByteArray, ← String.utf8Encode_toList, List.utf8Encode, List.size_toByteArray]

namespace Hex

def digitBytes : List UInt8 := digits.map asciiByte

lemma isSome_digit?_iff {x : UInt8} : (digit? x).isSome ↔ x ∈ digitBytes := by
  constructor
  · intro h
    have each : ∀ n < 0x67, (digit? (UInt8.ofNat n)).isSome → UInt8.ofNat n ∈ digitBytes := by decide
    have hx := each x.toNat (Nat.lt_succ_of_le (toNat_le_of_digit? h))
    rw [UInt8.ofNat_toNat] at hx
    exact hx h
  · have each : digitBytes.all fun y => (digit? y).isSome := by decide
    exact List.all_eq_true.mp each x

lemma digit?_eq_none_iff {x : UInt8} : digit? x = none ↔ x ∉ digitBytes := by
  rw [← isSome_digit?_iff, Option.not_isSome_iff_eq_none]

def IsFirstStray (text : Bytes) (x : UInt8) (n : ℕ) : Prop :=
  ∃ before after, text = before ++ x :: after ∧ before.length = n ∧ (∀ y ∈ before, y ∈ digitBytes) ∧ x ∉ digitBytes

variable {text : Bytes} {x y : UInt8} {n position : ℕ} {fault : Fault}

lemma isFirstStray_nil : ¬ IsFirstStray [] x n := by
  rintro ⟨before, after, split, -⟩
  exact List.append_ne_nil_of_right_ne_nil before (List.cons_ne_nil x after) split.symm

lemma isFirstStray_cons : IsFirstStray (y :: text) x n ↔
    y ∉ digitBytes ∧ x = y ∧ n = 0 ∨ y ∈ digitBytes ∧ ∃ k, IsFirstStray text x k ∧ n = k + 1 := by
  constructor
  · rintro ⟨before, after, split, rfl, clear, stray⟩
    cases before with
    | nil =>
      cases split
      exact .inl ⟨stray, rfl, rfl⟩
    | cons z before =>
      cases split
      exact .inr ⟨clear y (by simp), before.length, ⟨before, after, rfl, rfl, fun z hz => clear z (by simp [hz]), stray⟩, rfl⟩
  · rintro (⟨stray, rfl, rfl⟩ | ⟨digit, k, ⟨before, after, rfl, rfl, clear, stray⟩, rfl⟩)
    · exact ⟨[], text, rfl, rfl, nofun, stray⟩
    · exact ⟨y :: before, after, rfl, rfl, by simpa [digit] using clear, stray⟩

lemma exists_isFirstStray_iff : (∃ x n, IsFirstStray text x n) ↔ ∃ x ∈ text, x ∉ digitBytes := by
  induction text with
  | nil => simp [isFirstStray_nil]
  | cons y text ih =>
    by_cases digit : y ∈ digitBytes
    · simp [isFirstStray_cons, digit, ← ih]
    · simp [isFirstStray_cons, digit]

lemma digit?_eq_some {x : UInt8} (h : x ∈ digitBytes) : ∃ d, digit? x = some d :=
  Option.isSome_iff_exists.mp (isSome_digit?_iff.mpr h)

lemma pairs_eq_error_iff (even : text.length % 2 ≠ 1) :
    pairs position text = .error fault ↔ ∃ x n, IsFirstStray text x n ∧ fault = .invalidCharacter x (position + n) := by
  induction position, text using pairs.induct with
  | case1 position a b rest ih =>
    rw [List.length_cons, List.length_cons] at even
    have ends := ih (by omega)
    rw [pairs, pair]
    by_cases ha : a ∈ digitBytes
    · obtain ⟨u, hu⟩ := digit?_eq_some ha
      by_cases hb : b ∈ digitBytes
      · obtain ⟨v, hv⟩ := digit?_eq_some hb
        have tail : (pairs (position + 2) rest >>= fun xs => pure ((u * 16 + v) :: xs)) = .error fault ↔
            pairs (position + 2) rest = .error fault := by
          cases pairs (position + 2) rest <;> simp [bind, Except.bind, pure, Except.pure]
        simp only [hu, hv]
        refine tail.trans (ends.trans ?_)
        simp [isFirstStray_cons, ha, hb, Nat.add_assoc, Nat.add_comm 2]
      · simp [hu, digit?_eq_none_iff.mpr hb, isFirstStray_cons, ha, hb, bind, Except.bind, eq_comm]
    · simp [digit?_eq_none_iff.mpr ha, isFirstStray_cons, ha, bind, Except.bind, eq_comm]
  | case2 text position short =>
    cases text with
    | nil => simp [pairs, isFirstStray_nil]
    | cons x text =>
      cases text with
      | nil => exact absurd rfl even
      | cons y rest => exact (short x y rest rfl).elim

lemma decode_eq_error_iff {s : String} : decode s = .error fault ↔
    s.utf8ByteSize % 2 = 1 ∧ fault = .oddLength ∨
      s.utf8ByteSize % 2 = 0 ∧ ∃ x n, IsFirstStray (Bytes.ofText s) x n ∧ fault = .invalidCharacter x n := by
  rw [decode, decodeBytes, ← Bytes.length_ofText]
  split
  · rename_i odd
    simp [odd, eq_comm]
  · rename_i even
    rw [pairs_eq_error_iff even]
    simp [Nat.mod_two_ne_one.mp even]

lemma exists_decode_eq_ok_iff {s : String} : (∃ b, decode s = .ok b ∧ b.length = n) ↔ Digits (2 * n) s.toList := by
  refine ⟨?_, decode_of_digits⟩
  rintro ⟨b, read, rfl⟩
  exact digits_of_lower (decode_eq_ok_iff.mp read)

lemma not_marked_dropMarkersChars (cs : List Char) : ¬ ['0', 'x'] <+: dropMarkersChars cs := by
  induction cs using dropMarkersChars.induct with
  | case1 rest ih => rwa [dropMarkersChars]
  | case2 cs unmarked =>
    rw [dropMarkersChars]
    · rintro ⟨rest, rfl⟩
      exact unmarked rest rfl
    · exact unmarked

end Hex

namespace Quote

open Hex

variable {s : String} {h : FixedBytes 32} {e : Error} {n : ℕ}

lemma decodeHash_eq_ok_iff_digits : decodeHash s = .ok h ↔
    Digits 64 (dropMarkers s).toList ∧ (dropMarkers s).toList.map Char.toLower = encodeChars h.toBytes := by
  rw [decodeHash_eq_ok_iff, ← decode_dropMarkers_eq_ok_iff, decode_eq_ok_iff]
  exact ⟨fun lower => ⟨digits_of_lower_toBytes lower, lower⟩, And.right⟩

lemma decodeHash_eq_error_iff : decodeHash s = .error e ↔
    (∃ fault, decode (dropMarkers s) = .error fault ∧ e = .hex fault) ∨
      ∃ b, decode (dropMarkers s) = .ok b ∧ b.length ≠ 32 ∧ e = .hashLength b.length := by
  rw [decodeHash]
  cases decode (dropMarkers s) with
  | error fault => simp [eq_comm]
  | ok b =>
    by_cases whole : b.length = 32
    · simp [FixedBytes.ofBytes?, whole]
    · simp [FixedBytes.ofBytes?, whole, eq_comm]

lemma decodeHash_eq_hashLength_iff :
    decodeHash s = .error (.hashLength n) ↔ Digits (2 * n) (dropMarkers s).toList ∧ n ≠ 32 := by
  rw [decodeHash_eq_error_iff, ← exists_decode_eq_ok_iff]
  constructor
  · rintro (⟨_, _, ⟨⟩⟩ | ⟨b, read, other, ⟨⟩⟩)
    exact ⟨⟨b, read, rfl⟩, other⟩
  · rintro ⟨⟨b, read, rfl⟩, other⟩
    exact .inr ⟨b, read, other, rfl⟩

lemma decodeHash_eq_hex_iff {fault : Fault} : decodeHash s = .error (.hex fault) ↔ decode (dropMarkers s) = .error fault := by
  rw [decodeHash_eq_error_iff]
  simp

structure ReadFrom (s t : String) : Prop where
  hash (h : FixedBytes 32) : decodeHash s = .ok h ↔
    Digits 64 t.toList ∧ t.toList.map Char.toLower = encodeChars h.toBytes
  malformed : (∃ fault, decodeHash s = .error (.hex fault)) ↔
    t.utf8ByteSize % 2 = 1 ∨ ∃ x ∈ Bytes.ofText t, x ∉ digitBytes
  fault (fault : Fault) : decodeHash s = .error (.hex fault) ↔
    t.utf8ByteSize % 2 = 1 ∧ fault = .oddLength ∨
      t.utf8ByteSize % 2 = 0 ∧ ∃ x n, IsFirstStray (Bytes.ofText t) x n ∧ fault = .invalidCharacter x n
  length (n : ℕ) : decodeHash s = .error (.hashLength n) ↔ Digits (2 * n) t.toList ∧ n ≠ 32
  refused (e : Error) : decodeHash s = .error e → (∃ fault, e = .hex fault) ∨ ∃ n, e = .hashLength n

lemma readFrom_dropMarkers (s : String) : ReadFrom s (dropMarkers s) where
  hash h := decodeHash_eq_ok_iff_digits
  malformed := by
    simp only [decodeHash_eq_hex_iff, decode_eq_error_iff, ← exists_isFirstStray_iff]
    rcases Nat.mod_two_eq_zero_or_one (dropMarkers s).utf8ByteSize with even | odd
    · simp only [even, Nat.zero_ne_one, false_and, false_or, true_and]
      exact ⟨fun ⟨_, x, n, stray, _⟩ => ⟨x, n, stray⟩, fun ⟨x, n, stray⟩ => ⟨_, x, n, stray, rfl⟩⟩
    · simp [odd]
  fault fault := decodeHash_eq_hex_iff.trans decode_eq_error_iff
  length n := decodeHash_eq_hashLength_iff
  refused e failed := by
    rcases decodeHash_eq_error_iff.mp failed with ⟨fault, -, rfl⟩ | ⟨b, -, -, rfl⟩
    · exact .inl ⟨fault, rfl⟩
    · exact .inr ⟨b.length, rfl⟩

/-- A text is read as a hash just when it spells one, and each other text is refused for what is wrong with it. In whatever
letter case and behind however many markers a hash is written, it is read back. -/
theorem hash_texts_are_read_exactly :
    (∀ s, (∃ m, s.toList = markers m ++ (dropMarkers s).toList) ∧ ¬ ['0', 'x'] <+: (dropMarkers s).toList ∧
      ReadFrom s (dropMarkers s)) ∧
    ∀ (h : FixedBytes 32) m upper,
      decodeHash (String.ofList (markers m ++ recase upper (encodeChars h.toBytes))) = .ok h := by
  refine ⟨fun s => ?_, fun h m upper => decodeHash_eq_ok_iff.mpr (spells_recase m upper h.toBytes)⟩
  rw [dropMarkers, String.toList_ofList]
  exact ⟨eq_markers_append s.toList, not_marked_dropMarkersChars s.toList, readFrom_dropMarkers s⟩

end Quote

end Flyover
