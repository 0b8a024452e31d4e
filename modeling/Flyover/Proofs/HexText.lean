import Flyover.Address.Checked
import Flyover.Proofs.WeiSum

/-! Hexadecimal texts: what their characters are, and what is read back from them. -/

namespace Flyover

namespace Hex

def digits : List Char := "0123456789abcdefABCDEF".toList

structure Digits (n : Nat) (cs : List Char) : Prop where
  length : cs.length = n
  mem : ∀ c ∈ cs, c ∈ digits

instance (n : Nat) (cs : List Char) : Decidable (Digits n cs) :=
  decidable_of_iff (cs.length = n ∧ cs.all fun c => c ∈ digits)
    ⟨fun h => ⟨h.1, by simpa using h.2⟩, fun h => ⟨h.length, by simpa using h.mem⟩⟩

def asciiByte (c : Char) : UInt8 := UInt8.ofNat c.toNat

lemma mem_digits_of_charDigit? {c : Char} (h : (charDigit? c).isSome) : c ∈ digits := by
  rw [charDigit?] at h
  split at h
  · rename_i ascii
    have each : ∀ n < 0x80, (digit? (UInt8.ofNat n)).isSome → Char.ofNat n ∈ digits := by decide
    have hc := each c.toNat ascii h
    rwa [Char.ofNat_toNat] at hc
  · cases h

lemma toNat_le_of_digit? {x : UInt8} (h : (digit? x).isSome) : x.toNat ≤ 0x66 := by
  rw [digit?] at h
  simp only [UInt8.le_iff_toNat_le, UInt8.reduceToNat] at h
  split_ifs at h
  · omega
  · omega
  · omega
  · cases h

lemma mem_digits_of_utf8EncodeChar {c : Char} (h : ∀ x ∈ String.utf8EncodeChar c, (digit? x).isSome) : c ∈ digits := by
  by_cases ascii : c.toNat ≤ 0x7F
  · refine mem_digits_of_charDigit? ?_
    rw [charDigit?, if_pos (by omega)]
    exact h _ (by rw [String.utf8EncodeChar, if_pos (show c.val.toNat ≤ 127 from ascii)]; exact List.mem_singleton.mpr rfl)
  · have last : UInt8.ofNat (c.val.toNat % 64 + 128) ∈ String.utf8EncodeChar c := by
      rw [String.utf8EncodeChar, if_neg (show ¬ c.val.toNat ≤ 127 from ascii)]
      split
      · simp
      · split <;> simp
    have := toNat_le_of_digit? (h _ last)
    rw [UInt8.toNat_ofNat'] at this
    omega

lemma mem_digits_of_toLower {c : Char} (h : c.toLower ∈ digits) : c ∈ digits := by
  by_cases upper : c.val ≥ 'A'.val ∧ c.val ≤ 'Z'.val
  · have each : ∀ n < 26, (Char.ofNat (65 + n)).toLower ∈ digits → Char.ofNat (65 + n) ∈ digits := by decide
    have first : 65 ≤ c.toNat := UInt32.le_iff_toNat_le.mp upper.1
    have last : c.toNat ≤ 90 := UInt32.le_iff_toNat_le.mp upper.2
    have hc := each (c.toNat - 65) (by omega)
    rw [Nat.add_sub_cancel' first, Char.ofNat_toNat] at hc
    exact hc h
  · have same : c.toLower = c := dif_neg upper
    rwa [same] at h

lemma digitChar_mem_digits {n : Nat} (h : n < 16) : digitChar n ∈ digits := by
  revert n
  decide

section

variable {c : Char} (h : c ∈ digits)

include h

lemma of_all_digits (p : Char → Bool) (each : digits.all p) : p c := List.all_eq_true.mp each c h

lemma isSome_charDigit?_of_mem_digits : (charDigit? c).isSome := of_all_digits h (fun c => (charDigit? c).isSome) (by decide)

lemma ne_x_of_mem_digits : c ≠ 'x' := of_decide_eq_true (of_all_digits h (fun c => decide (c ≠ 'x')) (by decide))

lemma utf8EncodeChar_of_mem_digits : String.utf8EncodeChar c = [asciiByte c] :=
  of_decide_eq_true (of_all_digits h (fun c => decide (String.utf8EncodeChar c = [asciiByte c])) (by decide))

lemma digit?_of_mem_digits : ∃ n < 16, digit? (asciiByte c) = some (UInt8.ofNat n) ∧ c.toLower = digitChar n := by
  have found := of_all_digits h (fun c => (List.range 16).any fun n =>
    digit? (asciiByte c) = some (UInt8.ofNat n) && c.toLower = digitChar n) (by decide)
  simpa using found

end

lemma isSome_charDigit?_iff {c : Char} : (charDigit? c).isSome ↔ c ∈ digits :=
  ⟨mem_digits_of_charDigit?, isSome_charDigit?_of_mem_digits⟩

lemma ofText_of_digits {s : String} (h : ∀ c ∈ s.toList, c ∈ digits) : Bytes.ofText s = s.toList.map asciiByte := by
  rw [Bytes.ofText, List.flatMap_congr fun c hc => utf8EncodeChar_of_mem_digits (h c hc),
    ← List.map_eq_flatMap]

def markers (m : Nat) : List Char := (List.replicate m ['0', 'x']).flatten

lemma dropMarkersChars_markers (m : Nat) (cs : List Char) : dropMarkersChars (markers m ++ cs) = dropMarkersChars cs := by
  induction m with
  | zero => rfl
  | succ m ih =>
    rw [← ih, markers, List.replicate_succ, List.flatten_cons, ← markers]
    rfl

lemma eq_markers_append (cs : List Char) : ∃ m, cs = markers m ++ dropMarkersChars cs := by
  induction cs using dropMarkersChars.induct with
  | case1 rest ih =>
    obtain ⟨m, hm⟩ := ih
    refine ⟨m + 1, ?_⟩
    rw [dropMarkersChars, markers, List.replicate_succ, List.flatten_cons, ← markers, List.append_assoc, ← hm]
    rfl
  | case2 cs unmarked =>
    refine ⟨0, ?_⟩
    rw [dropMarkersChars]
    · rfl
    · exact unmarked

lemma dropMarkersChars_of_digits {cs : List Char} (h : ∀ c ∈ cs, c ∈ digits) : dropMarkersChars cs = cs := by
  rw [dropMarkersChars.eq_def]
  split
  · exact absurd rfl (ne_x_of_mem_digits (h 'x' (by simp)))
  · rfl

lemma dropMarkers_of_digits {s : String} (h : ∀ c ∈ s.toList, c ∈ digits) : dropMarkers s = s := by
  rw [dropMarkers, dropMarkersChars_of_digits h, String.ofList_toList]

lemma byteChars_of_digits {m n : Nat} (hm : m < 16) (hn : n < 16) :
    byteChars (UInt8.ofNat m * 16 + UInt8.ofNat n) = [digitChar m, digitChar n] := by
  have each : ∀ m < 16, ∀ n < 16, byteChars (UInt8.ofNat m * 16 + UInt8.ofNat n) = [digitChar m, digitChar n] := by
    decide
  exact each m hm n hn

lemma pairs_of_digits {n : Nat} {cs : List Char} (h : Digits (2 * n) cs) (position : Nat) :
    ∃ b, pairs position (cs.map asciiByte) = .ok b ∧ b.length = n ∧ encodeChars b = cs.map Char.toLower := by
  induction n generalizing cs position with
  | zero =>
    rw [List.length_eq_zero_iff.mp h.length]
    exact ⟨[], rfl, rfl, rfl⟩
  | succ n ih =>
    obtain ⟨c, d, cs, rfl⟩ : ∃ c d cs', cs = c :: d :: cs' := by
      match cs, h.length with
      | c :: d :: cs', _ => exact ⟨c, d, cs', rfl⟩
    have length := h.length
    simp only [List.length_cons] at length
    have rest : Digits (2 * n) cs := ⟨by omega, fun e he => h.mem e (by simp [he])⟩
    obtain ⟨b, hb, hl, he⟩ := ih rest (position + 2)
    obtain ⟨x, hx, cx, lx⟩ := digit?_of_mem_digits (h.mem c (by simp))
    obtain ⟨y, hy, cy, ly⟩ := digit?_of_mem_digits (h.mem d (by simp))
    refine ⟨(UInt8.ofNat x * 16 + UInt8.ofNat y) :: b, ?_, by rw [List.length_cons, hl], ?_⟩
    · simp [pairs, pair, cx, cy, hb, bind, Except.bind, pure, Except.pure]
    · rw [encodeChars, List.flatMap_cons, byteChars_of_digits hx hy, ← encodeChars, he, List.map_cons, List.map_cons, lx, ly]
      rfl

lemma decode_of_digits {n : Nat} {s : String} (h : Digits (2 * n) s.toList) : ∃ b, decode s = .ok b ∧ b.length = n := by
  obtain ⟨b, hb, hl, -⟩ := pairs_of_digits h 0
  refine ⟨b, ?_, hl⟩
  rw [decode, ofText_of_digits h.mem, decodeBytes, if_neg (by rw [List.length_map, h.length]; omega), hb]

lemma pair_byteChars (position : Nat) (b : UInt8) :
    pair position (asciiByte (digitChar (b.toNat / 16))) (asciiByte (digitChar (b.toNat % 16))) = .ok b := by
  have each : ∀ n < 256, pair position (asciiByte (digitChar (n / 16))) (asciiByte (digitChar (n % 16))) =
      .ok (UInt8.ofNat n) := by
    have digit : ∀ n < 16, digit? (asciiByte (digitChar n)) = some (UInt8.ofNat n) := by decide
    intro n hn
    have whole : UInt8.ofNat (n / 16) * 16 + UInt8.ofNat (n % 16) = UInt8.ofNat n := by
      rw [show (16 : UInt8) = UInt8.ofNat 16 from rfl, ← UInt8.ofNat_mul, ← UInt8.ofNat_add, Nat.div_add_mod']
    rw [pair, digit (n / 16) (by omega), digit (n % 16) (by omega), ← whole]
  have hb := each b.toNat b.toNat_lt
  rwa [UInt8.ofNat_toNat] at hb

lemma pairs_encodeChars (b : Bytes) (position : Nat) : pairs position ((encodeChars b).map asciiByte) = .ok b := by
  induction b generalizing position with
  | nil => rfl
  | cons x b ih =>
    have rest := ih (position + 2)
    have first := pair_byteChars position x
    simp only [encodeChars, byteChars, List.flatMap_cons, List.map_cons, List.cons_append, List.nil_append] at rest ⊢
    simp only [pairs, first, rest, bind, Except.bind, pure, Except.pure]

lemma exists_of_mem_encodeChars {b : Bytes} {c : Char} (h : c ∈ encodeChars b) : ∃ n < 16, c = digitChar n := by
  obtain ⟨x, -, hx⟩ := List.mem_flatMap.mp h
  have hb : x.toNat < 256 := x.toNat_lt
  rcases List.mem_pair.mp hx with rfl | rfl
  · exact ⟨_, by omega, rfl⟩
  · exact ⟨_, by omega, rfl⟩

lemma digits_encode (b : Bytes) : Digits (2 * b.length) (encode b).toList := by
  rw [encode, String.toList_ofList]
  constructor
  · simp [encodeChars, byteChars, List.length_flatMap, Nat.mul_comm]
  · intro c hc
    obtain ⟨n, hn, rfl⟩ := exists_of_mem_encodeChars hc
    exact digitChar_mem_digits hn

lemma ofText_encode (b : Bytes) : Bytes.ofText (encode b) = (encodeChars b).map asciiByte := by
  rw [ofText_of_digits (digits_encode b).mem, encode, String.toList_ofList]

lemma length_encodeChars (b : Bytes) : (encodeChars b).length = 2 * b.length := by
  have length := (digits_encode b).length
  rwa [encode, String.toList_ofList] at length

lemma decodeBytes_encodeChars (b : Bytes) : decodeBytes ((encodeChars b).map asciiByte) = .ok b := by
  rw [decodeBytes, if_neg (by rw [List.length_map, length_encodeChars]; omega), pairs_encodeChars]

lemma encodeChars_injective : Function.Injective encodeChars := by
  intro b b' same
  have read := pairs_encodeChars b 0
  rw [same, pairs_encodeChars] at read
  exact (Except.ok.inj read).symm

lemma isSome_digit?_of_pairs {position : Nat} {text b : Bytes} (even : text.length % 2 ≠ 1)
    (h : pairs position text = .ok b) : ∀ x ∈ text, (digit? x).isSome := by
  induction position, text using pairs.induct generalizing b with
  | case1 position x y rest ih =>
    obtain ⟨z, hz, h⟩ := bind_eq_ok_iff.mp h
    obtain ⟨zs, hzs, -⟩ := bind_eq_ok_iff.mp h
    rw [List.length_cons, List.length_cons] at even
    have ends := ih (by omega) hzs
    rw [pair] at hz
    split at hz
    · rename_i hx hy
      simp only [List.mem_cons, forall_eq_or_imp, hx, hy, Option.isSome_some, true_and]
      exact ends
    · cases hz
    · cases hz
  | case2 text position short =>
    match text, short, even with
    | [], _, _ => exact nofun
    | [x], _, even => exact absurd rfl even
    | x :: y :: rest, short, _ => exact (short x y rest rfl).elim

lemma digits_of_lower {cs : List Char} {b : Bytes} (h : cs.map Char.toLower = encodeChars b) :
    Digits (2 * b.length) cs := by
  have written := digits_encode b
  rw [encode, String.toList_ofList, ← h] at written
  exact ⟨by rw [← written.length, List.length_map], fun c hc => mem_digits_of_toLower (written.mem _ (List.mem_map_of_mem hc))⟩

lemma digits_of_lower_toBytes {n : ℕ} {cs : List Char} {b : FixedBytes n} (h : cs.map Char.toLower = encodeChars b.toBytes) :
    Digits (2 * n) cs := by
  have spelling := digits_of_lower h
  rwa [b.length_toBytes] at spelling

lemma decode_eq_ok_iff {s : String} {b : Bytes} : decode s = .ok b ↔ s.toList.map Char.toLower = encodeChars b := by
  constructor
  · intro h
    rw [decode, decodeBytes] at h
    split at h
    · cases h
    rename_i even
    have mem (c : Char) (hc : c ∈ s.toList) : c ∈ digits := mem_digits_of_utf8EncodeChar fun x hx =>
      isSome_digit?_of_pairs even h x (List.mem_flatMap.mpr ⟨c, hc, hx⟩)
    rw [ofText_of_digits mem] at h even
    rw [List.length_map] at even
    obtain ⟨b', read, -, spelt⟩ := pairs_of_digits (n := s.toList.length / 2) ⟨by omega, mem⟩ 0
    rw [← spelt, Except.ok.inj (h.symm.trans read)]
  · intro h
    have spelling := digits_of_lower h
    obtain ⟨b', read, -, spelt⟩ := pairs_of_digits spelling 0
    rw [decode, ofText_of_digits spelling.mem, decodeBytes,
      if_neg (by rw [List.length_map, spelling.length]; omega), read, encodeChars_injective (spelt.trans h)]

def Spells (b : Bytes) (s : String) : Prop :=
  ∃ m cs, s.toList = markers m ++ cs ∧ cs.map Char.toLower = encodeChars b

lemma Spells.dropMarkers {s : String} {b : Bytes} (h : Spells b s) :
    (dropMarkers s).toList.map Char.toLower = encodeChars b := by
  obtain ⟨m, cs, marked, lower⟩ := h
  rw [Hex.dropMarkers, String.toList_ofList, marked, dropMarkersChars_markers,
    dropMarkersChars_of_digits (digits_of_lower lower).mem, lower]

lemma decode_dropMarkers_eq_ok_iff {s : String} {b : Bytes} : decode (dropMarkers s) = .ok b ↔ Spells b s := by
  rw [decode_eq_ok_iff]
  refine ⟨fun lower => ?_, Spells.dropMarkers⟩
  obtain ⟨m, marked⟩ := eq_markers_append s.toList
  exact ⟨m, _, marked, by rwa [dropMarkers, String.toList_ofList] at lower⟩

def Variant (s s' : String) : Prop :=
  ∃ m cs, s'.toList = markers m ++ cs ∧ cs.map Char.toLower = (dropMarkers s).toList.map Char.toLower

namespace Variant

lemma refl (s : String) : Variant s s := by
  obtain ⟨m, marked⟩ := eq_markers_append s.toList
  exact ⟨m, _, marked, by rw [dropMarkers, String.toList_ofList]⟩

lemma marked (s : String) : Variant s ("0x" ++ s) := by
  obtain ⟨m, cs, marked, lower⟩ := refl s
  exact ⟨m + 1, cs, by rw [String.toList_append, marked]; rfl, lower⟩

end Variant

lemma Spells.variant {s s' : String} {b : Bytes} (h : Spells b s) (variant : Variant s s') : Spells b s' := by
  obtain ⟨m, cs, marked, lower⟩ := variant
  exact ⟨m, cs, marked, lower.trans h.dropMarkers⟩

def recase (upper : ℕ → Bool) (cs : List Char) : List Char :=
  cs.mapIdx fun i c => if upper i then c.toUpper else c

lemma map_toLower_recase (upper : ℕ → Bool) (b : Bytes) :
    (recase upper (encodeChars b)).map Char.toLower = encodeChars b := by
  have lower : ∀ n < 16, (digitChar n).toUpper.toLower = digitChar n ∧ (digitChar n).toLower = digitChar n := by decide
  refine List.ext_getElem (by rw [List.length_map, recase, List.length_mapIdx]) fun i _ hi => ?_
  obtain ⟨n, hn, written⟩ := exists_of_mem_encodeChars (List.getElem_mem hi)
  simp only [recase, List.getElem_map, List.getElem_mapIdx, written]
  split
  · exact (lower n hn).1
  · exact (lower n hn).2

lemma recase_false (cs : List Char) : recase (fun _ => false) cs = cs :=
  List.ext_getElem (by simp [recase]) fun i _ _ => by simp [recase]

lemma recase_true (cs : List Char) : recase (fun _ => true) cs = cs.map Char.toUpper :=
  List.ext_getElem (by simp [recase]) fun i _ _ => by simp [recase]

lemma spells_recase (m : ℕ) (upper : ℕ → Bool) (b : Bytes) :
    Spells b (String.ofList (markers m ++ recase upper (encodeChars b))) :=
  ⟨m, _, String.toList_ofList, map_toLower_recase upper b⟩

lemma spells_encode (b : Bytes) : Spells b (encode b) := by
  have spelt := spells_recase 0 (fun _ => false) b
  rwa [recase_false] at spelt

lemma dropMarkers_encode (b : Bytes) : dropMarkers (encode b) = encode b := dropMarkers_of_digits (digits_encode b).mem

lemma decode_encode (b : Bytes) : decode (dropMarkers (encode b)) = .ok b := by
  rw [dropMarkers_encode, decode, ofText_encode, decodeBytes_encodeChars]

lemma dropMarker_encode (b : Bytes) :
    FixedBytes.dropMarker (Bytes.ofText ("0x" ++ encode b)) = (encodeChars b).map asciiByte := by
  rw [← ofText_encode]
  simp only [Bytes.ofText, String.toList_append, List.flatMap_append]
  rfl

end Hex

lemma Quote.decodeHash_of_digits {hash : String} (h : Hex.Digits 64 hash.toList) : ∃ b, decodeHash hash = .ok b := by
  obtain ⟨b, hb, hl⟩ := Hex.decode_of_digits (n := 32) h
  refine ⟨⟨b, hl⟩, ?_⟩
  have whole : FixedBytes.ofBytes? b = some (⟨b, hl⟩ : FixedBytes 32) := FixedBytes.ofBytes?_eq_some_iff.mpr rfl
  rw [decodeHash, Hex.dropMarkers_of_digits h.mem, hb]
  simp only [whole]

lemma Quote.decodeHash_eq_ok_iff {hash : String} {h : FixedBytes 32} :
    decodeHash hash = .ok h ↔ Hex.Spells h.toBytes hash := by
  rw [← Hex.decode_dropMarkers_eq_ok_iff, decodeHash]
  cases Hex.decode (Hex.dropMarkers hash) with
  | error fault => simp
  | ok b =>
    rw [Except.ok.injEq, eq_comm (a := b), ← FixedBytes.ofBytes?_eq_some_iff]
    dsimp only
    cases (FixedBytes.ofBytes? b : Option (FixedBytes 32)) with
    | none => simp
    | some h' => simp

lemma Address.isText_iff {s : String} : isText s ↔ ∃ cs, s.toList = '0' :: 'x' :: cs ∧ Hex.Digits 40 cs := by
  rw [isText]
  split
  · rename_i cs hs
    simp only [Bool.and_eq_true, decide_eq_true_eq, List.all_eq_true, Hex.isSome_charDigit?_iff, hs, List.cons.injEq, true_and,
      exists_eq_left']
    exact ⟨fun h => ⟨h.1, h.2⟩, fun h => ⟨h.length, h.mem⟩⟩
  · rename_i unmarked
    exact ⟨nofun, fun ⟨cs, hs, _⟩ => (unmarked cs hs).elim⟩

lemma Address.digits_of_parse_eq_ok {s : String} {a : Address} (h : Address.parse s = .ok a) :
    ∃ cs, s.toList = '0' :: 'x' :: cs ∧ Hex.Digits 40 cs := by
  rw [← isText_iff]
  by_contra no
  rw [Address.parse, ofText?, if_neg no] at h
  cases h

end Flyover
