import Flyover.Binary64.Text
import Mathlib.Tactic

/-! Which words of 64 bits stand for numbers, and which of these are not below zero. Numbers and texts are read as numbers,
but for the one word that says that it is none. -/

namespace Flyover.Binary64

variable {x : Binary64} {negative : Bool} {m num den : ℕ} {e : ℤ}

lemma magnitude_lt (x : Binary64) : x.magnitude < signBit := Nat.mod_lt _ (by decide)

lemma reading_cases (x : Binary64) :
    (x.magnitude < infinityMagnitude ∧ ∃ m e, x.reading = .finite x.isSigned m e ∧ (m = 0 ↔ x.magnitude = 0)) ∨
      (x.magnitude = infinityMagnitude ∧ x.reading = .infinite x.isSigned) ∨
      (infinityMagnitude < x.magnitude ∧ x.reading = .nan) := by
  have bound := x.magnitude_lt
  simp only [reading]
  split
  · split
    · refine .inr (.inl ⟨?_, rfl⟩)
      simp only [infinityMagnitude, leadingBit] at *
      omega
    · refine .inr (.inr ⟨?_, rfl⟩)
      simp only [infinityMagnitude, leadingBit] at *
      omega
  · split
    · refine .inl ⟨?_, _, _, rfl, ?_⟩
      · simp only [infinityMagnitude, leadingBit] at *
        omega
      · simp only [leadingBit] at *
        omega
    · refine .inl ⟨?_, _, _, rfl, ?_⟩
      · simp only [infinityMagnitude, signBit, leadingBit] at *
        omega
      · simp only [leadingBit] at *
        omega

lemma reading_eq_nan_iff : x.reading = .nan ↔ infinityMagnitude < x.magnitude := by
  rcases x.reading_cases with ⟨finite, m, e, read, -⟩ | ⟨infinite, read⟩ | ⟨beyond, read⟩
  · simp [read, finite.le]
  · simp [read, infinite]
  · simp [read, beyond]

def AtLeastZero (x : Binary64) : Prop :=
  match x.reading with
  | .nan => False
  | .infinite negative => negative = false
  | .finite negative m _ => negative = false ∨ m = 0

lemma atLeastZero_iff_bits : x.AtLeastZero ↔ x.bits.toNat ≤ infinityMagnitude ∨ x.bits.toNat = signBit := by
  have bound : x.bits.toNat < 2 * signBit := x.bits.toNat_lt
  have signed : x.isSigned ↔ signBit ≤ x.bits.toNat := decide_eq_true_iff
  rw [AtLeastZero]
  rcases x.reading_cases with ⟨finite, m, e, read, zero⟩ | ⟨infinite, read⟩ | ⟨beyond, read⟩
  · rw [read]
    simp only [← Bool.not_eq_true, signed, zero]
    simp only [magnitude, signBit, infinityMagnitude, leadingBit] at *
    omega
  · rw [read]
    simp only [← Bool.not_eq_true, signed]
    simp only [magnitude, signBit, infinityMagnitude, leadingBit] at *
    omega
  · rw [read]
    simp only [magnitude, signBit, infinityMagnitude, leadingBit, false_iff] at *
    omega

lemma isNegative_eq_false_iff : x.isNegative = false ↔ x.reading = .nan ∨ x.AtLeastZero := by
  rw [isNegative, isNaN, isZero, AtLeastZero]
  rcases x.reading_cases with ⟨finite, m, e, read, zero⟩ | ⟨infinite, read⟩ | ⟨beyond, read⟩
  · simp [read, zero, imp_iff_not_or]
  · have large : x.magnitude ≠ 0 := infinite ▸ by decide
    simp [read, large]
  · simp [read]

section NaN

variable (h : x.reading = .nan) (y : Binary64)

include h

lemma div_of_nan : x.div y = nan := by
  rw [div, h]

lemma mul_of_nan : x.mul y = nan := by
  rw [mul, h]

end NaN

section ofMagnitude

variable (h : m ≤ infinityMagnitude)

include h

lemma magnitude_ofMagnitude : (ofMagnitude negative m).magnitude = m := by
  simp only [magnitude, ofMagnitude, UInt64.toNat_ofNat', infinityMagnitude, leadingBit, signBit] at *
  split <;> omega

lemma reading_ofMagnitude_ne_nan : (ofMagnitude negative m).reading ≠ .nan := by
  rw [Ne, reading_eq_nan_iff, magnitude_ofMagnitude h]
  exact h.not_gt

end ofMagnitude

lemma reading_nearest_ne_nan : (nearest negative num den).reading ≠ .nan := by
  rw [nearest]
  split
  · exact reading_ofMagnitude_ne_nan (Nat.zero_le _)
  · exact reading_ofMagnitude_ne_nan (Nat.min_le_left _ _)

lemma reading_ofDecimal_ne_nan : (ofDecimal negative m e).reading ≠ .nan := by
  rw [ofDecimal]
  split_ifs
  · exact reading_ofMagnitude_ne_nan (Nat.zero_le _)
  · exact reading_ofMagnitude_ne_nan (Nat.le_refl _)
  · exact reading_nearest_ne_nan
  · exact reading_ofMagnitude_ne_nan (Nat.zero_le _)
  · exact reading_nearest_ne_nan

lemma reading_ofUnsigned?_ne_nan {cs : List Char} (h : ofUnsigned? negative cs = some x) : x.reading ≠ .nan := by
  simp only [ofUnsigned?, Option.bind_eq_bind, Option.bind_eq_some_iff] at h
  obtain ⟨m, -, e, -, h⟩ := h
  cases h
  exact reading_ofDecimal_ne_nan

def dropSign : List Char → List Char
  | '-' :: cs | '+' :: cs => cs
  | cs => cs

def NamesNaN (s : String) : Prop := (dropSign s.toList).map Char.toLower = "nan".toList

lemma NamesNaN.lower_mem {s : String} (h : NamesNaN s) : Text.lower s ∈ ["nan", "-nan", "+nan"] := by
  rw [NamesNaN, dropSign.eq_def] at h
  rw [Text.lower]
  split at h
  · rename_i signed
    rw [signed, List.map_cons, h]
    decide
  · rename_i signed
    rw [signed, List.map_cons, h]
    decide
  · rw [h]
    decide

lemma digit?_of_toLower_eq_n {c : Char} (h : c.toLower = 'n') : Text.digit? c = none := by
  refine if_neg fun ⟨_, low⟩ => ?_
  have unchanged : c.toLower = c := by
    refine dif_neg fun letter => ?_
    have high : 65 ≤ c.val := letter.1
    exact absurd (UInt32.le_trans high low) (by decide)
  rw [← unchanged, h] at low
  exact absurd low (by decide)

lemma natural?_of_word {cs : List Char} (h : cs.map Char.toLower = "nan".toList) : Text.natural? cs = none := by
  cases cs with
  | nil => rfl
  | cons c cs =>
    have first : c.toLower = 'n' := (List.cons.inj h).1
    rw [Text.natural?, List.mapM_cons, digit?_of_toLower_eq_n first]
    rfl

lemma dropSign_of_unsigned {cs : List Char} (negative : ∀ rest, cs ≠ '-' :: rest) (positive : ∀ rest, cs ≠ '+' :: rest) :
    dropSign cs = cs := by
  rw [dropSign.eq_def]
  split
  · exact absurd rfl (negative _)
  · exact absurd rfl (positive _)
  · rfl

lemma integer?_of_namesNaN {s : String} (h : NamesNaN s) : Text.integer? s.toList = none := by
  have rest := natural?_of_word h
  rw [Text.integer?.eq_def]
  split
  · rename_i signed
    rw [signed, dropSign] at rest
    rw [rest]
    rfl
  · rename_i signed
    rw [signed, dropSign] at rest
    rw [rest]
    rfl
  · rename_i negative positive
    rw [dropSign_of_unsigned negative positive] at rest
    rw [rest]
    rfl

lemma ofList_eq_iff {cs : List Char} {s : String} : String.ofList cs = s ↔ cs = s.toList :=
  ⟨fun h => by rw [← h, String.toList_ofList], fun h => by rw [h, String.ofList_toList]⟩

lemma reading_eq_nan_iff_of_unsigned {cs : List Char}
    (h : (if String.ofList (cs.map Char.toLower) = "nan" then some (ofMagnitude negative nan.magnitude)
      else if String.ofList (cs.map Char.toLower) = "inf" || String.ofList (cs.map Char.toLower) = "infinity" then
        some (infinity negative)
      else ofUnsigned? negative cs) = some x) :
    x.reading = .nan ↔ cs.map Char.toLower = "nan".toList := by
  rw [← ofList_eq_iff]
  split_ifs at h with named infinite
  · cases h
    simp only [named, iff_true]
    cases negative <;> decide
  · cases h
    simp only [named, iff_false]
    exact reading_ofMagnitude_ne_nan (Nat.le_refl _)
  · simp only [named, iff_false]
    exact reading_ofUnsigned?_ne_nan h

lemma reading_eq_nan_iff_namesNaN {s : String} (h : ofText? s = some x) : x.reading = .nan ↔ NamesNaN s := by
  rw [ofText?] at h
  split at h
  rename_i negative cs divided
  have rest : dropSign s.toList = cs := by
    rw [dropSign.eq_def]
    split at divided <;> simp_all
  rw [NamesNaN, rest]
  exact reading_eq_nan_iff_of_unsigned h

end Flyover.Binary64
