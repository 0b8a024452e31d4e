import Flyover.Wei
import Mathlib.Data.Nat.Digits.Defs
import Mathlib.Tactic

/-! Decimal numerals: what their characters are, and the number that is read back from them. -/

namespace Flyover

namespace Text

def digitValue (c : Char) : Nat := c.toNat - '0'.toNat

section

variable {c : Char} (h : c.isDigit)

include h

lemma toNat_of_isDigit : 48 ≤ c.toNat ∧ c.toNat ≤ 57 := by
  simpa [Char.isDigit, ← Char.toNat_val, UInt32.le_iff_toNat_le] using h

lemma digit?_of_isDigit : digit? c = some (digitValue c) := by
  obtain ⟨low, high⟩ := toNat_of_isDigit h
  exact if_pos ⟨Char.le_def.mpr (UInt32.le_iff_toNat_le.mpr low), Char.le_def.mpr (UInt32.le_iff_toNat_le.mpr high)⟩

lemma isBlank_of_isDigit : isBlank c = false := by
  obtain ⟨low, high⟩ := toNat_of_isDigit h
  simp [isBlank]
  omega

end

lemma isDigit_eq (c : Char) : isDigit c = c.isDigit := by
  by_cases h : c.isDigit
  · rw [isDigit, digit?_of_isDigit h, h, Option.isSome_some]
  · rw [isDigit, digit?, if_neg, Option.isSome_none, Bool.eq_false_iff.mpr h]
    rintro ⟨low, high⟩
    exact h (by simpa [Char.isDigit] using ⟨Char.le_def.mp low, Char.le_def.mp high⟩)

lemma mapM_digit?_of_isDigit {cs : List Char} (h : ∀ c ∈ cs, c.isDigit) : cs.mapM digit? = some (cs.map digitValue) := by
  induction cs with
  | nil => rfl
  | cons c cs ih =>
    have hc := digit?_of_isDigit (h c (by simp))
    have hcs := ih fun d hd => h d (by simp [hd])
    simp [List.mapM_cons, hc, hcs]

lemma foldl_digitValue (cs : List Char) (n : Nat) :
    (cs.map digitValue).foldl (fun n d => n * 10 + d) n = Nat.ofDigitChars 10 cs n := by
  rw [List.foldl_map, Nat.ofDigitChars_eq_foldl]
  simp only [digitValue, Nat.mul_comm]

lemma ofDigits_digitValue (cs : List Char) : ofDigits 10 (cs.map digitValue) = Nat.ofDigitChars 10 cs 0 :=
  foldl_digitValue cs 0

lemma trimChars_of_no_blank {cs : List Char} (h : ∀ c ∈ cs, isBlank c = false) : trimChars cs = cs := by
  have keep : ∀ ds : List Char, (∀ c ∈ ds, isBlank c = false) → ds.dropWhile isBlank = ds := by
    intro ds hd
    cases ds with
    | nil => rfl
    | cons d ds => simp [hd d (by simp)]
  rw [trimChars, keep cs h, keep cs.reverse fun c hc => h c (List.mem_reverse.mp hc), List.reverse_reverse]

section numeral

variable (n : Nat)

lemma toList_numeral : (numeral n).toList = Nat.toDigits 10 n := Nat.toList_repr

lemma isDigit_of_mem_numeral {c : Char} (h : c ∈ (numeral n).toList) : c.isDigit := by
  rw [toList_numeral] at h
  exact Nat.isDigit_of_mem_toDigits (by decide) (by decide) h

lemma mapM_digit?_numeral : (numeral n).toList.mapM digit? = some ((numeral n).toList.map digitValue) :=
  mapM_digit?_of_isDigit fun _ h => isDigit_of_mem_numeral n h

lemma ofDigits_numeral : ofDigits 10 ((numeral n).toList.map digitValue) = n := by
  rw [ofDigits_digitValue, toList_numeral, Nat.ofDigitChars_ten_toDigits]

lemma numeral_eq_cons : ∃ c cs, (numeral n).toList = c :: cs ∧ c.isDigit := by
  have digits := fun c => isDigit_of_mem_numeral n (c := c)
  cases h : (numeral n).toList with
  | nil => exact absurd (by rw [← toList_numeral, h]) (Nat.toDigits_ne_nil (n := n) (b := 10))
  | cons c cs => exact ⟨c, cs, rfl, digits c (by simp [h])⟩

lemma head?_numeral (h : 0 < n) : ((numeral n).toList.map digitValue).head? ≠ some 0 := by
  rw [toList_numeral]
  induction n using Nat.strong_induction_on with
  | _ n ih =>
    rw [Nat.toDigits_eq_if (by decide)]
    split
    · rename_i small
      clear ih
      interval_cases n <;> decide
    · rename_i large
      have first := ih (n / 10) (by omega) (by omega)
      rw [List.map_append, List.head?_append_of_ne_nil]
      · exact first
      · simp [Nat.toDigits_ne_nil]

lemma no_leading_zero :
    ((numeral n).toList.map digitValue).length = 1 ∨ ((numeral n).toList.map digitValue).head? ≠ some 0 := by
  rcases Nat.eq_zero_or_pos n with rfl | positive
  · exact .inl rfl
  · exact .inr (head?_numeral n positive)

end numeral

lemma signedNumeral_chars (i : Int) :
    (signedNumeral i).toList = (if i < 0 then ['-'] else []) ++ (numeral i.natAbs).toList := by
  rw [signedNumeral]
  split <;> simp

lemma signedNumeral_eq_cons (i : Int) : ∃ c cs, (signedNumeral i).toList = c :: cs ∧ (c = '-' ∨ c.isDigit) := by
  rw [signedNumeral_chars]
  obtain ⟨c, cs, hc, digit⟩ := numeral_eq_cons i.natAbs
  split
  · exact ⟨'-', _, rfl, .inl rfl⟩
  · exact ⟨c, cs, by rw [hc, List.nil_append], .inr digit⟩

end Text

namespace Wei

lemma ofText?_text (a : Wei) : ofText? a.text = some a := by
  have digits : ∀ c ∈ a.text.toList, c.isDigit := fun _ h => Text.isDigit_of_mem_numeral a.toNat h
  have plain : a.text.toList.filter (· ≠ '_') = a.text.toList := by
    refine List.filter_eq_self.mpr fun c hc => decide_eq_true ?_
    rintro rfl
    exact absurd (digits _ hc) (by decide)
  rw [ofText?, Text.trimChars_of_no_blank fun c hc => Text.isBlank_of_isDigit (digits c hc), ofDigits?, plain, text,
    Text.mapM_digit?_numeral]
  simp only [Text.ofDigits_numeral, ofNat?_toNat]

lemma text_injective : Function.Injective text := by
  intro a b h
  have read : ofText? a.text = ofText? b.text := by rw [h]
  rwa [ofText?_text, ofText?_text, Option.some.injEq] at read

end Wei

end Flyover
