import Flyover.Proofs.WeiSum

/-! Numbers of satoshis as amounts, and amounts as numbers of satoshis. -/

namespace Flyover

namespace Wei

variable {a b : Wei} {n : UInt64}

lemma toNat_wrappingMul_of_lt (fits : a.toNat * b.toNat < bound) : (a.wrappingMul b).toNat = a.toNat * b.toNat :=
  Nat.mod_eq_of_lt fits

lemma toNat_ofSatoshis (n : UInt64) : (ofSatoshis n).toNat = n.toNat * perSatoshi := by
  -- 64 bits of satoshis and the 34 bits of what one of them is worth stay within 256
  apply toNat_wrappingMul_of_lt
  calc n.toNat * perSatoshi
      < UInt64.size * perSatoshi := Nat.mul_lt_mul_of_pos_right n.toNat_lt (by decide)
    _ ≤ bound := by decide

lemma toUInt64_of_lt (small : a.toNat < UInt64.size) : ∃ n, toUInt64 a = .ok n ∧ n.toNat = a.toNat :=
  ⟨UInt64.ofNat a.toNat, if_pos small, UInt64.toNat_ofNat_of_lt small⟩

lemma toUInt64_of_le (large : UInt64.size ≤ a.toNat) : toUInt64 a = .error (.weiOverflow "u64 conversion") :=
  if_neg large.not_gt

lemma toSatoshis_of_lt (small : a.toNat / perSatoshi < UInt64.size) :
    ∃ n, toSatoshis a = .ok n ∧ n.toNat = a.toNat / perSatoshi :=
  toUInt64_of_lt small

lemma toSatoshis_of_le (large : UInt64.size ≤ a.toNat / perSatoshi) :
    toSatoshis a = .error (.weiOverflow "u64 conversion") :=
  toUInt64_of_le large

lemma toSatoshis_eq_ok_iff : toSatoshis a = .ok n ↔ n.toNat = a.toNat / perSatoshi := by
  by_cases small : a.toNat / perSatoshi < UInt64.size
  · obtain ⟨m, told, worth⟩ := toSatoshis_of_lt small
    rw [told, ← worth, Except.ok.injEq, eq_comm, UInt64.toNat_inj]
  · rw [toSatoshis_of_le (Nat.le_of_not_lt small)]
    exact ⟨nofun, fun worth => absurd (worth ▸ n.toNat_lt) small⟩

lemma ofSatoshis_le_iff : ofSatoshis n ≤ a ↔ n.toNat ≤ a.toNat / perSatoshi := by
  rw [le_iff, toNat_ofSatoshis]
  exact (Nat.le_div_iff_mul_le (by decide)).symm

lemma toSatoshis_ofSatoshis (n : UInt64) : toSatoshis (ofSatoshis n) = .ok n := by
  rw [toSatoshis_eq_ok_iff, toNat_ofSatoshis, Nat.mul_div_cancel _ (by decide)]

lemma lt_ofSatoshis_add_iff : a.toNat < (ofSatoshis n).toNat + perSatoshi ↔ a.toNat / perSatoshi ≤ n.toNat := by
  rw [toNat_ofSatoshis, ← Nat.succ_mul, ← Nat.div_lt_iff_lt_mul (by decide), Nat.lt_succ_iff]

lemma toSatoshis_eq_ok_iff_between :
    toSatoshis a = .ok n ↔ ofSatoshis n ≤ a ∧ a.toNat < (ofSatoshis n).toNat + perSatoshi := by
  rw [toSatoshis_eq_ok_iff, ofSatoshis_le_iff, lt_ofSatoshis_add_iff, le_antisymm_iff]

lemma ofSatoshis_le_ofSatoshis_iff {m n : UInt64} : ofSatoshis m ≤ ofSatoshis n ↔ m ≤ n := by
  rw [ofSatoshis_le_iff, ← toSatoshis_eq_ok_iff.mp (toSatoshis_ofSatoshis n), UInt64.le_iff_toNat_le]

lemma toSatoshis_mono (le : a ≤ b) (told : toSatoshis b = .ok n) : ∃ m, toSatoshis a = .ok m ∧ m ≤ n := by
  rw [toSatoshis_eq_ok_iff] at told
  -- `b` has a number of satoshis in 64 bits, so `a` has one too
  have fewer : a.toNat / perSatoshi ≤ n.toNat := told ▸ Nat.div_le_div_right le
  obtain ⟨m, told', worth⟩ := toSatoshis_of_lt (fewer.trans_lt n.toNat_lt)
  exact ⟨m, told', UInt64.le_iff_toNat_le.mpr (worth ▸ fewer)⟩

/-- Satoshis are worth just what they should be, and an amount is worth the satoshis that fit into it, if their number has 64
bits. Neither conversion turns an order around. -/
theorem satoshis_round_down :
    (∀ n : UInt64, (ofSatoshis n).toNat = n.toNat * 10 ^ 10 ∧ toSatoshis (ofSatoshis n) = .ok n) ∧
      (∀ a : Wei, a.toNat / 10 ^ 10 < 2 ^ 64 → ∃ n, toSatoshis a = .ok n ∧ n.toNat = a.toNat / 10 ^ 10) ∧
      (∀ a : Wei, 2 ^ 64 ≤ a.toNat / 10 ^ 10 → toSatoshis a = .error (.weiOverflow "u64 conversion")) ∧
      (∀ (a : Wei) (n : UInt64), toSatoshis a = .ok n ↔
        ofSatoshis n ≤ a ∧ a.toNat < (ofSatoshis n).toNat + 10 ^ 10) ∧
      (∀ m n : UInt64, ofSatoshis m ≤ ofSatoshis n ↔ m ≤ n) ∧
      ∀ (a b : Wei) (n : UInt64), a ≤ b → toSatoshis b = .ok n → ∃ m, toSatoshis a = .ok m ∧ m ≤ n := by
  have worth : perSatoshi = 10 ^ 10 := rfl
  refine ⟨fun n => ⟨?_, toSatoshis_ofSatoshis n⟩, fun a small => ?_, fun a large => ?_, fun a n => ?_,
    fun m n => ofSatoshis_le_ofSatoshis_iff, fun a b n => toSatoshis_mono⟩
  · rw [toNat_ofSatoshis, worth]
  · rw [← worth] at small ⊢
    exact toSatoshis_of_lt small
  · rw [← worth] at large
    exact toSatoshis_of_le large
  · rw [toSatoshis_eq_ok_iff_between, worth]

end Wei

namespace Sample

def shortAmount : Wei := ⟨184467440737095516159999999999, by decide⟩

def fullAmount : Wei := ⟨184467440737095516160000000000, by decide⟩

def roundedAmount : Wei := ⟨184467440737095516150000000000, by decide⟩

end Sample

open Wei Sample in
theorem last_satoshi_rounds_down :
    toSatoshis fullAmount = .error (.weiOverflow "u64 conversion") ∧
      ∃ n, toSatoshis shortAmount = .ok n ∧ n.toNat = 2 ^ 64 - 1 ∧ ofSatoshis n = roundedAmount ∧
        ∃ m, toSatoshis roundedAmount = .ok m ∧ m ≤ n := by
  obtain ⟨exact, fits, overflows, -, -, mono⟩ := satoshis_round_down
  obtain ⟨n, told, worth⟩ := fits shortAmount (by norm_num [shortAmount])
  have last : n.toNat = 2 ^ 64 - 1 := by norm_num [worth, shortAmount]
  have rounded : ofSatoshis n = roundedAmount := by
    apply ext_toNat
    rw [(exact n).1, last]
    norm_num [roundedAmount]
  have large : 2 ^ 64 ≤ fullAmount.toNat / 10 ^ 10 := by norm_num [fullAmount]
  exact ⟨overflows fullAmount large, n, told, last, rounded, mono roundedAmount shortAmount n (by decide) told⟩

end Flyover
