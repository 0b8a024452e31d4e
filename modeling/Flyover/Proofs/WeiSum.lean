import Flyover.Deposit
import Flyover.Quote
import Mathlib.Tactic

/-! Checked arithmetic on amounts is exact. -/

namespace Flyover

lemma bind_eq_ok_iff {ε α β : Type} {x : Except ε α} {f : α → Except ε β} {b : β} :
    (x >>= f) = .ok b ↔ ∃ a, x = .ok a ∧ f a = .ok b := by
  cases x with
  | error e => simp [bind, Except.bind]
  | ok a => simp [bind, Except.bind]

namespace Wei

@[simp] lemma toNat_ofUInt64 (n : UInt64) : (ofUInt64 n).toNat = n.toNat := rfl

lemma ne_zero_iff {a : Wei} : a ≠ 0 ↔ a.toNat ≠ 0 :=
  not_congr ⟨congrArg toNat, fun h => ext_toNat h⟩

lemma ofUInt64_eq_zero_iff {n : UInt64} : ofUInt64 n = 0 ↔ n = 0 := by
  rw [← UInt64.toNat_inj]
  exact ⟨congrArg toNat, fun h => ext_toNat h⟩

lemma add_eq_ok_iff {a b c : Wei} : a.add b = .ok c ↔ c.toNat = a.toNat + b.toNat := fit_eq_ok_iff

lemma sub_eq_ok_iff {a b c : Wei} : a.sub b = .ok c ↔ b.toNat ≤ a.toNat ∧ c.toNat = a.toNat - b.toNat := by
  rw [sub]
  split
  · rename_i h
    rw [Except.ok.injEq, eq_comm]
    exact ⟨fun hc => ⟨h, congrArg toNat hc⟩, fun hc => ext_toNat hc.2⟩
  · rename_i h
    exact ⟨nofun, fun hc => absurd hc.1 h⟩

lemma mul_eq_ok_iff {a b c : Wei} : a.mul b = .ok c ↔ c.toNat = a.toNat * b.toNat := fit_eq_ok_iff

lemma div_eq_ok_iff {a b c : Wei} : a.div b = .ok c ↔ b ≠ 0 ∧ c.toNat = a.toNat / b.toNat := by
  rw [div]
  split
  · rename_i h
    exact ⟨nofun, fun hc => absurd h hc.1⟩
  · rename_i h
    rw [fit_eq_ok_iff]
    exact ⟨fun hc => ⟨h, hc⟩, And.right⟩

lemma div_of_ne_zero {a b : Wei} (h : b ≠ 0) : ∃ c, a.div b = .ok c ∧ c.toNat = a.toNat / b.toNat :=
  ⟨⟨_, Nat.lt_of_le_of_lt (Nat.div_le_self _ _) a.toNat_lt⟩, div_eq_ok_iff.mpr ⟨h, rfl⟩, rfl⟩

lemma mulDiv_eq_ok_iff {a b c d : Wei} :
    a.mulDiv b c = .ok d ↔ a.toNat * b.toNat < bound ∧ c ≠ 0 ∧ d.toNat = a.toNat * b.toNat / c.toNat := by
  rw [mulDiv, bind_eq_ok_iff]
  constructor
  · rintro ⟨product, hp, hd⟩
    rw [mul_eq_ok_iff] at hp
    rw [← hp]
    exact ⟨product.toNat_lt, div_eq_ok_iff.mp hd⟩
  · rintro ⟨fits, hc, hd⟩
    exact ⟨⟨_, fits⟩, mul_eq_ok_iff.mpr rfl, div_eq_ok_iff.mpr ⟨hc, hd⟩⟩

lemma fit_bind_add_eq_ok_iff {operation : String} {n : ℕ} {b c : Wei} :
    (fit operation n >>= fun a => a.add b) = .ok c ↔ c.toNat = n + b.toNat := by
  rw [bind_eq_ok_iff]
  constructor
  · rintro ⟨a, ha, hc⟩
    rw [add_eq_ok_iff.mp hc, fit_eq_ok_iff.mp ha]
  · intro hc
    have fits : n < bound := Nat.lt_of_le_of_lt (Nat.le_add_right n b.toNat) (hc ▸ c.toNat_lt)
    exact ⟨⟨n, fits⟩, fit_eq_ok_iff.mpr rfl, add_eq_ok_iff.mpr hc⟩

lemma fit_bind_add (n : ℕ) (b : Wei) : (fit "addition" n >>= fun a => a.add b) = fit "addition" (n + b.toNat) := by
  cases hn : fit "addition" n with
  | ok a =>
    show a.add b = _
    rw [add, fit_eq_ok_iff.mp hn]
  | error e =>
    obtain ⟨large, rfl⟩ := fit_eq_error_iff.mp hn
    exact (fit_eq_error_iff.mpr ⟨Nat.le_add_right_of_le large, rfl⟩).symm

lemma fit_bind_foldlM_add (n : ℕ) (l : List Wei) :
    (fit "addition" n >>= fun a => l.foldlM add a) = fit "addition" (n + (l.map toNat).sum) := by
  -- over the exact sum so far, whether it still is an amount or not
  induction l generalizing n with
  | nil => simp only [List.foldlM_nil, bind_pure, List.map_nil, List.sum_nil, Nat.add_zero]
  | cons b l ih =>
    calc (fit "addition" n >>= fun a => (b :: l).foldlM add a)
        = (fit "addition" n >>= fun a => a.add b) >>= fun c => l.foldlM add c := by
          simp only [List.foldlM_cons, bind_assoc]
      _ = fit "addition" (n + b.toNat + (l.map toNat).sum) := by rw [fit_bind_add, ih]
      _ = fit "addition" (n + ((b :: l).map toNat).sum) := by rw [List.map_cons, List.sum_cons, Nat.add_assoc]

lemma sum_eq_fit (l : List Wei) : sum l = fit "addition" (l.map toNat).sum := by
  have zero : fit "addition" 0 = .ok 0 := fit_eq_ok_iff.mpr rfl
  have folded := fit_bind_foldlM_add 0 l
  rwa [zero, Nat.zero_add] at folded

lemma sum_eq_ok_iff {l : List Wei} {a : Wei} : sum l = .ok a ↔ a.toNat = (l.map toNat).sum := by
  rw [sum_eq_fit, fit_eq_ok_iff]

end Wei

lemma Quote.total_eq_fit (q : Quote) :
    q.total = Wei.fit "addition" (q.value.toNat + q.callFee.toNat + q.productFee.toNat + q.gasFee.toNat) := by
  rw [← Wei.fit_bind_add, ← Wei.fit_bind_add, bind_assoc]
  rfl

lemma Quote.total_eq_ok_iff {q : Quote} {a : Wei} :
    q.total = .ok a ↔ a.toNat = q.value.toNat + q.callFee.toNat + q.productFee.toNat + q.gasFee.toNat := by
  rw [q.total_eq_fit, Wei.fit_eq_ok_iff]

lemma Quote.toNat_gas (q : Quote) :
    (UInt64.ofNat (q.gasLimit.toNat + callOverhead)).toNat = q.gasLimit.toNat + callOverhead := by
  have h := q.gasLimit.toNat_lt
  rw [callOverhead, UInt64.toNat_ofNat']
  omega

lemma Quote.requiredLiquidity_eq_ok_iff {q : Quote} {price a : Wei} :
    q.requiredLiquidity price = .ok a ↔
      a.toNat = (q.gasLimit.toNat + callOverhead) * price.toNat + q.value.toNat := by
  rw [← q.toNat_gas, Quote.requiredLiquidity]
  exact Wei.fit_bind_add_eq_ok_iff

lemma Deposit.amountTo_eq_ok_iff {d : Deposit} {address : String} {a : Wei} :
    d.amountTo address = .ok a ↔ a.toNat = ((d.outputs.getD address []).map Wei.toNat).sum :=
  Wei.sum_eq_ok_iff

end Flyover
