import Flyover.Proofs.Queries
import Flyover.Proofs.Run.Progress
import Flyover.Proofs.WeiSum
import Flyover.Report

/-! The figures of a report are those of the settled quotes that were agreed on in its period. -/

namespace Flyover

lemma min?_concat (l : List Nat) (n : Nat) : (l ++ [n]).min? = some (l.min?.elim n (min · n)) := by
  cases h : l.min? with
  | none => simp [List.min?_eq_none_iff.mp h]
  | some m =>
    rw [List.min?_eq_some_iff] at h ⊢
    simp only [Option.elim_some, List.mem_append, List.mem_singleton]
    grind

lemma max?_concat (l : List Nat) (n : Nat) : (l ++ [n]).max? = some (l.max?.elim n (max · n)) := by
  cases h : l.max? with
  | none => simp [List.max?_eq_none_iff.mp h]
  | some m =>
    rw [List.max?_eq_some_iff] at h ⊢
    simp only [Option.elim_some, List.mem_append, List.mem_singleton]
    grind

namespace Report

def values (l : List Quote) : List Nat := l.map fun q => q.value.toNat

def fees (l : List Quote) : List Nat := l.map fun q => q.callFee.toNat

structure Figures (l : List Quote) (r : Report) : Prop where
  count : r.count = l.length
  minValue : r.minValue.toNat = (values l).min?.getD 0
  maxValue : r.maxValue.toNat = (values l).max?.getD 0
  averageValue : r.averageValue.toNat = (values l).sum / l.length
  totalFees : r.totalFees.toNat = (fees l).sum
  averageFee : r.averageFee.toNat = (fees l).sum / l.length

structure Tallies (l : List Quote) (a : Wei × Report) : Prop where
  total : a.1.toNat = (values l).sum
  count : a.2.count = l.length
  minValue : a.2.minValue.toNat = (values l).min?.getD 0
  maxValue : a.2.maxValue.toNat = (values l).max?.getD 0
  totalFees : a.2.totalFees.toNat = (fees l).sum

structure Fits (l : List Quote) : Prop where
  values : (values l).sum < Wei.bound
  fees : (fees l).sum < Wei.bound
  length : l.length < 2 ^ 64

def Overflows (l : List Quote) : Prop := Wei.bound ≤ (values l).sum ∨ Wei.bound ≤ (fees l).sum

lemma values_concat (l : List Quote) (q : Quote) : values (l ++ [q]) = values l ++ [q.value.toNat] := by
  rw [values, List.map_append, List.map_singleton, ← values]

lemma fees_concat (l : List Quote) (q : Quote) : fees (l ++ [q]) = fees l ++ [q.callFee.toNat] := by
  rw [fees, List.map_append, List.map_singleton, ← fees]

lemma add_eq_ok_iff {q : Quote} {a b : Wei × Report} : Report.add a q = .ok b ↔
    ∃ total fees, a.1.add q.value = .ok total ∧ a.2.totalFees.add q.callFee = .ok fees ∧ b = (total, { a.2 with
      count := a.2.count + 1
      minValue := if a.2.count = 0 || q.value < a.2.minValue then q.value else a.2.minValue
      maxValue := if a.2.maxValue < q.value then q.value else a.2.maxValue
      totalFees := fees }) := by
  simp only [Report.add, bind_eq_ok_iff, pure, Except.pure, Except.ok.injEq]
  constructor
  · rintro ⟨total, ht, fees, hf, rfl⟩
    exact ⟨total, fees, ht, hf, rfl⟩
  · rintro ⟨total, fees, ht, hf, rfl⟩
    exact ⟨total, ht, fees, hf, rfl⟩

lemma Tallies.of_add {l : List Quote} {q : Quote} {a b : Wei × Report} (h : Tallies l a) (added : Report.add a q = .ok b) :
    Tallies (l ++ [q]) b := by
  obtain ⟨total, count, minValue, maxValue, totalFees⟩ := h
  obtain ⟨x, y, hx, hy, rfl⟩ := add_eq_ok_iff.mp added
  refine ⟨?_, ?_, ?_, ?_, ?_⟩
  · rw [Wei.add_eq_ok_iff.mp hx, values_concat, List.sum_append, List.sum_singleton, total]
  · simp [count]
  · rw [values_concat, min?_concat, Option.getD_some]
    have empty : (values l).min? = none ↔ a.2.count = 0 := by
      rw [List.min?_eq_none_iff, values, List.map_eq_nil_iff, count, List.length_eq_zero_iff]
    cases hm : (values l).min? with
    | none => simp [empty.mp hm]
    | some m =>
      rw [hm, Option.getD_some] at minValue
      have some : a.2.count ≠ 0 := fun none => by simp [empty.mpr none] at hm
      simp only [some, decide_false, Bool.false_or, decide_eq_true_eq, Wei.lt_iff, Option.elim_some]
      split <;> omega
  · rw [values_concat, max?_concat, Option.getD_some]
    cases hm : (values l).max? with
    | none =>
      rw [hm, Option.getD_none] at maxValue
      simp only [Wei.lt_iff, Option.elim_none]
      split <;> omega
    | some m =>
      rw [hm, Option.getD_some] at maxValue
      simp only [Wei.lt_iff, Option.elim_some]
      split <;> omega
  · rw [Wei.add_eq_ok_iff.mp hy, fees_concat, List.sum_append, List.sum_singleton, totalFees]

lemma Tallies.of_add_eq_error {l : List Quote} {q : Quote} {a : Wei × Report} {e : Error} (h : Tallies l a)
    (failed : Report.add a q = .error e) : e = .weiOverflow "addition" ∧ Overflows (l ++ [q]) := by
  rw [Overflows, values_concat, fees_concat, List.sum_append, List.sum_append, List.sum_singleton, List.sum_singleton,
    ← h.total, ← h.totalFees]
  rw [Report.add] at failed
  cases hx : a.1.add q.value with
  | error f =>
    rw [hx] at failed
    cases failed
    obtain ⟨large, rfl⟩ := Wei.fit_eq_error_iff.mp hx
    exact ⟨rfl, .inl large⟩
  | ok total =>
    cases hy : a.2.totalFees.add q.callFee with
    | error f =>
      simp only [hx, hy, bind, Except.bind] at failed
      cases failed
      obtain ⟨large, rfl⟩ := Wei.fit_eq_error_iff.mp hy
      exact ⟨rfl, .inr large⟩
    | ok fees =>
      cases failed.symm.trans (add_eq_ok_iff.mpr ⟨total, fees, hx, hy, rfl⟩)

lemma Tallies.not_overflows {l : List Quote} {a : Wei × Report} (h : Tallies l a) : ¬ Overflows l := by
  rw [Overflows, ← h.total, ← h.totalFees]
  exact not_or.mpr ⟨a.1.toNat_lt.not_ge, a.2.totalFees.toNat_lt.not_ge⟩

lemma Overflows.append {l : List Quote} (h : Overflows l) (l' : List Quote) : Overflows (l ++ l') := by
  simp only [Overflows, values, fees, List.map_append, List.sum_append] at h ⊢
  omega

lemma Tallies.foldlM {l : List Quote} {a : Wei × Report} (h : Tallies l a) (l' : List Quote) :
    (∃ b, l'.foldlM Report.add a = .ok b ∧ Tallies (l ++ l') b) ∨
      l'.foldlM Report.add a = .error (.weiOverflow "addition") ∧ Overflows (l ++ l') := by
  induction l' generalizing l a with
  | nil => exact .inl ⟨a, rfl, by rwa [List.append_nil]⟩
  | cons q l' ih =>
    rw [← List.singleton_append, ← List.append_assoc]
    rw [List.singleton_append, List.foldlM_cons]
    -- sums only grow, so what overflows on the way overflows in the end
    cases added : Report.add a q with
    | error e =>
      obtain ⟨rfl, overflows⟩ := h.of_add_eq_error added
      exact .inr ⟨rfl, overflows.append l'⟩
    | ok b => exact ih (h.of_add added)

lemma ofQuotes_cases {l : List Quote} (length : l.length < 2 ^ 64) :
    (∃ r, ofQuotes l = .ok r ∧ Figures l r ∧ ¬ Overflows l) ∨
      ofQuotes l = .error (.weiOverflow "addition") ∧ Overflows l := by
  have first : Tallies [] (0, empty) := ⟨rfl, rfl, rfl, rfl, rfl⟩
  rcases first.foldlM l with ⟨⟨total, r⟩, tallied, tallies⟩ | ⟨failed, overflows⟩
  case inr => exact .inr ⟨by rw [ofQuotes, failed]; rfl, overflows⟩
  rw [List.nil_append] at tallies
  refine .inl ?_
  rw [ofQuotes, tallied]
  by_cases none : r.count = 0
  · obtain rfl : l = [] := List.length_eq_zero_iff.mp (tallies.count.symm.trans none)
    cases tallied
    exact ⟨empty, rfl, ⟨rfl, rfl, rfl, rfl, rfl, rfl⟩, tallies.not_overflows⟩
  have count_eq : (Wei.ofUInt64 (UInt64.ofNat r.count)).toNat = l.length := by
    rw [Wei.toNat_ofUInt64, UInt64.toNat_ofNat', tallies.count, Nat.mod_eq_of_lt length]
  have some : Wei.ofUInt64 (UInt64.ofNat r.count) ≠ 0 := Wei.ne_zero_iff.mpr (by rwa [count_eq, ← tallies.count])
  obtain ⟨x, hx, x_eq⟩ := Wei.div_of_ne_zero (a := total) some
  obtain ⟨y, hy, y_eq⟩ := Wei.div_of_ne_zero (a := r.totalFees) some
  refine ⟨{ r with averageValue := x, averageFee := y }, ?_, ⟨tallies.count, tallies.minValue, tallies.maxValue, ?_,
    tallies.totalFees, ?_⟩, tallies.not_overflows⟩
  · simp only [bind, Except.bind, none, if_false, hx, hy]
    rfl
  · rw [x_eq, count_eq, ← tallies.total]
  · rw [y_eq, count_eq, ← tallies.totalFees]

lemma ofQuotes_of_fits {l : List Quote} (fits : Fits l) : ∃ r, ofQuotes l = .ok r ∧ Figures l r := by
  rcases ofQuotes_cases fits.length with ⟨r, told, figures, -⟩ | ⟨-, overflows⟩
  · exact ⟨r, told, figures⟩
  · rcases overflows with large | large
    · exact absurd fits.values large.not_gt
    · exact absurd fits.fees large.not_gt

end Report

namespace Store

variable {s : Store} {start stop : Instant} {hash : String} {quote : Quote}

def settledWithin (s : Store) (start stop : Instant) : List (String × Quote) :=
  s.quotesWithin ((s.settlementsIn [.registerPeginSucceeded]).map fun u => u.quoteHash) start stop

lemma nodup_settledWithin (s : Store) (start stop : Instant) : (s.settledWithin start stop).Nodup :=
  (s.sortedBy_quotesWithin _ start stop).nodup

lemma count_settledWithin {u : Settlement} (stored : s.settlements[hash]? = some u) (key : u.quoteHash = hash)
    (state : u.state = .registerPeginSucceeded) (quoted : s.quotes[hash]? = some quote) (within : quote.Within start stop) :
    (s.settledWithin start stop).count (hash, quote) = 1 := by
  refine List.count_eq_one_of_mem (s.nodup_settledWithin start stop) ?_
  refine mem_quotesWithin.mpr ⟨List.mem_map.mpr ⟨u, mem_settlementsWhere.mpr ⟨⟨hash, stored⟩, ?_⟩, key⟩, quoted, within⟩
  simp [state]

end Store

namespace Report

open Run Trace

def arguments (start stop : Instant) : ErrorArgs :=
  (ErrorArgs.single "from" (Text.signedNumeral start.seconds)).insert "to" (Text.signedNumeral stop.seconds)

variable {start stop : Instant} {σ : Surroundings} {s : Store}

lemma peginReport_looks (start stop : Instant) : (peginReport start stop).Keeps Trace.Looks := by
  refine .mapError (.bind (.look ⟨rfl, rfl⟩) fun settled => .ite (.pure _) ?_)
  exact .bind (.look ⟨rfl, rfl⟩) fun quotes => .lift _

lemma result_compute_of_served (served : ((compute start stop).resume σ (.start s)).trace.Served σ) :
    ((compute start stop).resume σ (.start s)).result =
      (ofQuotes ((s.settledWithin start stop).map Prod.snd)).mapError .failed := by
  obtain ⟨settled, t₁, hs, reached⟩ := (Passes.access served _ _).bind_ok (x := Run.settlementsIn _) rfl
  obtain ⟨-, rfl, rfl⟩ := resume_access_eq_ok_iff.mp hs
  rw [compute, reached] at served ⊢
  dsimp only at served ⊢
  split
  · rename_i unsettled
    have none : s.settledWithin start stop = [] := congrArg (s.quotesWithin · start stop) (List.isEmpty_iff.mp unsettled)
    rw [none]
    rfl
  · rename_i some
    rw [if_neg some] at served
    obtain ⟨quotes, t₂, hq, reached⟩ := (Passes.access served _ _).bind_ok (x := Run.quotesWithin _ _ _) rfl
    obtain ⟨-, rfl, rfl⟩ := resume_access_eq_ok_iff.mp hq
    rw [reached]
    show ((liftM (ofQuotes ((s.settledWithin start stop).map Prod.snd)) : Run Report).resume σ _).result = _
    cases ofQuotes ((s.settledWithin start stop).map Prod.snd) <;> rfl

lemma result_peginReport (served : ((peginReport start stop).exec σ s).trace.Served σ) :
    ((peginReport start stop).exec σ s).result = (ofQuotes ((s.settledWithin start stop).map Prod.snd)).mapError fun e =>
      .failed (.inUseCase .report (arguments start stop) e) := by
  rw [peginReport, exec, trace_mapError] at served
  rw [peginReport, exec, result_mapError, result_compute_of_served served]
  cases ofQuotes ((s.settledWithin start stop).map Prod.snd) <;> rfl

lemma peginReport_succeeds (fits : Fits ((s.settledWithin start stop).map Prod.snd))
    (served : ((peginReport start stop).exec σ s).trace.Served σ) :
    ∃ r T, (peginReport start stop).exec σ s = ⟨.ok r, T⟩ ∧ Figures ((s.settledWithin start stop).map Prod.snd) r ∧
      T.Spares s := by
  obtain ⟨r, told, figures⟩ := ofQuotes_of_fits fits
  have result := result_peginReport served
  rw [told] at result
  exact ⟨r, _, resume_eq_of_result_eq_ok result, figures, (peginReport_looks start stop σ (.start s)).spares⟩

end Report

end Flyover
