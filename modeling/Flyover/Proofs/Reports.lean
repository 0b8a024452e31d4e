import Flyover.Proofs.Figures
import Flyover.Proofs.Sweeps

/-! A report tells of the quotes that were settled, of each of them once, or else that their sums are no amounts. -/

namespace Flyover

namespace Store

def Settled (s : Store) (start stop : Instant) (hash : String) (quote : Quote) : Prop :=
  (∃ t, s.settlements[hash]? = some t ∧ t.state = .registerPeginSucceeded) ∧ s.quotes[hash]? = some quote ∧
    quote.AgreedIn start stop

structure Lists (s : Store) (start stop : Instant) (l : List (String × Quote)) : Prop where
  nodup : l.Nodup
  mem : ∀ hash quote, (hash, quote) ∈ l ↔ s.Settled start stop hash quote

section

variable {s : Store} (keyed : s.Keyed) (start stop : Instant)

include keyed

lemma lists_settledWithin : s.Lists start.wholeSecond stop (s.settledWithin start stop) where
  nodup := s.nodup_settledWithin start stop
  mem hash quote := by
    rw [settledWithin, mem_quotesWithin, Quote.within_iff, List.mem_map, Settled]
    refine and_congr_left fun _ => ?_
    simp only [mem_settlementsIn_iff keyed, List.mem_singleton]
    constructor
    · rintro ⟨t, ⟨stored, state⟩, rfl⟩
      exact ⟨t, stored, state⟩
    · rintro ⟨t, stored, state⟩
      obtain rfl := keyed hash t stored
      exact ⟨t, ⟨stored, state⟩, rfl⟩

end

lemma length_settledWithin_le (s : Store) (start stop : Instant) :
    (s.settledWithin start stop).length ≤ s.settlements.size := by
  have sub : (s.settledWithin start stop).map Prod.fst ⊆
      (s.settlementsIn [.registerPeginSucceeded]).map Settlement.quoteHash := by
    intro hash listed
    obtain ⟨⟨hash, quote⟩, mem, rfl⟩ := List.mem_map.mp listed
    exact (mem_quotesWithin.mp mem).1
  have distinct := (s.sortedBy_quotesWithin ((s.settlementsIn [.registerPeginSucceeded]).map Settlement.quoteHash)
    start stop).nodup_map
  calc (s.settledWithin start stop).length
      = ((s.settledWithin start stop).map Prod.fst).length := (List.length_map _).symm
    _ ≤ ((s.settlementsIn [.registerPeginSucceeded]).map Settlement.quoteHash).length :=
        (List.subperm_of_subset distinct sub).length_le
    _ ≤ (s.settlements.toList.map Prod.snd).length := by
        rw [List.length_map]
        exact List.length_filter_le _ _
    _ = s.settlements.size := by rw [List.length_map, Std.ExtTreeMap.length_toList]

lemma Lists.perm {s : Store} {start stop : Instant} {l l' : List (String × Quote)} (h : s.Lists start stop l)
    (h' : s.Lists start stop l') : l.Perm l' :=
  (List.perm_ext_iff_of_nodup h.nodup h'.nodup).mpr fun e => (h.mem e.1 e.2).trans (h'.mem e.1 e.2).symm

end Store

lemma min?_eq_of_perm {l l' : List Nat} (h : l.Perm l') : l.min? = l'.min? := by
  ext m
  simp only [List.min?_eq_some_iff, h.mem_iff]

lemma max?_eq_of_perm {l l' : List Nat} (h : l.Perm l') : l.max? = l'.max? := by
  ext m
  simp only [List.max?_eq_some_iff, h.mem_iff]

lemma Trace.Looks.served {σ : Surroundings} (kept : ∀ calls a, (σ.peers calls).outage a = none) {s : Store} {t : Trace}
    (looked : (start s).Looks t) : t.Served σ := by
  intro before c called
  have access := (looked.calls.of_start c (called.subset (by simp))).2
  cases c with
  | question q => cases access
  | contractAddress => cases access
  | access a => exact kept before a

namespace Report

variable {l l' : List Quote}

lemma Figures.of_perm {r : Report} (h : Figures l r) (perm : l.Perm l') : Figures l' r := by
  have values : (values l).Perm (values l') := perm.map _
  have fees : (fees l).Perm (fees l') := perm.map _
  refine ⟨?_, ?_, ?_, ?_, ?_, ?_⟩
  · rw [h.count, perm.length_eq]
  · rw [h.minValue, min?_eq_of_perm values]
  · rw [h.maxValue, max?_eq_of_perm values]
  · rw [h.averageValue, values.sum_eq, perm.length_eq]
  · rw [h.totalFees, fees.sum_eq]
  · rw [h.averageFee, fees.sum_eq, perm.length_eq]

lemma overflows_iff_of_perm (perm : l.Perm l') : Overflows l ↔ Overflows l' := by
  rw [Overflows, Overflows, values, values, fees, fees, (perm.map _).sum_eq, (perm.map _).sum_eq]

structure Tells (start stop : Instant) (l : List Quote) (result : Except Halt Report) : Prop where
  figures : ¬ Overflows l → ∃ r, result = .ok r ∧ Figures l r
  overflows : Overflows l → result = .error (.failed (.inUseCase .report (arguments start stop) (.weiOverflow "addition")))
  nothing : l = [] → result = .ok empty

lemma Tells.of_perm {start stop : Instant} {result : Except Halt Report} (h : Tells start stop l result)
    (perm : l.Perm l') : Tells start stop l' result := by
  refine ⟨fun fit => ?_, fun overflows => ?_, fun none => ?_⟩
  · obtain ⟨r, told, figures⟩ := h.figures fun overflows => fit ((overflows_iff_of_perm perm).mp overflows)
    exact ⟨r, told, figures.of_perm perm⟩
  · exact h.overflows ((overflows_iff_of_perm perm).mpr overflows)
  · subst none
    exact h.nothing perm.eq_nil

lemma tells_ofQuotes (start stop : Instant) (length : l.length < 2 ^ 64) :
    Tells start stop l ((ofQuotes l).mapError fun e => .failed (.inUseCase .report (arguments start stop) e)) := by
  rcases ofQuotes_cases length with ⟨r, told, figures, fit⟩ | ⟨failed, overflows⟩
  · refine ⟨fun _ => ⟨r, by rw [told]; rfl, figures⟩, fun overflows => absurd overflows fit, fun none => ?_⟩
    subst none
    rfl
  · refine ⟨fun fit => absurd overflows fit, fun _ => by rw [failed]; rfl, fun none => ?_⟩
    subst none
    rfl

lemma result_peginReport_of_same {σ σ' : Surroundings} {s s' : Store} (quotes : s'.quotes = s.quotes)
    (settlements : s'.settlements = s.settlements) {start stop : Instant}
    (served : ((peginReport start stop).exec σ s).trace.Served σ)
    (served' : ((peginReport start stop).exec σ' s').trace.Served σ') :
    ((peginReport start stop).exec σ' s').result = ((peginReport start stop).exec σ s).result := by
  have settled : s'.settledWithin start stop = s.settledWithin start stop := by
    rw [Store.settledWithin, Store.settledWithin, Store.settlementsIn, Store.settlementsIn, Store.settlementsWhere,
      Store.settlementsWhere, Store.quotesWithin, Store.quotesWithin, quotes, settlements]
  rw [result_peginReport served', result_peginReport served, settled]

end Report

open Report in
/-- The beginning of the period is read in whole seconds. That fewer than `2 ^ 64` settlements are counted is no restriction
on a store that fits into the memory of a machine. -/
theorem report_tells_of_settled {s : Store} (keyed : s.Keyed) (counted : s.settlements.size < 2 ^ 64) {σ : Surroundings}
    (kept : ∀ calls a, (σ.peers calls).outage a = none) (start stop : Instant) :
    (∃ l, s.Lists start.wholeSecond stop l) ∧
    (∀ l, s.Lists start.wholeSecond stop l →
      Tells start stop (l.map Prod.snd) ((peginReport start stop).exec σ s).result) ∧
    (stop.nanoseconds < start.wholeSecond.nanoseconds → ((peginReport start stop).exec σ s).result = .ok empty) ∧
    ((peginReport start stop).exec σ s).trace.Spares s ∧
    ∀ (s' : Store) (σ' : Surroundings), (∀ hash : String, s'.quotes[hash]? = s.quotes[hash]?) →
      (∀ hash : String, s'.settlements[hash]? = s.settlements[hash]?) →
      (∀ calls a, (σ'.peers calls).outage a = none) →
        ((peginReport start stop).exec σ' s').result = ((peginReport start stop).exec σ s).result := by
  have looks (σ : Surroundings) (s : Store) := peginReport_looks start stop σ (.start s)
  have served := (looks σ s).served kept
  have listed := Store.lists_settledWithin keyed start stop
  have length : ((s.settledWithin start stop).map Prod.snd).length < 2 ^ 64 := by
    rw [List.length_map]
    exact (s.length_settledWithin_le start stop).trans_lt counted
  have tells (l : List (String × Quote)) (lists : s.Lists start.wholeSecond stop l) :
      Tells start stop (l.map Prod.snd) ((peginReport start stop).exec σ s).result := by
    rw [result_peginReport served]
    exact (tells_ofQuotes start stop length).of_perm ((listed.perm lists).map _)
  refine ⟨⟨_, listed⟩, tells, fun before => (tells [] ⟨List.nodup_nil, fun hash quote => ?_⟩).nothing rfl,
    (looks σ s).spares, fun s' σ' quotes settlements kept' => ?_⟩
  · refine ⟨nofun, fun ⟨_, _, agreed⟩ => ?_⟩
    exact absurd (agreed.1.trans agreed.2) before.not_ge
  · exact result_peginReport_of_same (Std.ExtTreeMap.ext_getElem? @quotes) (Std.ExtTreeMap.ext_getElem? @settlements)
      served ((looks σ' s').served kept')

namespace Sample

def settled (hash : String) : Settlement := { settlement .registerPeginSucceeded with quoteHash := hash }

def quoteAt (agreedAt : UInt32) (value callFee : UInt64) : Quote :=
  { quote with agreedAt, value := .ofUInt64 value, callFee := .ofUInt64 callFee }

def reported : Store :=
  let quoted := (((Store.empty.putQuote (unpriced "bb" (quoteAt 101 500 5))).putQuote
    (unpriced "aa" (quoteAt 100 1001 10))).putQuote (unpriced "cc" (quoteAt 99 7 7))).putQuote (unpriced "ee" (quoteAt 100 7 7))
  ((((quoted.setSettlement (settled "dd")).setSettlement (settled "bb")).setSettlement (settled "aa")).setSettlement
    (settled "cc")).setSettlement { settlement .callForUserSucceeded with quoteHash := "ee" }

lemma keyed_reported : reported.Keyed := by
  have quoted := (((keyed_empty.putQuote (unpriced "bb" (quoteAt 101 500 5))).putQuote
    (unpriced "aa" (quoteAt 100 1001 10))).putQuote (unpriced "cc" (quoteAt 99 7 7))).putQuote (unpriced "ee" (quoteAt 100 7 7))
  exact ((((quoted.setSettlement _).setSettlement _).setSettlement _).setSettlement _).setSettlement _

abbrev report : Outcome Report := (peginReport (.ofSeconds 100 1) (.ofSeconds 101 0)).exec paying reported

end Sample

open Report Sample in
theorem report_of_two : reported.Keyed ∧ reported.settlements.size < 2 ^ 64 ∧
    (∃ l, reported.Lists (.ofSeconds 100 0) (.ofSeconds 101 0) l ∧
      Tells (.ofSeconds 100 1) (.ofSeconds 101 0) (l.map Prod.snd) report.result) ∧
    report.result.toOption = some ⟨2, .ofUInt64 500, .ofUInt64 1001, .ofUInt64 750, .ofUInt64 15, .ofUInt64 7⟩ ∧
    report.trace.Spares reported := by
  have counted : reported.settlements.size < 2 ^ 64 := by decide
  obtain ⟨⟨l, lists⟩, tells, -, spares, -⟩ := report_tells_of_settled keyed_reported counted (σ := paying) (fun _ _ => rfl)
    (.ofSeconds 100 1) (.ofSeconds 101 0)
  exact ⟨keyed_reported, counted, ⟨l, lists, tells l lists⟩, by decide, spares⟩

open Report Sample in
theorem begun_second_is_told : reported.Lists (.ofSeconds 100 1) (.ofSeconds 100 0) [] ∧
    ¬ Tells (.ofSeconds 100 1) (.ofSeconds 100 0) []
      ((peginReport (.ofSeconds 100 1) (.ofSeconds 100 0)).exec paying reported).result := by
  refine ⟨⟨List.nodup_nil, fun hash quote => ⟨nofun, fun ⟨_, _, agreed⟩ => ?_⟩⟩, fun tells => ?_⟩
  · exact absurd (agreed.1.trans agreed.2) (by decide)
  · have told : ((peginReport (.ofSeconds 100 1) (.ofSeconds 100 0)).exec paying reported).result.toOption.map Report.count =
        some 1 := by decide
    rw [tells.nothing rfl] at told
    cases told

end Flyover
