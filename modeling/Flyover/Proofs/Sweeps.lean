import Flyover.Proofs.Endings.Expiry
import Flyover.Proofs.Endings.Local
import Flyover.Proofs.FundedPayouts
import Flyover.Proofs.Queries

/-! A sweep ends the settlements that are due, all of them and nothing else, so that a second one finds nothing to do. -/

namespace Flyover

namespace Expiry

open Run Trace

def Due (s : Store) (now : Int) (hash : String) : Prop :=
  ∃ t quote, s.settlements[hash]? = some t ∧ t.state = .waitingForDeposit ∧ s.quotes[hash]? = some quote ∧
    (quote.agreedAt.toNat + quote.timeForDeposit.toNat : Int) < now

/-- The sweep tells of these hashes, and their settlements have lapsed. Nothing else is another than before. -/
structure Sweeps (s : Store) (hashes : List String) (o : Outcome (List String)) : Prop where
  result : o.result = .ok hashes
  settlements : ∀ hash : String, o.trace.store.settlements[hash]? =
    if hash ∈ hashes then (s.settlements[hash]?).map lapsed else s.settlements[hash]?
  alike : s.Alike o.trace.store
  events : o.trace.events = []

def isOver (s : Store) (now : Int) (t : Settlement) : Bool := (s.quotes[t.quoteHash]?).any fun q => q.isExpiredAt now

section

variable {σ : Surroundings} (kept : ∀ calls a, (σ.peers calls).outage a = none)

include kept

lemma resume_isDue_of_kept (u : Settlement) (t : Trace) :
    (isDue u).resume σ t = ⟨.ok (isOver t.store σ.now u), t.noting (.access (.quote u.quoteHash))⟩ := by
  have found : (mapError (fun e => e.within .expireQuote) (findQuote u.quoteHash)).resume σ t =
      ⟨.ok t.store.quotes[u.quoteHash]?, t.noting (.access (.quote u.quoteHash))⟩ :=
    resume_mapError_of_ok (resume_access_eq_ok_iff.mpr ⟨kept _ _, rfl, rfl⟩)
  rw [isDue, resume_bind_of_ok found, resume_bind_of_ok (resume_now σ _)]
  rfl

lemma resume_sweepOne_of_kept {u : Settlement} {t : Trace} (state : u.state = .waitingForDeposit)
    (stored : u.quoteHash ∈ t.store.settlements) :
    ∃ t', (sweepOne u).resume σ t = ⟨.ok (if isOver t.store σ.now u then some u.quoteHash else none), t'⟩ ∧
      t'.store = t.store.setAll (if isOver t.store σ.now u then [lapsed u] else []) ∧ t'.events = t.events := by
  rw [sweepOne, resume_bind_of_ok (resume_isDue_of_kept kept u t)]
  by_cases elapsed : isOver t.store σ.now u
  · obtain ⟨quote, quoted, expired⟩ := (Option.any_eq_true _ _).mp elapsed
    have closed := resume_close_of_kept (t := t.noting (.access (.quote u.quoteHash))) state quoted expired stored kept
    have ended : (attempt (expireQuote u)).resume σ (t.noting (.access (.quote u.quoteHash))) = ⟨.ok (.ok (lapsed u)),
        ((t.noting (.access (.quote u.quoteHash))).noting (.access (.quote u.quoteHash))).writing (lapsed u)⟩ := by
      rw [resume_attempt, expireQuote, resume_mapError_of_ok closed]
      rfl
    rw [if_pos elapsed, if_pos elapsed, if_pos elapsed, resume_bind_of_ok ended]
    exact ⟨_, rfl, rfl, rfl⟩
  · rw [if_neg elapsed, if_neg elapsed, if_neg elapsed]
    exact ⟨_, rfl, rfl, rfl⟩

lemma resume_mapM_sweepOne_of_kept (l : List Settlement) {t : Trace} (waiting : ∀ u ∈ l, u.state = .waitingForDeposit)
    (stored : ∀ u ∈ l, u.quoteHash ∈ t.store.settlements) :
    ∃ found t', (l.mapM sweepOne).resume σ t = ⟨.ok found, t'⟩ ∧
      found.filterMap id = (l.filter (isOver t.store σ.now)).map Settlement.quoteHash ∧
      t'.store = t.store.setAll ((l.filter (isOver t.store σ.now)).map lapsed) ∧ t'.events = t.events := by
  induction l generalizing t with
  | nil => exact ⟨[], t, rfl, rfl, rfl, rfl⟩
  | cons u l ih =>
    obtain ⟨t₁, turn, store, events⟩ := resume_sweepOne_of_kept kept (waiting u List.mem_cons_self)
      (stored u List.mem_cons_self)
    have quotes : isOver t₁.store σ.now = isOver t.store σ.now := by
      funext v
      rw [isOver, store, (Store.alike_setAll _ _).quotes, isOver]
    have still (v : Settlement) (hv : v ∈ l) : v.quoteHash ∈ t₁.store.settlements := by
      have before := stored v (List.mem_cons_of_mem u hv)
      rw [store]
      split
      · exact Std.ExtTreeMap.mem_insert.mpr (.inr before)
      · exact before
    obtain ⟨found, t', rest, hashes, store', events'⟩ := ih (fun v hv => waiting v (List.mem_cons_of_mem u hv)) still
    rw [quotes] at hashes store'
    refine ⟨(if isOver t.store σ.now u then some u.quoteHash else none) :: found, t', ?_, ?_, ?_, events'.trans events⟩
    · rw [List.mapM_cons, resume_bind_of_ok turn, resume_bind_of_ok rest]
      rfl
    · rw [List.filter_cons]
      by_cases elapsed : isOver t.store σ.now u
      · rw [if_pos elapsed, if_pos elapsed]
        exact congrArg (u.quoteHash :: ·) hashes
      · rw [if_neg elapsed, if_neg elapsed]
        exact hashes
    · rw [store', store, ← Store.setAll_append, List.filter_cons]
      by_cases elapsed : isOver t.store σ.now u
      · rw [if_pos elapsed, if_pos elapsed]
        rfl
      · rw [if_neg elapsed, if_neg elapsed]
        rfl

lemma resume_sweepExpired_of_kept {s : Store} (keyed : s.Keyed) :
    ∃ T, sweepExpired.exec σ s =
        ⟨.ok (((s.settlementsIn [.waitingForDeposit]).filter (isOver s σ.now)).map Settlement.quoteHash), T⟩ ∧
      T.store = s.setAll (((s.settlementsIn [.waitingForDeposit]).filter (isOver s σ.now)).map lapsed) ∧ T.events = [] := by
  have looked : (mapError (fun e => e.within .expireQuote) (settlementsIn [.waitingForDeposit])).resume σ (start s) =
      ⟨.ok (s.settlementsIn [.waitingForDeposit]), (start s).noting (.access (.settlementsIn [.waitingForDeposit]))⟩ :=
    resume_mapError_of_ok (resume_access_eq_ok_iff.mpr ⟨kept _ _, rfl, rfl⟩)
  have mem (u : Settlement) (hu : u ∈ s.settlementsIn [.waitingForDeposit]) :
      s.settlements[u.quoteHash]? = some u ∧ u.state = .waitingForDeposit := by
    simpa using (Store.mem_settlementsIn_iff keyed).mp hu
  obtain ⟨found, T, swept, hashes, store, events⟩ := resume_mapM_sweepOne_of_kept kept
    (t := (start s).noting (.access (.settlementsIn [.waitingForDeposit]))) (s.settlementsIn [.waitingForDeposit])
    (fun u hu => (mem u hu).2) fun u hu => Store.mem_settlements_of_lookup (mem u hu).1
  refine ⟨T, ?_, store, events⟩
  rw [exec, sweepExpired, resume_bind_of_ok looked, resume_bind_of_ok swept, hashes]
  rfl

end

lemma mem_overdue_iff {s : Store} (keyed : s.Keyed) {now : Int} {hash : String} :
    hash ∈ ((s.settlementsIn [.waitingForDeposit]).filter (isOver s now)).map Settlement.quoteHash ↔ Due s now hash := by
  simp only [List.mem_map, List.mem_filter, Store.mem_settlementsIn_iff keyed, isOver, Option.any_eq_true,
    List.mem_singleton]
  constructor
  · rintro ⟨t, ⟨⟨stored, state⟩, quote, quoted, expired⟩, rfl⟩
    exact ⟨t, quote, stored, state, quoted, by simpa [Quote.isExpiredAt, Quote.expireTime] using expired⟩
  · rintro ⟨t, quote, stored, state, quoted, expired⟩
    obtain rfl := keyed hash t stored
    exact ⟨t, ⟨⟨stored, state⟩, quote, quoted, by simpa [Quote.isExpiredAt, Quote.expireTime] using expired⟩, rfl⟩

lemma sorted_overdue {s : Store} (keyed : s.Keyed) (now : Int) :
    SortedBy Settlement.quoteHash ((s.settlementsIn [.waitingForDeposit]).filter (isOver s now)) :=
  (s.sortedBy_settlementsWhere keyed _).filter _

lemma sweeps_of_kept {σ : Surroundings} (kept : ∀ calls a, (σ.peers calls).outage a = none) {s : Store}
    (keyed : s.Keyed) : ∃ hashes : List String, hashes.Pairwise (· < ·) ∧ (∀ hash, hash ∈ hashes ↔ Due s σ.now hash) ∧
      Sweeps s hashes (sweepExpired.exec σ s) := by
  obtain ⟨T, swept, store, events⟩ := resume_sweepExpired_of_kept kept keyed
  have sorted := sorted_overdue keyed σ.now
  refine ⟨_, List.pairwise_map.mpr sorted, fun hash => mem_overdue_iff keyed, by rw [swept], fun hash => ?_, ?_, ?_⟩
  · rw [swept, store]
    split
    · rename_i listed
      obtain ⟨t, mem, rfl⟩ := List.mem_map.mp listed
      have stored := ((Store.mem_settlementsIn_iff keyed).mp (List.mem_of_mem_filter mem)).1
      have distinct : ((((s.settlementsIn [.waitingForDeposit]).filter (isOver s σ.now)).map lapsed).map
          Settlement.quoteHash).Nodup := by
        rw [List.map_map]
        exact sorted.nodup_map
      rw [stored]
      exact s.lookup_setAll_of_mem distinct (List.mem_map_of_mem mem)
    · rename_i unlisted
      refine s.lookup_setAll_of_ne fun t mem same => unlisted ?_
      obtain ⟨u, hu, rfl⟩ := List.mem_map.mp mem
      exact List.mem_map.mpr ⟨u, hu, same⟩
  · rw [swept, store]
    exact s.alike_setAll _
  · rw [swept]
    exact events

namespace Sweeps

variable {s : Store} {now : Int} {hashes : List String} {o : Outcome (List String)} (sweeps : Sweeps s hashes o)

include sweeps

lemma keyed (keyed : s.Keyed) : o.trace.store.Keyed := by
  intro hash t stored
  rw [sweeps.settlements] at stored
  split at stored
  · obtain ⟨u, before, rfl⟩ := Option.map_eq_some_iff.mp stored
    exact keyed hash u before
  · exact keyed hash t stored

lemma not_due (mem : ∀ hash, hash ∈ hashes ↔ Due s now hash) (hash : String) : ¬ Due o.trace.store now hash := by
  rintro ⟨t, quote, stored, state, quoted, expired⟩
  rw [sweeps.alike.quotes] at quoted
  rw [sweeps.settlements] at stored
  split at stored
  · obtain ⟨u, -, rfl⟩ := Option.map_eq_some_iff.mp stored
    cases state
  · rename_i spared
    exact spared ((mem hash).mpr ⟨t, quote, stored, state, quoted, expired⟩)

lemma spares (none : hashes = []) : o.result = .ok [] ∧ o.trace.Spares s := by
  subst none
  refine ⟨sweeps.result, sweeps.alike.eq_of_lookup fun hash => ?_, sweeps.events⟩
  rw [sweeps.settlements, if_neg List.not_mem_nil]

end Sweeps

end Expiry

open Expiry in
theorem sweep_ends_what_is_due {s : Store} (keyed : s.Keyed) {σ : Surroundings}
    (kept : ∀ calls a, (σ.peers calls).outage a = none) :
    ∃ hashes : List String, hashes.Pairwise (· < ·) ∧ (∀ hash, hash ∈ hashes ↔ Due s σ.now hash) ∧
      Sweeps s hashes (sweepExpired.exec σ s) ∧
      ∀ σ' : Surroundings, σ'.now = σ.now → (∀ calls a, (σ'.peers calls).outage a = none) →
        (sweepExpired.exec σ' (sweepExpired.exec σ s).trace.store).result = .ok [] ∧
          (sweepExpired.exec σ' (sweepExpired.exec σ s).trace.store).trace.Spares (sweepExpired.exec σ s).trace.store := by
  obtain ⟨hashes, sorted, mem, sweeps⟩ := sweeps_of_kept kept keyed
  refine ⟨hashes, sorted, mem, sweeps, fun σ' now kept' => ?_⟩
  obtain ⟨rest, -, mem', sweeps'⟩ := sweeps_of_kept kept' (sweeps.keyed keyed)
  refine sweeps'.spares (List.eq_nil_iff_forall_not_mem.mpr fun hash listed => ?_)
  exact sweeps.not_due mem hash (now ▸ (mem' hash).mp listed)

namespace Sample

def sweeping : Surroundings := { paying with now := 151 }

def unfunded (hash : String) : Settlement := { settlement .waitingForDeposit with quoteHash := hash }

def unpriced (hash : String) (quote : Quote) : PricedQuote := ⟨hash, quote, ⟨0, .zero false, 0⟩⟩

def overdue : Store :=
  ((((Store.empty.putQuote (unpriced "zz" quote)).putQuote (unpriced "aa" quote)).setSettlement (unfunded "zz")).setSettlement
    (unfunded "mm")).setSettlement (unfunded "aa")

lemma keyed_overdue : overdue.Keyed :=
  ((((keyed_empty.putQuote _).putQuote _).setSettlement _).setSettlement _).setSettlement _

end Sample

open Expiry Sample in
theorem overdue_settlements_lapse : overdue.Keyed ∧ Sweeps overdue ["aa", "zz"] (sweepExpired.exec sweeping overdue) ∧
    (sweepExpired.exec sweeping (sweepExpired.exec sweeping overdue).trace.store).result = .ok [] ∧
      (sweepExpired.exec sweeping (sweepExpired.exec sweeping overdue).trace.store).trace.Spares
        (sweepExpired.exec sweeping overdue).trace.store := by
  obtain ⟨hashes, -, -, sweeps, again⟩ := sweep_ends_what_is_due keyed_overdue (σ := sweeping) fun _ _ => rfl
  have told : (sweepExpired.exec sweeping overdue).result.toOption = some ["aa", "zz"] := by decide
  rw [sweeps.result] at told
  cases told
  exact ⟨keyed_overdue, sweeps, again sweeping rfl fun _ _ => rfl⟩

end Flyover
