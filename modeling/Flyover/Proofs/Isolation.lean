import Flyover.Proofs.Endings.Expiry
import Flyover.Proofs.Endings.Local
import Flyover.Proofs.FundedPayouts
import Flyover.Proofs.Endings.Registration

/-! Settlements of different quotes do not get in each other's way. -/

namespace Flyover

open Run

lemma Settlement.quoteHash_of_moveTo_eq_ok {s t : Settlement} {state : Settlement.State} (h : s.moveTo state = .ok t) :
    t.quoteHash = s.quoteHash := by
  rw [moveTo] at h
  split at h
  · cases h
    rfl
  · cases h

lemma Run.Yields.eq_ok_of_lift {α : Type} {h : String} {r : Except Error α} {a : α} (yields : Yields h (liftM r) a) :
    r = .ok a := by
  obtain ⟨σ, t, t', -, resumed⟩ := yields
  exact (resume_lift_eq_ok_iff.mp resumed).1

namespace Payout

lemma refuse_local (quote : Quote) (given : Settlement) (error : Error) :
    (refuse quote given error).Local given.quoteHash := by
  refine .bind (.lift _) fun closed yields => ?_
  refine .bind (.publish _) fun _ _ => ?_
  have key := Settlement.quoteHash_of_moveTo_eq_ok yields.eq_ok_of_lift
  refine .bind (.attempt (.updateSettlement key)) fun written _ => ?_
  cases written
  · exact .fail _
  · exact .fail _

lemma examine_local (given : Settlement) : (examine given).Local given.quoteHash := by
  refine .bind (.check _ _) fun _ _ => ?_
  refine .bind (.require _ _) fun txid _ => ?_
  refine .bind (.access fun agree => agree.quote) fun found _ => ?_
  refine .bind (.require _ _) fun quote _ => ?_
  refine .bind .now fun now _ => ?_
  refine .bind (.check _ _) fun _ _ => ?_
  refine .bind (.ask _) fun deposit _ => ?_
  refine .bind (.check _ _) fun _ _ => ?_
  refine .bind (.lift _) fun required _ => ?_
  exact .bind (.lift _) fun sent _ => .pure _

lemma checkDeposit_local (given : Settlement) : (checkDeposit given).Local given.quoteHash := by
  rw [checkDeposit_eq]
  refine .bind (examine_local given) fun f _ => ?_
  exact .ite (.bind (refuse_local _ _ _) fun _ _ => .pure _) (.pure _)

lemma amountToSend_local (h : String) (quote : Quote) : (amountToSend quote).Local h := by
  refine .bind .settings fun settings _ => ?_
  refine .bind (.ask _) fun balance _ => .ite (.pure _) ?_
  refine .bind (.ask _) fun held _ => ?_
  exact .ite (.bind (.fail _) fun _ _ => .pure _) (.pure _)

lemma allot_local (h : String) (quote : Quote) : (allot h quote).Local h := by
  refine .bind (.acquire _) fun _ _ => ?_
  refine .bind (.settlementIn _) fun stored _ => ?_
  exact .bind (amountToSend_local h quote) fun amount _ => .pure _

lemma order_local {h : String} {stored : Settlement} (key : stored.quoteHash = h)
    (state : stored.state = .waitingForDepositConfirmations) (quote : Quote) (amount : Wei) :
    (order quote stored amount).Local h := by
  refine .bind (.attempt (.ask _)) fun answer _ => ?_
  rw [settle_eq state answer, liftM_ok, pure_bind]
  exact .record ((quoteHash_settled stored answer).trans key) _ _

lemma pay_local (given : Settlement) : (pay given).Local given.quoteHash := by
  rw [pay_eq]
  refine .bind (checkDeposit_local given) fun quote _ => ?_
  refine .bind (allot_local _ quote) fun a yields => ?_
  obtain ⟨σ, t, t', keyed, resumed⟩ := yields
  obtain ⟨l, allotted⟩ := allotted_of_resume_allot_eq_ok resumed
  exact order_local (keyed _ allotted.found) allotted.waiting quote a.2

end Payout

namespace Registration

lemma prove_local (given : Settlement) : (prove given).Local given.quoteHash := by
  refine .bind (.check _ _) fun _ _ => ?_
  refine .bind (.require _ _) fun txid _ => ?_
  refine .bind (.access fun agree => agree.quote) fun found _ => ?_
  refine .bind (.require _ _) fun quote _ => ?_
  refine .bind (.ask _) fun deposit _ => ?_
  refine .bind (.ask _) fun required _ => ?_
  refine .bind (.check _ _) fun _ _ => ?_
  refine .bind (.lift _) fun signature _ => ?_
  refine .bind (.ask _) fun transaction _ => ?_
  refine .bind (.ask _) fun merkleTree _ => ?_
  exact .bind (.ask _) fun height _ => .pure _

lemma ready_local (given : Settlement) : (ready given).Local given.quoteHash := by
  refine .bind (prove_local given) fun proved _ => ?_
  refine .bind (.acquire _) fun _ _ => ?_
  exact .bind (.settlementIn _) fun stored _ => .pure _

lemma submit_local {h : String} {stored : Settlement} (key : stored.quoteHash = h)
    (state : stored.state = .callForUserSucceeded) (quote : Quote) (proof : DepositProof) :
    (submit quote proof stored).Local h := by
  refine .bind (.attempt (.ask _)) fun answer _ => ?_
  cases lagging : isLagging answer with
  | true =>
    obtain ⟨e, rfl, he⟩ := exists_of_isLagging lagging
    rw [settle_of_isWaitingForBridge stored he]
    exact .bind (.lift _) fun _ yields => nomatch yields.eq_ok_of_lift
  | false =>
    rw [settle_eq state lagging, liftM_ok, pure_bind]
    exact .record ((quoteHash_settled stored answer).trans key) _ _

lemma register_local (given : Settlement) : (register given).Local given.quoteHash := by
  rw [register_eq]
  refine .bind (ready_local given) fun r yields => ?_
  obtain ⟨σ, t, t', keyed, resumed⟩ := yields
  obtain ⟨l, ready⟩ := ready_of_resume_ready_eq_ok resumed
  exact submit_local (keyed _ ready.found) ready.state _ _

end Registration

lemma Expiry.close_local (given : Settlement) : (close given).Local given.quoteHash := by
  refine .ite (.pure given) ?_
  refine .bind (.check _ _) fun _ _ => ?_
  refine .bind (.access fun agree => agree.quote) fun found _ => ?_
  refine .bind (.require _ _) fun quote _ => ?_
  refine .bind .now fun now _ => ?_
  refine .bind (.check _ _) fun _ _ => ?_
  refine .bind (.lift _) fun closed yields => ?_
  have key := Settlement.quoteHash_of_moveTo_eq_ok yields.eq_ok_of_lift
  exact .bind (.updateSettlement key) fun _ _ => .pure closed

inductive Treatment
  | callForUser
  | registerPegin
  | expireQuote

namespace Treatment

def run : Treatment → Settlement → Run Settlement
  | callForUser => Flyover.callForUser
  | registerPegin => Flyover.registerPegin
  | expireQuote => Flyover.expireQuote

lemma run_local (a : Treatment) (given : Settlement) : (a.run given).Local given.quoteHash := by
  cases a with
  | callForUser => exact .mapError (Payout.pay_local given)
  | registerPegin => exact .mapError (Registration.register_local given)
  | expireQuote => exact .mapError (Expiry.close_local given)

end Treatment

structure Store.AlikeBut (h : String) (s s' : Store) : Prop where
  alike : s.Alike s'
  others : ∀ other, other ≠ h → s'.settlements[other]? = s.settlements[other]?

structure Outcome.Same {α : Type} (o o' : Outcome α) : Prop where
  result : o'.result = o.result
  calls : o'.trace.calls = o.trace.calls
  events : o'.trace.events = o.trace.events

/-- One run before the other or after it, each of them comes to the same, and they leave the same store. -/
structure Commute {α β : Type} (x : Run α) (y : Run β) (σ σ' : Surroundings) (s : Store) : Prop where
  first : (x.exec σ s).Same (x.exec σ (y.exec σ' s).trace.store)
  second : (y.exec σ' s).Same (y.exec σ' (x.exec σ s).trace.store)
  store : (y.exec σ' (x.exec σ s).trace.store).trace.store = (x.exec σ (y.exec σ' s).trace.store).trace.store

section

variable {α β : Type} {h h' : String} {x : Run α} {y : Run β} {s : Store}

lemma Run.Local.exec {s' : Store} (hx : Local h x) (σ : Surroundings) (agree : Store.Agree h s s') :
    ∃ (l : List Settlement) (r : Except Halt α) (cs : List Call) (es : List Event), (∀ t ∈ l, t.quoteHash = h) ∧
      x.exec σ s = ⟨r, ⟨s.setAll l, cs, es⟩⟩ ∧ x.exec σ s' = ⟨r, ⟨s'.setAll l, cs, es⟩⟩ :=
  hx σ s s' [] [] agree

lemma Run.Local.alikeBut (hx : Local h x) (keyed : s.Keyed) (σ : Surroundings) : s.AlikeBut h (x.exec σ s).trace.store := by
  obtain ⟨l, r, cs, es, keys, hs, -⟩ := hx.exec σ ⟨rfl, rfl, keyed h⟩
  rw [hs]
  refine ⟨s.alike_setAll l, fun other hn => s.lookup_setAll_of_ne fun t ht => ?_⟩
  rw [keys t ht]
  exact hn.symm

lemma Run.Local.commute (hx : Local h x) (hy : Local h' y) (keyed : s.Keyed) (apart : h ≠ h') (σ σ' : Surroundings) :
    Commute x y σ σ' s := by
  obtain ⟨m, r', cs', es', keys', hm, -⟩ := hy.exec σ' ⟨rfl, rfl, keyed h'⟩
  have agree : Store.Agree h s (s.setAll m) := Store.agree_setAll (keyed h) fun t ht => keys' t ht ▸ apart.symm
  obtain ⟨l, r, cs, es, keys, hl, hl'⟩ := hx.exec σ agree
  have agree' : Store.Agree h' s (s.setAll l) := Store.agree_setAll (keyed h') fun t ht => keys t ht ▸ apart
  obtain ⟨m', r'', cs'', es'', keys'', hm', hm''⟩ := hy.exec σ' agree'
  -- the two accounts of the second run on `s` are of one run
  obtain ⟨rfl, same⟩ := Outcome.mk.inj (hm.symm.trans hm')
  obtain ⟨stored, rfl, rfl⟩ := Trace.mk.inj same
  have comm := Store.setAll_comm s fun t ht u hu => (keys t ht).trans_ne (apart.trans_eq (keys'' u hu).symm)
  refine ⟨?_, ?_, ?_⟩
  · rw [hl, hm, hl']
    exact ⟨rfl, rfl, rfl⟩
  · rw [hm, hl, hm'']
    exact ⟨rfl, rfl, rfl⟩
  · rw [hl, hm, hl', hm'', comm, ← stored]

end

/-- A treatment touches the settlement that it is of and nothing else. Treatments of two settlements commute, as long as each
of them meets the same peers at the same time in either order. -/
theorem treatments_commute (s : Store) (keyed : s.Keyed) :
    (∀ (a : Treatment) (given : Settlement) (σ : Surroundings),
      s.AlikeBut given.quoteHash ((a.run given).exec σ s).trace.store) ∧
    ∀ (a b : Treatment) (given given' : Settlement) (σ σ' : Surroundings), given.quoteHash ≠ given'.quoteHash →
      Commute (a.run given) (b.run given') σ σ' s :=
  ⟨fun a given σ => (a.run_local given).alikeBut keyed σ,
    fun a b given given' σ σ' apart => (a.run_local given).commute (b.run_local given') keyed apart σ σ'⟩

namespace Sample

def neighbour : Settlement := { settlement .callForUserSucceeded with quoteHash := "bb" }

def neighbours : Store :=
  ((storing .waitingForDepositConfirmations).putQuote ⟨"bb", quote, ⟨0, .zero false, 0⟩⟩).setSettlement neighbour

lemma keyed_neighbours : neighbours.Keyed := by
  have stored : (storing .waitingForDepositConfirmations).Keyed :=
    keyed_empty.setSettlement (settlement .waitingForDepositConfirmations)
  exact (stored.putQuote _).setSettlement neighbour

end Sample

open Sample in
theorem sample_treatments_commute : neighbours.Keyed ∧
    Commute (Treatment.callForUser.run (settlement .waitingForDepositConfirmations)) (Treatment.registerPegin.run neighbour)
      paying paying neighbours ∧
    ∀ h ∈ ["aa", "bb"], ((Treatment.callForUser.run (settlement .waitingForDepositConfirmations)).exec paying
      ((Treatment.registerPegin.run neighbour).exec paying neighbours).trace.store).trace.store.settlements[h]?.map
        (fun t => t.state) = some (if h = "aa" then .callForUserSucceeded else .registerPeginSucceeded) := by
  obtain ⟨-, commute⟩ := treatments_commute neighbours keyed_neighbours
  have commute := commute .callForUser .registerPegin (settlement .waitingForDepositConfirmations) neighbour paying paying
    (by decide)
  exact ⟨keyed_neighbours, commute, by decide +kernel⟩

end Flyover
