import Flyover.Proofs.Endings.Quoting
import Flyover.Proofs.Figures
import Flyover.Proofs.Progress
import Flyover.Proofs.Recommendations

/-! A peg-in of which everybody does their part settles, from the quote to the registration. -/

namespace Flyover

open Run Trace

lemma Store.setSettlement_setSettlement (s : Store) (u v : Settlement) (same : u.quoteHash = v.quoteHash) :
    (s.setSettlement u).setSettlement v = s.setSettlement v := by
  have settlements : ((s.setSettlement u).setSettlement v).settlements = (s.setSettlement v).settlements := by
    apply Std.ExtTreeMap.ext_getElem?
    intro hash
    rw [lookup_setSettlement, lookup_setSettlement, lookup_setSettlement, same]
    split <;> rfl
  exact congrArg (fun m => { s with settlements := m }) settlements

def givenStored (f : Settlement → Run Settlement) (hash : String) (σ : Surroundings) (s : Store) : Outcome Settlement :=
  match s.settlements[hash]? with
  | some u => (f u).exec σ s
  | none => ⟨.error (.failed .quoteNotAccepted), .start s⟩

lemma givenStored_of_found {f : Settlement → Run Settlement} {hash : String} {σ : Surroundings} {s : Store} {u : Settlement}
    (found : s.settlements[hash]? = some u) : givenStored f hash σ s = (f u).exec σ s := by
  rw [givenStored, found]

structure Pegin where
  hash : String
  txid : Txid
  accepting : Surroundings
  observing : Surroundings
  paying : Surroundings
  registering : Surroundings

namespace Pegin

variable (p : Pegin) (s : Store)

def accepted : Outcome Acceptance := (acceptQuote p.hash none).exec p.accepting s

def observed : Outcome Unit := (observeDeposit p.hash p.txid).exec p.observing (p.accepted s).trace.store

def paid : Outcome Settlement := givenStored callForUser p.hash p.paying (p.observed s).trace.store

def registered : Outcome Settlement := givenStored registerPegin p.hash p.registering (p.paid s).trace.store

def after : Store := (p.registered s).trace.store

def events : List Event :=
  (p.accepted s).trace.events ++ (p.observed s).trace.events ++ (p.paid s).trace.events ++ (p.registered s).trace.events

/-- Nobody fails in any of the steps, the quote is in time, and the balances, the deposit and its confirmations suffice. -/
structure Favourable (quote : Quote) : Prop where
  funded : Acceptance.Funded quote p.accepting s (p.accepted s).trace
  served : (p.observed s).trace.Served p.observing
  deposited : ∀ a, (p.accepted s).result = .ok a →
    Payout.Deposited quote a.depositAddress p.txid p.paying (p.paid s).trace
  matured : Registration.Matured p.txid p.registering (p.registered s).trace

def paidOut (u : Settlement) (call : Receipt) : Settlement :=
  { u with
    state := .callForUserSucceeded
    deposit := some p.txid
    callForUser := ⟨some call.txHash, call.gasUsed, call.gasPrice⟩ }

def settled (u : Settlement) (call registration : Receipt) : Settlement :=
  { p.paidOut u call with
    state := .registerPeginSucceeded
    registerPegin := ⟨some registration.txHash, registration.gasUsed, registration.gasPrice⟩ }

/-- Every step succeeds: the settlement `u` that is entered ends as registered, with what the two transactions have cost,
and the three events tell of it. -/
structure Course (quote : Quote) (a : Acceptance) (u : Settlement) (call registration : Receipt) : Prop where
  accepted : (p.accepted s).result = .ok a
  entered : ∃ liquidity,
    u = ⟨p.hash, a.depositAddress, a.signature, liquidity, .waitingForDeposit, none, .none, .none, none⟩
  locked : ∃ price : Wei, ⟨.gasPrice, .ok price⟩ ∈ (p.accepted s).trace.replies p.accepting ∧
    u.requiredLiquidity.toNat = (quote.gasLimit.toNat + 180000) * price.toNat + quote.value.toNat
  observed : (p.observed s).result = .ok ()
  paid : (p.paid s).result = .ok (p.paidOut u call)
  called : ∃ amount gas, ⟨.callForUser amount gas quote, .ok call⟩ ∈ (p.paid s).trace.replies p.paying
  registered : (p.registered s).result = .ok (p.settled u call registration)
  submitted : ∃ proof, ⟨.registerPegin proof quote, .ok registration⟩ ∈ (p.registered s).trace.replies p.registering
  store : p.after s = s.setSettlement (p.settled u call registration)
  events : p.events s = [.accepted quote u, .calledForUser quote (p.paidOut u call) none,
    .registeredPegin (p.settled u call registration) none]

variable {p s} {quote : Quote} {total : Wei} {u : Settlement} {call : Receipt} {signature : Bytes}

lemma observed_of_accepted (entered : (p.accepted s).trace.store = s.setSettlement u) (key : u.quoteHash = p.hash)
    (state : u.state = .waitingForDeposit) (served : (p.observed s).trace.Served p.observing) :
    ∃ T, p.observed s = ⟨.ok (), T⟩ ∧ T.store = s.setSettlement (u.observed p.txid) ∧ T.events = [] := by
  have found : (p.accepted s).trace.store.settlements[p.hash]? = some u := by
    rw [entered, ← key, Store.lookup_setSettlement_self]
  obtain ⟨T, observed, stored, unheard⟩ := Observation.observeDeposit_succeeds found key state served
  rw [entered, Store.setSettlement_setSettlement s u (u.observed p.txid) rfl] at stored
  exact ⟨T, observed, stored, unheard⟩

lemma paid_of_observed (entered : (p.observed s).trace.store = s.setSettlement (u.observed p.txid))
    (key : u.quoteHash = p.hash) (quoted : s.quotes[p.hash]? = some quote) (demanded : quote.total = .ok total)
    (deposited : Payout.Deposited quote u.depositAddress p.txid p.paying (p.paid s).trace) :
    ∃ T amount gas call, p.paid s = ⟨.ok (p.paidOut u call), T⟩ ∧
      ⟨.callForUser amount gas quote, .ok call⟩ ∈ T.replies p.paying ∧
        T.store = s.setSettlement (p.paidOut u call) ∧ T.events = [.calledForUser quote (p.paidOut u call) none] := by
  have found := s.lookup_setSettlement_self (u.observed p.txid)
  have given : p.paid s = (callForUser (u.observed p.txid)).exec p.paying (s.setSettlement (u.observed p.txid)) := by
    rw [Pegin.paid, entered, ← key]
    exact givenStored_of_found found
  rw [given] at deposited ⊢
  rw [← key] at quoted
  obtain ⟨T, amount, gas, call, paid, called, settles⟩ :=
    Payout.callForUser_succeeds found rfl rfl quoted demanded deposited
  refine ⟨T, amount, gas, call, paid, called, ?_, settles.events⟩
  rw [← Store.setSettlement_setSettlement s (u.observed p.txid) (p.paidOut u call) rfl]
  exact settles.store

lemma registered_of_paid (entered : (p.paid s).trace.store = s.setSettlement (p.paidOut u call))
    (key : u.quoteHash = p.hash) (quoted : s.quotes[p.hash]? = some quote) (signed : u.signature = Hex.encode signature)
    (matured : Registration.Matured p.txid p.registering (p.registered s).trace) :
    ∃ T proof registration, p.registered s = ⟨.ok (p.settled u call registration), T⟩ ∧
      ⟨.registerPegin proof quote, .ok registration⟩ ∈ T.replies p.registering ∧
        T.store = s.setSettlement (p.settled u call registration) ∧
          T.events = [.registeredPegin (p.settled u call registration) none] := by
  have found := s.lookup_setSettlement_self (p.paidOut u call)
  have given : p.registered s = (registerPegin (p.paidOut u call)).exec p.registering (s.setSettlement (p.paidOut u call)) := by
    rw [Pegin.registered, entered, ← key]
    exact givenStored_of_found found
  rw [given] at matured ⊢
  rw [← key] at quoted
  obtain ⟨T, proof, registration, registered, submitted, settles⟩ :=
    Registration.registerPegin_succeeds found rfl rfl signed quoted matured
  refine ⟨T, proof, registration, registered, submitted, ?_, settles.events⟩
  rw [← Store.setSettlement_setSettlement s (p.paidOut u call) (p.settled u call registration) rfl]
  exact settles.store

lemma exists_course (digits : Hex.Digits 64 p.hash.toList) (quoted : s.quotes[p.hash]? = some quote)
    (demanded : quote.total = .ok total) (fresh : s.settlements[p.hash]? = none) (favourable : p.Favourable s quote) :
    ∃ a u call registration, p.Course s quote a u call registration := by
  obtain ⟨funded, served, deposited, matured⟩ := favourable
  obtain ⟨a, u, accepted, entered, accepts, ⟨liquidity, terms⟩, locked, ⟨bytes, signed⟩⟩ :=
    Acceptance.acceptQuote_succeeds digits quoted fresh funded
  have address : u.depositAddress = a.depositAddress := by rw [terms]
  have signature : u.signature = Hex.encode bytes := by rw [terms, ← signed]
  have key : u.quoteHash = p.hash := by rw [terms]
  obtain ⟨T₂, observed, seen, unheard⟩ := observed_of_accepted entered key (by rw [terms]) served
  obtain ⟨T₃, amount, gas, call, paid, called, paidStore, paidEvents⟩ := paid_of_observed (by rw [observed, seen]) key
    quoted demanded (address ▸ deposited a accepted)
  obtain ⟨T₄, proof, registration, registered, submitted, store, events⟩ := registered_of_paid (by rw [paid, paidStore])
    key quoted signature matured
  refine ⟨a, u, call, registration, accepted, ⟨liquidity, terms⟩, locked, ?_, ?_, ⟨amount, gas, ?_⟩, ?_, ⟨proof, ?_⟩, ?_, ?_⟩
  · rw [observed]
  · rw [paid]
  · rwa [paid]
  · rw [registered]
  · rwa [registered]
  · rwa [after, registered]
  · have acceptedEvents : (p.accepted s).trace.events = [.accepted quote u] := accepts
    rw [Pegin.events, acceptedEvents, observed, paid, registered, unheard, paidEvents, events]
    rfl

def Reported (p : Pegin) (s : Store) (quote : Quote) : Prop :=
  ∀ σ start stop, quote.Within start stop → ((peginReport start stop).exec σ (p.after s)).trace.Served σ →
    let settled := (p.after s).settledWithin start stop
    Report.Fits (settled.map Prod.snd) → settled.count (p.hash, quote) = 1 ∧
      ∃ r, ((peginReport start stop).exec σ (p.after s)).result = .ok r ∧ Report.Figures (settled.map Prod.snd) r

lemma reported_of_course {a : Acceptance} {registration : Receipt} (quoted : s.quotes[p.hash]? = some quote)
    (course : p.Course s quote a u call registration) : p.Reported s quote := by
  obtain ⟨liquidity, terms⟩ := course.entered
  have key : (p.settled u call registration).quoteHash = p.hash := by
    rw [terms]
    rfl
  have stored : (p.after s).settlements[p.hash]? = some (p.settled u call registration) := by
    rw [course.store, ← key, Store.lookup_setSettlement_self]
  have kept : (p.after s).quotes[p.hash]? = some quote := by
    rw [course.store]
    exact quoted
  intro σ start stop within served settled fits
  obtain ⟨r, T, reported, figures, -⟩ := Report.peginReport_succeeds fits served
  exact ⟨Store.count_settledWithin stored key rfl kept within, r, by rw [reported], figures⟩

end Pegin

open Pegin in
/-- A quote that is priced, and is kept until it is accepted, settles if nobody fails it, and it is reported. -/
theorem pegin_settles {request : QuoteRequest} {pricing : Pricing} {σ : Surroundings} {s₀ s : Store} {p : Pegin} {quote : Quote}
    (quoted : ((getQuote request).exec σ s₀).result = .ok ⟨p.hash, quote, pricing⟩) (digits : Hex.Digits 64 p.hash.toList)
    (kept : s.quotes[p.hash]? = some quote) (fresh : s.settlements[p.hash]? = none) (favourable : p.Favourable s quote) :
    (∃ a u call registration, p.Course s quote a u call registration) ∧ p.Reported s quote := by
  obtain ⟨t, x, l, total, drafts⟩ := Quoting.drafts_of_getQuote_eq_ok quoted
  obtain ⟨a, u, call, registration, course⟩ := exists_course digits kept drafts.total fresh favourable
  exact ⟨⟨a, u, call, registration, course⟩, reported_of_course kept course⟩

namespace Sample

def depositors : Peers := { peers with
  answer
    | .deposit _ => .ok ⟨65536, (∅ : Std.ExtTreeMap String (List Wei)).insert "" [.ofUInt64 1000000]⟩
    | q => peers.answer q }

def settling : Surroundings := ⟨⟨fun _ => depositors, 1, 1⟩, settings, fun _ => false⟩

def priced : PricedQuote := ((getQuote request).exec settling .empty).result.toOption.get (by decide +kernel)

def pegin : Pegin := ⟨hash, txid, settling, settling, settling, settling⟩

def pricedStore : Store := Store.empty.putQuote priced

lemma terms_priced : priced.hash = pegin.hash ∧ priced.quote.agreedAt.toNat + priced.quote.timeForDeposit.toNat = 3601 ∧
    priced.quote.gasLimit.toNat = 21000 ∧ priced.quote.value.toNat = 500 ∧
      priced.quote.value.toNat + priced.quote.callFee.toNat + priced.quote.productFee.toNat +
        priced.quote.gasFee.toNat = 21500 := by
  decide +kernel

lemma priced_of_request : ((getQuote request).exec settling .empty).result = .ok ⟨pegin.hash, priced.quote, priced.pricing⟩ := by
  have result : ((getQuote request).exec settling .empty).result = .ok priced :=
    eq_ok_of_toOption_eq_some (Option.some_get _).symm
  rw [result, ← terms_priced.1]

lemma quoted_pricedStore : pricedStore.quotes[pegin.hash]? = some priced.quote := by
  rw [← terms_priced.1]
  exact Std.ExtTreeMap.getElem?_insert_self

lemma fresh_pricedStore : pricedStore.settlements[pegin.hash]? = none := Std.ExtTreeMap.getElem?_empty

lemma inTime_priced : settling.now ≤ priced.quote.agreedAt.toNat + priced.quote.timeForDeposit.toNat := by
  obtain ⟨-, deadline, -⟩ := terms_priced
  have now : settling.now = 1 := rfl
  omega

lemma served_settling (t : Trace) : t.Served settling := by
  rintro before (q | _ | a) -
  · cases q <;> exact ⟨_, rfl⟩
  · trivial
  · rfl

lemma answer_of_mem_replies {t : Trace} {q : Question} {a : q.Answer} (h : ⟨q, .ok a⟩ ∈ t.replies settling) :
    depositors.answer q = .ok a := by
  obtain ⟨calls, answered⟩ := exists_answer_of_mem_replies _ _ _ h
  exact answered.symm

lemma funded_pegin : Acceptance.Funded priced.quote settling pricedStore (pegin.accepted pricedStore).trace := by
  obtain ⟨-, -, gasLimit, value, -⟩ := terms_priced
  refine ⟨served_settling _, rfl, inTime_priced, by decide, fun price told => ?_, fun price x y told toldX toldY => ?_⟩
  · cases answer_of_mem_replies told
    rw [gasLimit, value]
    decide
  · cases answer_of_mem_replies told
    cases answer_of_mem_replies toldX
    cases answer_of_mem_replies toldY
    rw [gasLimit, value]
    decide

lemma deposited_pegin : Payout.Deposited priced.quote "" txid settling (pegin.paid pricedStore).trace := by
  obtain ⟨-, -, -, value, total⟩ := terms_priced
  refine ⟨served_settling _, rfl, inTime_priced, fun deposit told => ?_, fun deposit told => ?_, fun deposit told => ?_,
    fun x y toldX toldY => ?_⟩
  · cases answer_of_mem_replies told
    exact Nat.le_of_lt priced.quote.confirmations.toNat_lt
  · cases answer_of_mem_replies told
    rw [total]
    decide +kernel
  · cases answer_of_mem_replies told
    decide +kernel
  · cases answer_of_mem_replies toldX
    cases answer_of_mem_replies toldY
    rw [value]
    decide

lemma matured_pegin : Registration.Matured txid settling (pegin.registered pricedStore).trace where
  served := served_settling _
  free := rfl
  confirmed deposit required toldDeposit toldRequired := by
    cases answer_of_mem_replies toldDeposit
    cases answer_of_mem_replies toldRequired
    decide +kernel

lemma favourable_pegin : pegin.Favourable pricedStore priced.quote where
  funded := funded_pegin
  served := served_settling _
  deposited a accepted := by
    have address : (pegin.accepted pricedStore).result.toOption.map (fun a => a.depositAddress) = some "" := by decide +kernel
    rw [accepted] at address
    have same : a.depositAddress = "" := Option.some.inj address
    rw [same]
    exact deposited_pegin
  matured := matured_pegin

end Sample

open Sample in
theorem sample_pegin_settles :
    (∃ a u, pegin.Course pricedStore priced.quote a u ⟨"ca11", 61000, .ofUInt64 2⟩ ⟨"de90", 75000, .ofUInt64 3⟩) ∧
      pegin.Reported pricedStore priced.quote := by
  obtain ⟨⟨a, u, call, registration, course⟩, reported⟩ :=
    pegin_settles priced_of_request (by decide +kernel) quoted_pricedStore fresh_pricedStore favourable_pegin
  obtain ⟨_, _, called⟩ := course.called
  obtain ⟨_, submitted⟩ := course.submitted
  have told : call = calling := (Except.ok.inj (answer_of_mem_replies called)).symm
  have heard : registration = Sample.registration := (Except.ok.inj (answer_of_mem_replies submitted)).symm
  subst told heard
  exact ⟨⟨a, u, course⟩, reported⟩

end Flyover
