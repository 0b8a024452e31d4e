import Flyover.Proofs.ErrorWalk
import Flyover.Proofs.FundedPayouts

/-! A payout comes to exactly one end, and what is stored, told and returned agrees with it. -/

namespace Flyover

def Trace.payouts (σ : Surroundings) (t : Trace) : List Reply := (t.replies σ).filter Reply.isPayout

namespace Payout

open Run Trace

/-- The deposit of the settlement is confirmed in time, and what it pays falls short of the total of the quote. -/
structure Underpays (given : Settlement) (σ : Surroundings) (s : Store) (quote : Quote) (sent required : Wei) : Prop where
  waiting : given.state = .waitingForDepositConfirmations
  kept : (σ.peers []).outage (.quote given.quoteHash) = none
  quoted : s.quotes[given.quoteHash]? = some quote
  unexpired : σ.now ≤ quote.agreedAt.toNat + quote.timeForDeposit.toNat
  total : required.toNat = quote.value.toNat + quote.callFee.toNat + quote.productFee.toNat + quote.gasFee.toNat
  paid : ∃ txid deposit, given.deposit = some txid ∧
    (σ.peers [.access (.quote given.quoteHash)]).answer (.deposit txid) = .ok deposit ∧
    quote.confirmations.toNat ≤ deposit.confirmations.toNat ∧
    sent.toNat = ((deposit.outputs.getD given.depositAddress []).map Wei.toNat).sum
  short : sent < required

inductive Course
  | succeeded (receipt : Receipt)
  | failed (e : Error)
  | underpaid (sent required : Wei)
  | halted

def failure (given : Settlement) (e : Error) : Error := .inUseCase .callForUser (.single "quoteHash" given.quoteHash) e

lemma recoverable_failure (given : Settlement) (sent required : Wei) (errors : List Error) :
    ¬ Error.Node (.nonRecoverable errors) (failure given (.insufficientAmount sent required)) := by
  rintro (_ | ⟨_, _, ⟨⟩⟩)

/-- What is returned, stored and told when a payout for the settlement `given` takes a course; `stored` is the settlement
that is stored before. -/
def Course.Describes (given stored : Settlement) (σ : Surroundings) (s : Store) (o : Outcome Settlement) : Course → Prop
  | succeeded receipt => ∃ value gas quote,
    let settled := { stored with
      state := .callForUserSucceeded
      callForUser := ⟨some receipt.txHash, receipt.gasUsed, receipt.gasPrice⟩ }
    o.trace.payouts σ = [⟨.callForUser value gas quote, .ok receipt⟩] ∧ o.result = .ok settled ∧
      o.trace.Settles s given.quoteHash settled (.calledForUser quote settled none)
  | failed e => ∃ value gas quote,
    let settled := { stored with
      state := .callForUserFailed
      callForUser := (e.nodes.findSome? Error.receipt?).elim stored.callForUser fun receipt =>
        ⟨some receipt.txHash, receipt.gasUsed, receipt.gasPrice⟩ }
    o.trace.payouts σ = [⟨.callForUser value gas quote, .error e⟩] ∧
      o.result = .error (.failed (failure given (.nonRecoverable [e]))) ∧
      o.trace.Settles s given.quoteHash settled (.calledForUser quote settled (some e.message))
  | underpaid sent required => ∃ quote,
    let settled := { given with state := .callForUserFailed }
    let e := Error.insufficientAmount sent required
    o.trace.payouts σ = [] ∧ Underpays given σ s quote sent required ∧
      o.result = .error (.failed (failure given e)) ∧ (∀ errors, ¬ Error.Node (.nonRecoverable errors) (failure given e)) ∧
      o.trace.Settles s given.quoteHash settled (.calledForUser quote settled (some e.message))
  | halted =>
    o.trace.payouts σ = [] ∧ (∀ quote sent required, ¬ Underpays given σ s quote sent required) ∧
      (∃ h, o.result = .error h ∧ ∀ e, h = .failed e → ∃ useCase args source, e = .inUseCase useCase args source) ∧
      o.trace.Spares s

lemma underpays_iff {given : Settlement} {σ : Surroundings} {s : Store} {f : Findings} :
    Underpays given σ s f.quote f.sent f.required ↔
      (∃ txid deposit, Weighs given σ (.start s) txid deposit f) ∧ f.sent < f.required := by
  constructor
  · rintro ⟨waiting, kept, quoted, unexpired, required, ⟨txid, deposit, seen, answered, confirmed, sent⟩, short⟩
    refine ⟨⟨txid, deposit, ⟨waiting, seen, kept, quoted, ?_, answered, ?_⟩, ?_, ?_⟩, short⟩
    · simpa [Quote.isExpiredAt, Quote.expireTime] using unexpired
    · simpa [UInt64.le_iff_toNat_le] using confirmed
    · exact Quote.total_eq_ok_iff.mpr required
    · exact Deposit.amountTo_eq_ok_iff.mpr sent
  · rintro ⟨⟨txid, deposit, ⟨waiting, seen, kept, quoted, unexpired, answered, confirmed⟩, total, amount⟩, short⟩
    refine ⟨waiting, kept, quoted, ?_, Quote.total_eq_ok_iff.mp total, ⟨txid, deposit, seen, answered, ?_, ?_⟩, short⟩
    · simpa [Quote.isExpiredAt, Quote.expireTime] using unexpired
    · simpa [UInt64.le_iff_toNat_le] using confirmed
    · exact Deposit.amountTo_eq_ok_iff.mp amount

lemma Course.Describes.unique {given stored : Settlement} {σ : Surroundings} {s : Store} {o : Outcome Settlement}
    {c d : Course} (hc : c.Describes given stored σ s o) (hd : d.Describes given stored σ s o) : c = d := by
  cases c <;> cases d <;> simp only [Describes] at hc hd <;> grind [failure]

def Course.ofAnswer : Except Error Receipt → Course
  | .ok receipt => succeeded receipt
  | .error e => failed e

lemma Course.Describes.eq_ofAnswer {given stored : Settlement} {σ : Surroundings} {s : Store} {o : Outcome Settlement}
    {course : Course} (h : course.Describes given stored σ s o) (answer : Except Error Receipt)
    (answers : ∀ calls value gas quote, (σ.peers calls).answer (.callForUser value gas quote) = answer)
    (ordered : o.trace.payouts σ ≠ []) : course = ofAnswer answer := by
  have told {value : Wei} {gas : UInt64} {quote : Quote} {a : Except Error Receipt}
      (paid : o.trace.payouts σ = [⟨.callForUser value gas quote, a⟩]) : answer = a := by
    obtain ⟨calls, answered⟩ := exists_answer_of_filter paid
    exact (answers calls value gas quote).symm.trans answered.symm
  cases course with
  | succeeded receipt =>
    obtain ⟨value, gas, quote, paid, -⟩ := h
    rw [told paid, ofAnswer]
  | failed e =>
    obtain ⟨value, gas, quote, paid, -⟩ := h
    rw [told paid, ofAnswer]
  | underpaid sent required =>
    obtain ⟨quote, unpaid, -⟩ := h
    exact absurd unpaid ordered
  | halted => exact absurd h.1 ordered

lemma payouts_eq_nil {σ : Surroundings} {s : Store} {t : Trace} (h : (start s).Asks t) : t.payouts σ = [] :=
  h.calls.filter_replies_eq_nil Reply.isPayout_of_isPassive

lemma resume_order_of_kept {quote : Quote} {stored : Settlement} {σ : Surroundings} {s : Store} {t : Trace} (amount : Wei)
    {answer : Except Error Receipt} (answered : (σ.peers t.calls).answer (.callForUser amount (gasLimit quote) quote) = answer)
    (inquired : (start s).Asks t) (waiting : stored.state = .waitingForDepositConfirmations)
    (mem : stored.quoteHash ∈ s.settlements)
    (kept : ∀ calls, (σ.peers calls).outage (.updateSettlement stored.quoteHash) = none) :
    ∃ t', (order quote stored amount).resume σ t = ⟨conclude (settled stored answer) (errorOf answer), t'⟩ ∧
      t'.payouts σ = [⟨.callForUser amount (gasLimit quote) quote, answer⟩] ∧
      t'.Settles s stored.quoteHash (settled stored answer)
        (.calledForUser quote (settled stored answer) ((errorOf answer).map fun e => e.message)) := by
  have asked := inquired.noting (.question (.callForUser amount (gasLimit quote) quote))
  rw [← quoteHash_settled stored answer] at mem kept ⊢
  rw [resume_order amount σ t waiting, answered]
  obtain ⟨t', resumed, replies, settles⟩ := resume_record_of_kept _ (errorOf answer) asked (kept _) mem
  refine ⟨t', resumed, ?_, settles⟩
  rw [payouts, replies, replies_noting_question, answered, List.filter_append, ← payouts, payouts_eq_nil inquired]
  rfl

lemma describes_answer {given stored : Settlement} {σ : Surroundings} {s : Store} {t t' : Trace} {x : Run Settlement}
    {value : Wei} {gas : UInt64} {quote : Quote} {answer : Except Error Receipt}
    (resumed : x.resume σ t = ⟨conclude (settled stored answer) (errorOf answer), t'⟩)
    (paid : t'.payouts σ = [⟨.callForUser value gas quote, answer⟩])
    (settles : t'.Settles s given.quoteHash (settled stored answer)
      (.calledForUser quote (settled stored answer) ((errorOf answer).map fun e => e.message))) :
    ∃ course : Course, course.Describes given stored σ s
      ((mapError (fun e => e.orWithin .callForUser (.single "quoteHash" given.quoteHash)) x).resume σ t) := by
  cases answer with
  | ok receipt =>
    rw [resume_mapError_of_ok resumed]
    exact ⟨.succeeded receipt, value, gas, quote, paid, rfl, settles⟩
  | error e =>
    rw [resume_mapError_of_failed resumed]
    rw [settled, Error.attemptedReceipt?_eq_findSome?] at settles
    exact ⟨.failed e, value, gas, quote, paid, rfl, settles⟩

end Payout

open Payout Run Trace in
theorem callForUser_takes_one_course {given stored : Settlement} {σ : Surroundings} {s : Store}
    (found : s.settlements[given.quoteHash]? = some stored) (key : stored.quoteHash = given.quoteHash)
    (kept : ∀ calls, (σ.peers calls).outage (.updateSettlement given.quoteHash) = none) :
    ∃! course : Course, course.Describes given stored σ s ((callForUser given).exec σ s) := by
  refine existsUnique_of_exists_of_unique ?_ fun c d => Course.Describes.unique
  have mem : given.quoteHash ∈ s.settlements := Store.mem_settlements_of_lookup found
  have concluded := pay_concludes given σ (.start s)
  generalize ho : (pay given).resume σ (.start s) = o at concluded
  rw [callForUser, exec]
  cases concluded with
  | @halted h t' inquired enough =>
    obtain ⟨h', resumed, within⟩ := resume_mapError_of_error ho
    have covered : ∀ quote sent required, ¬ Underpays given σ s quote sent required := by
      intro quote sent required underpays
      obtain ⟨⟨txid, deposit, weighs⟩, short⟩ := (underpays_iff (f := ⟨quote, required, sent⟩)).mp underpays
      exact enough txid deposit _ weighs short
    rw [resumed]
    refine ⟨.halted, payouts_eq_nil inquired, covered, ⟨h', rfl, fun e he => ?_⟩, inquired.spares⟩
    obtain ⟨e', rfl⟩ := within e he
    exact e'.exists_orWithin_eq _ _
  | @refused f txid deposit h t' weighs short refusal writes =>
    have inquired := (inquires_examined given txid (.start s)).asks
    have unpaid : t'.payouts σ = [] := by
      rw [payouts, writes.replies]
      exact payouts_eq_nil inquired
    rw [resume_refuse_of_kept f.quote _ weighs.1.waiting (kept _) mem] at refusal
    cases refusal
    rw [resume_mapError_of_failed ho]
    exact ⟨.underpaid f.sent f.required, f.quote, unpaid, underpays_iff.mpr ⟨⟨txid, deposit, weighs⟩, short⟩, rfl,
      recoverable_failure given _ _, settles_writing _ inquired rfl⟩
  | @ordered f txid deposit current amount l t' weighs enough allotted =>
    have inquired : (start s).Asks t' :=
      trans_of _ (inquires_examined given txid _).asks allotted.inquired
    cases allotted.found.symm.trans found
    rw [← key] at mem kept
    obtain ⟨t'', resumed, paid, settles⟩ := resume_order_of_kept amount rfl inquired allotted.waiting mem kept
    rw [key] at settles
    exact describes_answer (ho.trans resumed) paid settles

namespace Sample

def reverted : Error := .nonRecoverable [.noLiquidity, .inUseCase .report ∅ (.contractReverted "out of gas" (some calling))]

def reverting : Peers :=
  { payers with
    answer
      | .callForUser .. => .error reverted
      | q => payers.answer q }

def payingInVain : Surroundings := ⟨⟨fun _ => reverting, 150, 1⟩, settings, fun _ => false⟩

def waiting : Settlement := settlement .waitingForDepositConfirmations

def callFor (σ : Surroundings) : Outcome Settlement := (callForUser waiting).exec σ (storing .waitingForDepositConfirmations)

end Sample

open Payout Sample in
theorem sample_takes_one_course :
    let s := storing .waitingForDepositConfirmations
    s.settlements[waiting.quoteHash]? = some waiting ∧
      (∀ σ ∈ [paying, payingInVain], ∀ calls, (σ.peers calls).outage (.updateSettlement waiting.quoteHash) = none) ∧
      (Course.succeeded calling).Describes waiting waiting paying s (callFor paying) ∧
      (Course.failed reverted).Describes waiting waiting payingInVain s (callFor payingInVain) ∧
      ∀ σ ∈ [paying, payingInVain], ∃! course : Course, course.Describes waiting waiting σ s (callFor σ) := by
  have found := found_settlement .waitingForDepositConfirmations
  have kept : ∀ σ ∈ [paying, payingInVain], ∀ calls, (σ.peers calls).outage (.updateSettlement waiting.quoteHash) = none := by
    simp [paying, payingInVain, payers, reverting, peers]
  have courses (σ : Surroundings) (hσ : σ ∈ [paying, payingInVain]) := callForUser_takes_one_course found rfl (kept σ hσ)
  have ordered : ((callFor paying).trace.payouts paying).isEmpty = false ∧
      ((callFor payingInVain).trace.payouts payingInVain).isEmpty = false := by decide +kernel
  obtain ⟨course, succeeds, -⟩ := courses paying (by simp)
  obtain ⟨course', fails, -⟩ := courses payingInVain (by simp)
  refine ⟨found, kept, ?_, ?_, courses⟩
  · cases succeeds.eq_ofAnswer (.ok calling) (fun _ _ _ _ => rfl) (List.isEmpty_eq_false_iff.mp ordered.1)
    exact succeeds
  · cases fails.eq_ofAnswer (.error reverted) (fun _ _ _ _ => rfl) (List.isEmpty_eq_false_iff.mp ordered.2)
    exact fails

end Flyover
