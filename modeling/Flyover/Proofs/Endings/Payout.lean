import Flyover.Payout
import Flyover.Proofs.Endings.Update
import Flyover.Proofs.WeiSum

/-! The ways in which a payout ends. -/

namespace Flyover.Payout

open Run Trace

def settled (s : Settlement) : Except Error Receipt → Settlement
  | .ok receipt => { s with state := .callForUserSucceeded, callForUser := .ofReceipt receipt }
  | .error e => { s with
      state := .callForUserFailed
      callForUser := e.attemptedReceipt?.elim s.callForUser .ofReceipt }

lemma quoteHash_settled (s : Settlement) (answer : Except Error Receipt) :
    (settled s answer).quoteHash = s.quoteHash := by
  cases answer <;> rfl

lemma state_settled_notMem_locking (s : Settlement) (answer : Except Error Receipt) :
    (settled s answer).state ∉ Settlement.State.locking := by
  cases answer <;> simp [settled, Settlement.State.locking]

lemma settle_eq {s : Settlement} (h : s.state = .waitingForDepositConfirmations) (answer : Except Error Receipt) :
    settle s answer = .ok (settled s answer, errorOf answer) := by
  cases answer with
  | ok receipt =>
    simp [settle, settled, errorOf, Settlement.moveTo, Settlement.recordCallForUser, h, Settlement.State.canMove,
      bind, Except.bind, pure, Except.pure]
  | error e =>
    cases hr : e.attemptedReceipt? <;>
      simp [settle, settled, errorOf, Settlement.moveTo, Settlement.recordCallForUser, h, hr,
        Settlement.State.canMove, bind, Except.bind, pure, Except.pure]

/-! A payout examines the deposit, allots what the call needs, and orders the call. Up to the order it only inquires. -/

structure Findings where
  quote : Quote
  required : Wei
  sent : Wei

def examine (given : Settlement) : Run Findings := do
  check (given.state = .waitingForDepositConfirmations) (.wrongState given.state)
  let txid ← given.deposit |> require (.illegalState "no user bitcoin transaction")
  let quote ← (← findQuote given.quoteHash) |> require .quoteNotFound
  check (!quote.isExpiredAt (← now)) .expiredQuote
  let deposit ← ask (.deposit txid)
  let confirmations := quote.confirmations.toUInt64
  check (confirmations ≤ deposit.confirmations) (.notEnoughConfirmations deposit.confirmations confirmations)
  let required ← quote.total
  let sent ← deposit.amountTo given.depositAddress
  return { quote, required, sent }

def allot (hash : String) (quote : Quote) : Run (Settlement × Wei) := do
  acquire .wallet
  let settlement ← currentSettlement hash
  let amount ← amountToSend quote
  return (settlement, amount)

def gasLimit (quote : Quote) : UInt64 := UInt64.ofNat (quote.gasLimit.toNat + Quote.callOverhead)

def order (quote : Quote) (settlement : Settlement) (amount : Wei) : Run Settlement := do
  let answer ← attempt (ask (.callForUser amount (gasLimit quote) quote))
  let (settled, callError) ← settle settlement answer
  record settled (.calledForUser quote settled (callError.map fun e => e.message)) callError

lemma checkDeposit_eq (given : Settlement) : checkDeposit given = examine given >>= fun f => do
    if f.sent < f.required then refuse f.quote given (.insufficientAmount f.sent f.required)
    return f.quote := by
  simp only [checkDeposit, examine, bind_assoc, pure_bind]

lemma pay_eq (given : Settlement) : pay given = checkDeposit given >>= fun quote =>
    allot given.quoteHash quote >>= fun a => order quote a.1 a.2 := by
  simp only [allot, bind_assoc, pure_bind]
  rfl

lemma toNat_gasLimit (quote : Quote) : (gasLimit quote).toNat = quote.gasLimit.toNat + Quote.callOverhead :=
  quote.toNat_gas

lemma examine_inquires (given : Settlement) : (examine given).Keeps (Trace.Inquires (Blind given.quoteHash)) := by
  refine .bind (.check _ _) fun _ => ?_
  refine .bind (.require _ _) fun txid => ?_
  refine .bind (.look ⟨rfl, by simp⟩) fun found => ?_
  refine .bind (.require _ _) fun quote => ?_
  refine .bind .now fun now => ?_
  refine .bind (.check _ _) fun _ => ?_
  refine .bind (.inquire ⟨rfl, by simp⟩) fun deposit => ?_
  refine .bind (.check _ _) fun _ => ?_
  refine .bind (.lift _) fun required => ?_
  exact .bind (.lift _) fun sent => .pure _

structure Confirmed (given : Settlement) (σ : Surroundings) (t : Trace) (txid : Txid) (deposit : Deposit)
    (quote : Quote) : Prop where
  waiting : given.state = .waitingForDepositConfirmations
  seen : given.deposit = some txid
  kept : (σ.peers t.calls).outage (.quote given.quoteHash) = none
  quoted : t.store.quotes[given.quoteHash]? = some quote
  unexpired : quote.isExpiredAt σ.now = false
  answered : (σ.peers (t.calls ++ [.access (.quote given.quoteHash)])).answer (.deposit txid) = .ok deposit
  confirmed : quote.confirmations.toUInt64 ≤ deposit.confirmations

def Weighs (given : Settlement) (σ : Surroundings) (t : Trace) (txid : Txid) (deposit : Deposit) (f : Findings) : Prop :=
  Confirmed given σ t txid deposit f.quote ∧ f.quote.total = .ok f.required ∧
    deposit.amountTo given.depositAddress = .ok f.sent

def examined (given : Settlement) (txid : Txid) (t : Trace) : Trace :=
  (t.noting (.access (.quote given.quoteHash))).noting (.question (.deposit txid))

lemma inquires_examined (given : Settlement) (txid : Txid) (t : Trace) :
    t.Inquires (Blind given.quoteHash) (examined given txid t) :=
  trans_of _ (inquires_noting (t := t) ⟨rfl, by simp⟩) (inquires_noting ⟨rfl, by simp⟩)

lemma Confirmed.replies_examined {given : Settlement} {σ : Surroundings} {t : Trace} {txid : Txid} {deposit : Deposit}
    {quote : Quote} (h : Confirmed given σ t txid deposit quote) :
    (examined given txid t).replies σ = t.replies σ ++ [⟨.deposit txid, .ok deposit⟩] := by
  rw [examined, replies_noting_question, replies_noting_access, calls_noting, h.answered]

lemma resume_examine_eq_ok_iff {given : Settlement} {σ : Surroundings} {t t' : Trace} {f : Findings} :
    (examine given).resume σ t = ⟨.ok f, t'⟩ ↔ ∃ txid deposit, Weighs given σ t txid deposit f ∧ t' = examined given txid t := by
  simp only [examine, findQuote, resume_bind_eq_ok_iff, resume_check_eq_ok_iff, resume_require_eq_ok_iff,
    resume_access_eq_ok_iff, resume_now_eq_ok_iff, resume_lift_eq_ok_iff, resume_pure_eq_ok_iff]
  constructor
  · rintro ⟨_, _, ⟨waiting, rfl⟩, txid, _, ⟨seen, rfl⟩, _, _, ⟨kept, rfl, rfl⟩, quote, _, ⟨quoted, rfl⟩, _, _, ⟨rfl, rfl⟩,
      _, _, ⟨unexpired, rfl⟩, deposit, _, asked, _, _, ⟨confirmed, rfl⟩, required, _, ⟨total, rfl⟩, sent, _,
      ⟨amount, rfl⟩, rfl, rfl⟩
    obtain ⟨answered, rfl⟩ := resume_ask_eq_ok_iff.mp asked
    exact ⟨txid, deposit, ⟨⟨of_decide_eq_true waiting, seen, kept, quoted, by simpa using unexpired, answered,
      of_decide_eq_true confirmed⟩, total, amount⟩, rfl⟩
  · rintro ⟨txid, deposit, ⟨⟨waiting, seen, kept, quoted, unexpired, answered, confirmed⟩, total, amount⟩, rfl⟩
    exact ⟨(), _, ⟨decide_eq_true waiting, rfl⟩, txid, _, ⟨seen, rfl⟩, _, _, ⟨kept, rfl, rfl⟩, f.quote, _, ⟨quoted, rfl⟩,
      _, _, ⟨rfl, rfl⟩, (), _, ⟨by rw [unexpired]; rfl, rfl⟩, deposit, _, resume_ask_eq_ok_iff.mpr ⟨answered, rfl⟩, (), _,
      ⟨decide_eq_true confirmed, rfl⟩, _, _, ⟨total, rfl⟩, _, _, ⟨amount, rfl⟩, rfl, rfl⟩

lemma currentSettlement_eq (hash : String) :
    currentSettlement hash = settlementIn .waitingForDepositConfirmations hash := rfl

lemma amountToSend_inquires (quote : Quote) : (amountToSend quote).Keeps Trace.Asks := by
  refine .bind .settings fun settings => ?_
  refine .bind (.inquire rfl) fun balance => ?_
  refine .ite (.pure _) (.bind (.inquire rfl) fun held => ?_)
  exact .ite (.bind (.fail _) fun _ => .pure _) (.pure _)

lemma allot_inquires (hash : String) (quote : Quote) : (allot hash quote).Keeps Trace.Asks := by
  refine .bind (.acquire _) fun _ => ?_
  refine .bind (settlementIn_inquires _ _) fun stored => ?_
  exact .bind (amountToSend_inquires quote) fun amount => .pure _

inductive Funds (provider : Address) (quote : Quote) (amount : Wei) : List Reply → Prop
  | covered (balance : Wei) (left : amount = quote.value.monus balance) (nothing : amount = 0) :
      Funds provider quote amount [⟨.contractBalance provider, .ok balance⟩]
  | toppedUp (balance held : Wei) (left : amount = quote.value.monus balance) (some : amount ≠ 0) (holds : amount ≤ held) :
      Funds provider quote amount [⟨.contractBalance provider, .ok balance⟩, ⟨.balance provider, .ok held⟩]

lemma funds_of_resume_amountToSend_eq_ok {quote : Quote} {σ : Surroundings} {t t' : Trace} {amount : Wei}
    (h : (amountToSend quote).resume σ t = ⟨.ok amount, t'⟩) :
    ∃ l, Funds σ.settings.provider quote amount l ∧ t'.replies σ = t.replies σ ++ l := by
  rw [amountToSend] at h
  obtain ⟨_, _, hs, h⟩ := resume_bind_eq_ok_iff.mp h
  obtain ⟨rfl, rfl⟩ := resume_settings_eq_ok_iff.mp hs
  obtain ⟨balance, t₁, hb, h⟩ := resume_bind_eq_ok_iff.mp h
  have replies := replies_of_resume_ask hb
  dsimp only at h
  split at h
  · rename_i nothing
    obtain ⟨rfl, rfl⟩ := resume_pure_eq_ok_iff.mp h
    exact ⟨_, .covered balance rfl nothing, replies⟩
  · rename_i some
    obtain ⟨held, t₂, hh, h⟩ := resume_bind_eq_ok_iff.mp h
    split at h
    · obtain ⟨_, _, h, -⟩ := resume_bind_eq_ok_iff.mp h
      cases h
    · rename_i holds
      obtain ⟨rfl, rfl⟩ := resume_pure_eq_ok_iff.mp h
      refine ⟨_, .toppedUp balance held rfl some (Nat.le_of_not_lt holds), ?_⟩
      rw [replies_of_resume_ask hh, replies, List.append_assoc]
      rfl

structure Allotted (hash : String) (quote : Quote) (σ : Surroundings) (t t' : Trace) (stored : Settlement)
    (amount : Wei) (l : List Reply) : Prop where
  found : t.store.settlements[hash]? = some stored
  waiting : stored.state = .waitingForDepositConfirmations
  inquired : t.Asks t'
  looked : .access (.settlement hash) ∈ t'.calls
  funds : Funds σ.settings.provider quote amount l
  replies : t'.replies σ = t.replies σ ++ l

lemma allotted_of_resume_allot_eq_ok {hash : String} {quote : Quote} {σ : Surroundings} {t t' : Trace}
    {a : Settlement × Wei} (h : (allot hash quote).resume σ t = ⟨.ok a, t'⟩) :
    ∃ l, Allotted hash quote σ t t' a.1 a.2 l := by
  have inquired := (allot_inquires hash quote).of_resume h
  simp only [allot, currentSettlement_eq, resume_bind_eq_ok_iff, resume_acquire_eq_ok_iff, resume_settlementIn_eq_ok_iff,
    resume_pure_eq_ok_iff] at h
  obtain ⟨_, _, ⟨-, rfl⟩, stored, _, ⟨-, found, waiting, rfl⟩, amount, _, ha, rfl, rfl⟩ := h
  obtain ⟨l, funds, replies⟩ := funds_of_resume_amountToSend_eq_ok ha
  obtain ⟨cs, rfl, -⟩ := (amountToSend_inquires quote).of_resume ha
  rw [replies_noting_access] at replies
  exact ⟨l, found, waiting, inquired, by simp, funds, replies⟩

lemma resume_allot_of_covered {hash : String} {quote : Quote} {stored : Settlement} {σ : Surroundings} {t : Trace}
    (free : σ.held .wallet = false) (found : t.store.settlements[hash]? = some stored)
    (waiting : stored.state = .waitingForDepositConfirmations) (kept : ∀ calls a, (σ.peers calls).outage a = none)
    (covered : ∀ calls, (σ.peers calls).answer (.contractBalance σ.settings.provider) = .ok quote.value) :
    ∃ t', (allot hash quote).resume σ t = ⟨.ok (stored, 0), t'⟩ := by
  have nothing : quote.value.monus quote.value = 0 := Wei.ext_toNat (Nat.sub_self _)
  have amount (t : Trace) : (amountToSend quote).resume σ t =
      ⟨.ok 0, t.noting (.question (.contractBalance σ.settings.provider))⟩ := by
    have asked := resume_ask_eq_ok_iff.mpr ⟨covered t.calls, rfl⟩
    rw [amountToSend, resume_bind_of_ok (resume_settings σ t), resume_bind_of_ok asked, nothing, if_pos rfl, resume_pure]
  simp only [allot, currentSettlement_eq, resume_bind_eq_ok_iff, resume_acquire_eq_ok_iff, resume_settlementIn_eq_ok_iff,
    resume_pure_eq_ok_iff]
  exact ⟨_, (), _, ⟨free, rfl⟩, stored, _, ⟨kept _ _, found, waiting, rfl⟩, 0, _, amount _, rfl, rfl⟩

def outcomeOf (quote : Quote) (stored : Settlement) (answer : Except Error Receipt) : Run Settlement :=
  record (settled stored answer)
    (.calledForUser quote (settled stored answer) ((errorOf answer).map fun e => e.message)) (errorOf answer)

lemma resume_order {quote : Quote} {stored : Settlement} (amount : Wei) (σ : Surroundings) (t : Trace)
    (h : stored.state = .waitingForDepositConfirmations) :
    (order quote stored amount).resume σ t =
      (outcomeOf quote stored ((σ.peers t.calls).answer (.callForUser amount (gasLimit quote) quote))).resume σ
        (t.noting (.question (.callForUser amount (gasLimit quote) quote))) := by
  rw [order, resume_bind_of_ok (resume_attempt_ask _ σ t), settle_eq h, liftM_ok, pure_bind]
  rfl

section

variable {quote : Quote} {stored : Settlement} (amount : Wei) (σ : Surroundings) (t : Trace)
  (h : stored.state = .waitingForDepositConfirmations)

include h

lemma calls_order : ((order quote stored amount).resume σ t).trace.calls = t.calls ++
    [.question (.callForUser amount (gasLimit quote) quote), .access (.updateSettlement stored.quoteHash)] := by
  rw [resume_order amount σ t h, outcomeOf, (record_writes σ _ _ _ _).calls, quoteHash_settled, calls_noting,
    List.append_assoc]
  rfl

lemma replies_order : ((order quote stored amount).resume σ t).trace.replies σ = t.replies σ ++
    [⟨.callForUser amount (gasLimit quote) quote, (σ.peers t.calls).answer (.callForUser amount (gasLimit quote) quote)⟩] := by
  rw [resume_order amount σ t h, outcomeOf, (record_writes σ _ _ _ _).replies, replies_noting_question]

end

inductive Conclusion (given : Settlement) (σ : Surroundings) (t : Trace) : Outcome Settlement → Prop
  | halted {h : Halt} {t' : Trace} (inquired : t.Asks t')
      (enough : ∀ txid deposit f, Weighs given σ t txid deposit f → ¬ f.sent < f.required) :
      Conclusion given σ t ⟨.error h, t'⟩
  | refused {f : Findings} {txid : Txid} {deposit : Deposit} {h : Halt} {t' : Trace}
      (weighs : Weighs given σ t txid deposit f) (short : f.sent < f.required)
      (refusal : (refuse f.quote given (.insufficientAmount f.sent f.required)).resume σ (examined given txid t) =
        ⟨.error h, t'⟩)
      (writes : Writes σ { given with state := .callForUserFailed } (examined given txid t) t') :
      Conclusion given σ t ⟨.error h, t'⟩
  | ordered {f : Findings} {txid : Txid} {deposit : Deposit} {stored : Settlement} {amount : Wei} {l : List Reply}
      {t' : Trace} (weighs : Weighs given σ t txid deposit f) (enough : ¬ f.sent < f.required)
      (allotted : Allotted given.quoteHash f.quote σ (examined given txid t) t' stored amount l) :
      Conclusion given σ t ((order f.quote stored amount).resume σ t')

lemma resume_refuse_of_kept {given : Settlement} {σ : Surroundings} {t : Trace} (quote : Quote) (error : Error)
    (state : given.state = .waitingForDepositConfirmations)
    (kept : (σ.peers t.calls).outage (.updateSettlement given.quoteHash) = none)
    (stored : given.quoteHash ∈ t.store.settlements) :
    (refuse quote given error).resume σ t = ⟨.error (.failed error),
      (t.publishing (.calledForUser quote { given with state := .callForUserFailed } (some error.message))).writing
        { given with state := .callForUserFailed }⟩ := by
  have hm : given.moveTo .callForUserFailed = .ok { given with state := .callForUserFailed } := by
    simp [Settlement.moveTo, state, Settlement.State.canMove]
  rw [refuse, hm, liftM_ok, pure_bind]
  exact resume_announce_of_kept (s := { given with state := .callForUserFailed }) _ _ kept stored

lemma Weighs.unique {given : Settlement} {σ : Surroundings} {t : Trace} {txid txid' : Txid} {deposit deposit' : Deposit}
    {f f' : Findings} (h : Weighs given σ t txid deposit f) (h' : Weighs given σ t txid' deposit' f') : f = f' := by
  have hf := (resume_examine_eq_ok_iff.mpr ⟨txid, deposit, h, rfl⟩).symm.trans
    (resume_examine_eq_ok_iff.mpr ⟨txid', deposit', h', rfl⟩)
  exact Except.ok.inj (Outcome.mk.inj hf).1

inductive Ending (given : Settlement) (σ : Surroundings) (t : Trace) : Trace → Prop
  | idle {t' : Trace} (inquired : t.Asks t') : Ending given σ t t'
  | refused {t' t'' : Trace} (state : given.state = .waitingForDepositConfirmations)
      (inquired : t.Inquires (Blind given.quoteHash) t')
      (writes : Writes σ { given with state := .callForUserFailed } t' t'') : Ending given σ t t''
  | paid {t' t'' : Trace} (stored : Settlement) (value : Wei) (gasLimit : UInt64) (quote : Quote)
      (answer : Except Error Receipt) (inquired : t.Asks t')
      (looked : .access (.settlement given.quoteHash) ∈ t'.calls)
      (found : t.store.settlements[given.quoteHash]? = some stored)
      (state : stored.state = .waitingForDepositConfirmations)
      (answered : (σ.peers t'.calls).answer (.callForUser value gasLimit quote) = answer)
      (writes : Writes σ (settled stored answer) (t'.noting (.question (.callForUser value gasLimit quote))) t'') :
      Ending given σ t t''

lemma Ending.alike {given : Settlement} {σ : Surroundings} {t t' : Trace} (h : Ending given σ t t') :
    t.store.Alike t'.store := by
  cases h with
  | idle inquired => exact inquired.alike
  | refused state inquired writes => exact trans_of _ inquired.alike writes.alike
  | paid stored value gasLimit quote answer inquired looked found state answered writes =>
    exact trans_of _ inquired.alike writes.alike

lemma refuse_ends {given : Settlement} (state : given.state = .waitingForDepositConfirmations) (quote : Quote)
    (error : Error) (σ : Surroundings) (t : Trace) :
    ∃ e t', (refuse quote given error).resume σ t = ⟨.error e, t'⟩ ∧
      Writes σ { given with state := .callForUserFailed } t t' := by
  have hm : given.moveTo .callForUserFailed = .ok { given with state := .callForUserFailed } := by
    simp [Settlement.moveTo, state, Settlement.State.canMove]
  have hw := updateSettlement_writes σ { given with state := .callForUserFailed }
    (t.publishing (.calledForUser quote { given with state := .callForUserFailed } (some error.message)))
  rw [writes_publishing_iff, publishing] at hw
  rw [refuse, hm, liftM_ok, pure_bind, resume_bind_of_ok (resume_publish σ t _), resume_bind, resume_attempt]
  rcases ho : (updateSettlement { given with state := .callForUserFailed }).resume σ _ with ⟨(e | l) | _, t'⟩ <;>
    rw [ho] at hw
  · exact ⟨_, t', rfl, hw⟩
  · exact ⟨_, t', rfl, hw⟩
  · exact ⟨_, t', rfl, hw⟩

lemma pay_concludes (given : Settlement) (σ : Surroundings) (t : Trace) :
    Conclusion given σ t ((pay given).resume σ t) := by
  rw [pay_eq, checkDeposit_eq, bind_assoc]
  rcases he : (examine given).resume σ t with ⟨h | f, t'⟩
  · rw [resume_bind_of_error he]
    refine .halted ((examine_inquires given).of_resume he).asks fun txid deposit f weighs => ?_
    rw [resume_examine_eq_ok_iff.mpr ⟨txid, deposit, weighs, rfl⟩] at he
    cases he
  obtain ⟨txid, deposit, weighs, rfl⟩ := resume_examine_eq_ok_iff.mp he
  rw [resume_bind_of_ok he]
  by_cases short : f.sent < f.required
  · obtain ⟨h, t', refusal, writes⟩ := refuse_ends weighs.1.waiting f.quote (.insufficientAmount f.sent f.required) σ
      (examined given txid t)
    rw [if_pos short, bind_assoc, resume_bind_of_error refusal]
    exact .refused weighs short refusal writes
  rw [if_neg short, pure_bind]
  have inquired := (inquires_examined given txid t).asks
  rcases ha : (allot given.quoteHash f.quote).resume σ (examined given txid t) with ⟨h | a, t'⟩
  · rw [resume_bind_of_error ha]
    refine .halted (trans_of _ inquired ((allot_inquires _ _).of_resume ha)) fun txid' deposit' f' weighs' => ?_
    rwa [weighs'.unique weighs]
  · rw [resume_bind_of_ok ha]
    obtain ⟨l, allotted⟩ := allotted_of_resume_allot_eq_ok ha
    exact .ordered weighs short allotted

lemma pay_inquires_of_expired {given : Settlement} {quote : Quote} {σ : Surroundings} {t : Trace}
    (quoted : t.store.quotes[given.quoteHash]? = some quote) (expired : quote.isExpiredAt σ.now) :
    t.Asks ((pay given).resume σ t).trace := by
  have absent {txid : Txid} {deposit : Deposit} {f : Findings} : ¬ Weighs given σ t txid deposit f := by
    rintro ⟨confirmed, -, -⟩
    cases confirmed.quoted.symm.trans quoted
    exact absurd (confirmed.unexpired.symm.trans expired) nofun
  have concluded := pay_concludes given σ t
  generalize (pay given).resume σ t = o at concluded
  cases concluded with
  | halted inquired => exact inquired
  | refused weighs => exact absurd weighs absent
  | ordered weighs => exact absurd weighs absent

lemma resume_pay_of_weighs {given stored : Settlement} {σ : Surroundings} {t t' : Trace} {txid : Txid} {deposit : Deposit}
    {f : Findings} {amount : Wei} (weighs : Weighs given σ t txid deposit f) (enough : ¬ f.sent < f.required)
    (allotted : (allot given.quoteHash f.quote).resume σ (examined given txid t) = ⟨.ok (stored, amount), t'⟩) :
    (pay given).resume σ t = (order f.quote stored amount).resume σ t' := by
  have examined := resume_examine_eq_ok_iff.mpr ⟨txid, deposit, weighs, rfl⟩
  rw [pay_eq, checkDeposit_eq, bind_assoc, resume_bind_of_ok examined, if_neg enough, pure_bind,
    resume_bind_of_ok allotted]

lemma pay_ends (given : Settlement) (σ : Surroundings) (t : Trace) :
    Ending given σ t ((pay given).resume σ t).trace := by
  have concluded := pay_concludes given σ t
  generalize (pay given).resume σ t = o at concluded
  cases concluded with
  | halted inquired enough => exact .idle inquired
  | @refused f txid deposit h t' weighs short refusal writes =>
    exact .refused weighs.1.waiting (inquires_examined given txid t) writes
  | @ordered f txid deposit stored amount l t' weighs enough allotted =>
    have inquired := (inquires_examined given txid t).asks
    rw [resume_order amount σ t' allotted.waiting]
    exact .paid stored amount (gasLimit f.quote) f.quote _ (trans_of _ inquired allotted.inquired) allotted.looked
      allotted.found allotted.waiting rfl (record_writes σ _ _ _ _)

end Flyover.Payout
