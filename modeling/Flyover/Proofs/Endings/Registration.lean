import Flyover.Proofs.Endings.Update
import Flyover.Registration

/-! The ways in which a registration ends. -/

namespace Flyover.Registration

open Run Trace

def settled (s : Settlement) : Except Error Receipt → Settlement
  | .ok receipt => { s with state := .registerPeginSucceeded, registerPegin := .ofReceipt receipt }
  | .error e => { s with
      state := .registerPeginFailed
      registerPegin := e.attemptedReceipt?.elim s.registerPegin .ofReceipt }

def isLagging : Except Error Receipt → Bool
  | .ok _ => false
  | .error e => e.isWaitingForBridge

lemma exists_of_isLagging {answer : Except Error Receipt} (h : isLagging answer) :
    ∃ e, answer = .error e ∧ e.isWaitingForBridge := by
  cases answer with
  | ok receipt => cases h
  | error e => exact ⟨e, rfl, h⟩

lemma quoteHash_settled (s : Settlement) (answer : Except Error Receipt) :
    (settled s answer).quoteHash = s.quoteHash := by
  cases answer <;> rfl

lemma state_settled_notMem_locking (s : Settlement) (answer : Except Error Receipt) :
    (settled s answer).state ∉ Settlement.State.locking := by
  cases answer <;> simp [settled, Settlement.State.locking]

lemma settle_eq {s : Settlement} (h : s.state = .callForUserSucceeded) {answer : Except Error Receipt}
    (ha : isLagging answer = false) : settle s answer = .ok (settled s answer, errorOf answer) := by
  cases answer with
  | ok receipt =>
    simp [settle, settled, errorOf, Settlement.moveTo, Settlement.recordRegisterPegin, h, Settlement.State.canMove,
      bind, Except.bind, pure, Except.pure]
  | error e =>
    have he : e.isWaitingForBridge = false := ha
    cases hr : e.attemptedReceipt? <;>
      simp [settle, settled, errorOf, Settlement.moveTo, Settlement.recordRegisterPegin, h, he, hr,
        Settlement.State.canMove, bind, Except.bind, pure, Except.pure]

lemma settle_of_isWaitingForBridge (s : Settlement) {e : Error} (he : e.isWaitingForBridge) :
    settle s (.error e) = .error e := by
  simp [settle, he, throw, throwThe, MonadExceptOf.throw, bind, Except.bind]

/-! A registration gets ready, which takes inquiries only, and submits what it has found. -/

def ready (given : Settlement) : Run ((Quote × DepositProof) × Settlement) := do
  let proved ← prove given
  acquire .wallet
  return (proved, ← currentSettlement given.quoteHash)

def submit (quote : Quote) (proof : DepositProof) (stored : Settlement) : Run Settlement := do
  let answer ← attempt (ask (.registerPegin proof quote))
  let (settled, registerError) ← settle stored answer
  record settled (.registeredPegin settled (registerError.map fun e => e.message)) registerError

lemma register_eq (given : Settlement) :
    register given = ready given >>= fun r => submit r.1.1 r.1.2 r.2 := by
  simp only [ready, bind_assoc, pure_bind]
  rfl

lemma prove_inquires (given : Settlement) : (prove given).Keeps Trace.Asks := by
  refine .bind (.check _ _) fun _ => ?_
  refine .bind (.require _ _) fun txid => ?_
  refine .bind (.look rfl) fun found => ?_
  refine .bind (.require _ _) fun quote => ?_
  refine .bind (.inquire rfl) fun deposit => ?_
  refine .bind (.inquire rfl) fun required => ?_
  refine .bind (.check _ _) fun _ => ?_
  refine .bind (.lift _) fun signature => ?_
  refine .bind (.inquire rfl) fun transaction => ?_
  refine .bind (.inquire rfl) fun merkleTree => ?_
  exact .bind (.inquire rfl) fun height => .pure _

lemma currentSettlement_eq (hash : String) : currentSettlement hash = settlementIn .callForUserSucceeded hash := rfl

lemma ready_inquires (given : Settlement) : (ready given).Keeps Trace.Asks := by
  refine .bind (prove_inquires given) fun proved => ?_
  refine .bind (.acquire _) fun _ => ?_
  exact .bind (settlementIn_inquires _ _) fun stored => .pure _

inductive Proven (given : Settlement) (s : Store) (quote : Quote) (proof : DepositProof) : List Reply → Prop
  | intro (txid : Txid) (deposit : Deposit) (required : UInt64)
      (state : given.state = .callForUserSucceeded) (seen : given.deposit = some txid)
      (quoted : s.quotes[given.quoteHash]? = some quote) (confirmed : required ≤ deposit.confirmations)
      (signed : Hex.decode (Hex.dropMarkers given.signature) = .ok proof.signature) :
      Proven given s quote proof
        [⟨.deposit txid, .ok deposit⟩, ⟨.requiredConfirmations, .ok required⟩, ⟨.rawTransaction txid, .ok proof.transaction⟩,
          ⟨.merkleTree txid, .ok proof.merkleTree⟩, ⟨.blockHeight txid, .ok proof.height⟩]

lemma proven_of_resume_prove_eq_ok {given : Settlement} {σ : Surroundings} {t t' : Trace} {p : Quote × DepositProof}
    (h : (prove given).resume σ t = ⟨.ok p, t'⟩) :
    ∃ l, Proven given t.store p.1 p.2 l ∧ t'.replies σ = t.replies σ ++ l := by
  simp only [prove, findQuote, resume_bind_eq_ok_iff, resume_check_eq_ok_iff, resume_require_eq_ok_iff,
    resume_access_eq_ok_iff, resume_lift_eq_ok_iff, resume_pure_eq_ok_iff] at h
  obtain ⟨_, _, ⟨state, rfl⟩, txid, _, ⟨seen, rfl⟩, _, _, ⟨-, rfl, rfl⟩, quote, _, ⟨quoted, rfl⟩, deposit, _, askedDeposit,
    required, _, askedRequired, _, _, ⟨confirmed, rfl⟩, signature, _, ⟨signed, rfl⟩, transaction, _, askedTransaction,
    merkleTree, _, askedTree, height, _, askedHeight, rfl, rfl⟩ := h
  have signed : Hex.decode (Hex.dropMarkers given.signature) = .ok signature := by
    cases hd : Hex.decode (Hex.dropMarkers given.signature) <;> rw [hd] at signed <;> cases signed
    rfl
  refine ⟨_, .intro txid deposit required (of_decide_eq_true state) seen quoted (of_decide_eq_true confirmed) signed, ?_⟩
  rw [replies_of_resume_ask askedHeight, replies_of_resume_ask askedTree, replies_of_resume_ask askedTransaction,
    replies_of_resume_ask askedRequired, replies_of_resume_ask askedDeposit, replies_noting_access]
  simp only [List.append_assoc, List.cons_append, List.nil_append]

structure Ready (given : Settlement) (σ : Surroundings) (t t' : Trace) (quote : Quote) (proof : DepositProof)
    (stored : Settlement) (l : List Reply) : Prop where
  proven : Proven given t.store quote proof l
  inquired : t.Asks t'
  found : t.store.settlements[given.quoteHash]? = some stored
  state : stored.state = .callForUserSucceeded
  replies : t'.replies σ = t.replies σ ++ l

lemma ready_of_resume_ready_eq_ok {given : Settlement} {σ : Surroundings} {t t' : Trace}
    {r : (Quote × DepositProof) × Settlement} (h : (ready given).resume σ t = ⟨.ok r, t'⟩) :
    ∃ l, Ready given σ t t' r.1.1 r.1.2 r.2 l := by
  have inquired := (ready_inquires given).of_resume h
  simp only [ready, currentSettlement_eq, resume_bind_eq_ok_iff, resume_acquire_eq_ok_iff, resume_settlementIn_eq_ok_iff,
    resume_pure_eq_ok_iff] at h
  obtain ⟨proved, t₁, hp, _, _, ⟨-, rfl⟩, stored, _, ⟨-, found, state, rfl⟩, rfl, rfl⟩ := h
  obtain ⟨l, proven, replies⟩ := proven_of_resume_prove_eq_ok hp
  rw [((prove_inquires given).of_resume hp).store_eq] at found
  exact ⟨l, proven, inquired, found, state, by rwa [replies_noting_access]⟩

def outcomeOf (stored : Settlement) (answer : Except Error Receipt) : Run Settlement :=
  record (settled stored answer) (.registeredPegin (settled stored answer) ((errorOf answer).map fun e => e.message))
    (errorOf answer)

section

variable {quote : Quote} {proof : DepositProof} {stored : Settlement} {σ : Surroundings} {t : Trace}

lemma resume_submit_of_isWaitingForBridge {e : Error}
    (answered : (σ.peers t.calls).answer (.registerPegin proof quote) = .error e) (he : e.isWaitingForBridge) :
    (submit quote proof stored).resume σ t = ⟨.error (.failed e), t.noting (.question (.registerPegin proof quote))⟩ := by
  rw [submit, resume_bind_of_ok (resume_attempt_ask _ σ t), answered, settle_of_isWaitingForBridge stored he]
  rfl

lemma resume_submit_of_decided {answer : Except Error Receipt} (state : stored.state = .callForUserSucceeded)
    (answered : (σ.peers t.calls).answer (.registerPegin proof quote) = answer) (decided : isLagging answer = false) :
    (submit quote proof stored).resume σ t =
      (outcomeOf stored answer).resume σ (t.noting (.question (.registerPegin proof quote))) := by
  rw [submit, resume_bind_of_ok (resume_attempt_ask _ σ t), answered, settle_eq state decided, liftM_ok, pure_bind]
  rfl

end

inductive Conclusion (given : Settlement) (σ : Surroundings) (t : Trace) : Outcome Settlement → Prop
  | halted {h : Halt} {t' : Trace} (inquired : t.Asks t') : Conclusion given σ t ⟨.error h, t'⟩
  | submitted {quote : Quote} {proof : DepositProof} {stored : Settlement} {l : List Reply} {t' : Trace}
      (ready : Ready given σ t t' quote proof stored l) :
      Conclusion given σ t ((submit quote proof stored).resume σ t')

lemma register_concludes (given : Settlement) (σ : Surroundings) (t : Trace) :
    Conclusion given σ t ((register given).resume σ t) := by
  rw [register_eq]
  rcases (ready_inquires given).bind_cases (fun r => submit r.1.1 r.1.2 r.2) σ t with
    ⟨h, t', inquired, halted⟩ | ⟨r, t', -, ready, resumed⟩
  · rw [halted]
    exact .halted inquired
  · rw [resumed]
    obtain ⟨l, ready⟩ := ready_of_resume_ready_eq_ok ready
    exact .submitted ready

inductive Ending (given : Settlement) (σ : Surroundings) (t : Trace) : Trace → Prop
  | idle {t' : Trace} (inquired : t.Asks t') : Ending given σ t t'
  | lagged {t' : Trace} (stored : Settlement) (proof : DepositProof) (quote : Quote) (answer : Except Error Receipt)
      (inquired : t.Asks t')
      (found : t.store.settlements[given.quoteHash]? = some stored) (state : stored.state = .callForUserSucceeded)
      (answered : (σ.peers t'.calls).answer (.registerPegin proof quote) = answer) (lagging : isLagging answer) :
      Ending given σ t (t'.noting (.question (.registerPegin proof quote)))
  | registered {t' t'' : Trace} (stored : Settlement) (proof : DepositProof) (quote : Quote)
      (answer : Except Error Receipt) (inquired : t.Asks t')
      (found : t.store.settlements[given.quoteHash]? = some stored) (state : stored.state = .callForUserSucceeded)
      (answered : (σ.peers t'.calls).answer (.registerPegin proof quote) = answer)
      (decided : isLagging answer = false)
      (writes : Writes σ (settled stored answer) (t'.noting (.question (.registerPegin proof quote))) t'') :
      Ending given σ t t''

lemma Ending.alike {given : Settlement} {σ : Surroundings} {t t' : Trace} (h : Ending given σ t t') :
    t.store.Alike t'.store := by
  cases h with
  | idle inquired => exact inquired.alike
  | lagged stored proof quote answer inquired found state answered lagging => exact inquired.alike
  | registered stored proof quote answer inquired found state answered decided writes =>
    exact trans_of _ inquired.alike writes.alike

lemma register_ends (given : Settlement) (σ : Surroundings) (t : Trace) :
    Ending given σ t ((register given).resume σ t).trace := by
  have concluded := register_concludes given σ t
  generalize (register given).resume σ t = o at concluded
  cases concluded with
  | halted inquired => exact .idle inquired
  | @submitted quote proof stored l t' ready =>
    cases ha : isLagging ((σ.peers t'.calls).answer (.registerPegin proof quote)) with
    | true =>
      obtain ⟨e, answered, lagging⟩ := exists_of_isLagging ha
      rw [resume_submit_of_isWaitingForBridge answered lagging]
      exact .lagged stored proof quote _ ready.inquired ready.found ready.state answered lagging
    | false =>
      rw [resume_submit_of_decided ready.state rfl ha]
      exact .registered stored proof quote _ ready.inquired ready.found ready.state rfl ha (record_writes σ _ _ _ _)

end Flyover.Registration
