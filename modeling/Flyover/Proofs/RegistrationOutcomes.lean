import Flyover.Proofs.ErrorWalk
import Flyover.Proofs.FundedPayouts
import Flyover.Proofs.HexText

/-! A registration comes to exactly one end. A bridge that lags leaves everything as it is, however deep in the answer that
is said. -/

namespace Flyover

def Trace.registrations (σ : Surroundings) (t : Trace) : List Reply := (t.replies σ).filter Reply.isRegistration

namespace Registration

open Run Trace

/-- The one registration that is submitted, and what it rests on. -/
structure Submits (given stored : Settlement) (σ : Surroundings) (s : Store) (t : Trace) (answer : Except Error Receipt) :
    Prop where
  paid : given.state = .callForUserSucceeded
  stays : stored.state = .callForUserSucceeded
  submitted : ∃ proof quote txid deposit required, t.registrations σ = [⟨.registerPegin proof quote, answer⟩] ∧
    s.quotes[given.quoteHash]? = some quote ∧ given.deposit = some txid ∧
    Told (t.replies σ) (.deposit txid) deposit ∧ Told (t.replies σ) .requiredConfirmations required ∧
    required.toNat ≤ deposit.confirmations.toNat ∧
    Hex.Spells proof.signature given.signature ∧
    Told (t.replies σ) (.rawTransaction txid) proof.transaction ∧ Told (t.replies σ) (.merkleTree txid) proof.merkleTree ∧
    Told (t.replies σ) (.blockHeight txid) proof.height

inductive Course
  | succeeded (receipt : Receipt)
  | lagged (e : Error)
  | failed (e : Error)
  | halted

/-- What is returned, stored and told when a registration for the settlement `given` takes a course; `stored` is the
settlement that is stored before. -/
def Course.Describes (given stored : Settlement) (σ : Surroundings) (s : Store) (o : Outcome Settlement) : Course → Prop
  | succeeded receipt =>
    let settled := { stored with
      state := .registerPeginSucceeded
      registerPegin := ⟨some receipt.txHash, receipt.gasUsed, receipt.gasPrice⟩ }
    Submits given stored σ s o.trace (.ok receipt) ∧ o.result = .ok settled ∧
      o.trace.Settles s given.quoteHash settled (.registeredPegin settled none)
  | lagged e =>
    let error := e.orWithin .registerPegin (arguments given)
    Submits given stored σ s o.trace (.error e) ∧ Error.Node .waitingForBridge e ∧ o.result = .error (.failed error) ∧
      Error.Node .waitingForBridge error ∧ o.trace.Spares s
  | failed e =>
    let settled := { stored with
      state := .registerPeginFailed
      registerPegin := (e.nodes.findSome? Error.receipt?).elim stored.registerPegin fun receipt =>
        ⟨some receipt.txHash, receipt.gasUsed, receipt.gasPrice⟩ }
    Submits given stored σ s o.trace (.error e) ∧ ¬ Error.Node .waitingForBridge e ∧
      o.result = .error (.failed (.inUseCase .registerPegin (arguments given) (.nonRecoverable [e]))) ∧
      o.trace.Settles s given.quoteHash settled (.registeredPegin settled (some e.message))
  | halted =>
    o.trace.registrations σ = [] ∧
      (∃ h, o.result = .error h ∧ ∀ e, h = .failed e → ∃ useCase args source, e = .inUseCase useCase args source) ∧
      o.trace.Spares s

lemma Submits.unique {given stored : Settlement} {σ : Surroundings} {s : Store} {t : Trace}
    {answer answer' : Except Error Receipt} (h : Submits given stored σ s t answer) (h' : Submits given stored σ s t answer') :
    answer = answer' := by
  obtain ⟨proof, quote, _, _, _, once, -⟩ := h.submitted
  obtain ⟨proof', quote', _, _, _, once', -⟩ := h'.submitted
  cases once.symm.trans once'
  rfl

lemma Submits.registrations_ne_nil {given stored : Settlement} {σ : Surroundings} {s : Store} {t : Trace}
    {answer : Except Error Receipt} (h : Submits given stored σ s t answer) : t.registrations σ ≠ [] := by
  obtain ⟨proof, quote, _, _, _, once, -⟩ := h.submitted
  rw [once]
  exact List.cons_ne_nil _ _

lemma Course.Describes.unique {given stored : Settlement} {σ : Surroundings} {s : Store} {o : Outcome Settlement}
    {c d : Course} (hc : c.Describes given stored σ s o) (hd : d.Describes given stored σ s o) : c = d := by
  cases c with
  | succeeded receipt =>
    cases d with
    | halted => exact absurd hd.1 hc.1.registrations_ne_nil
    | _ => cases hc.1.unique hd.1 <;> rfl
  | lagged e =>
    cases d with
    | halted => exact absurd hd.1 hc.1.registrations_ne_nil
    | failed e' =>
      cases hc.1.unique hd.1
      exact absurd hc.2.1 hd.2.1
    | _ => cases hc.1.unique hd.1 <;> rfl
  | failed e =>
    cases d with
    | halted => exact absurd hd.1 hc.1.registrations_ne_nil
    | lagged e' =>
      cases hc.1.unique hd.1
      exact absurd hd.2.1 hc.2.1
    | _ => cases hc.1.unique hd.1 <;> rfl
  | halted =>
    cases d with
    | halted => rfl
    | _ => exact absurd hc.1 hd.1.registrations_ne_nil

def Course.ofAnswer : Except Error Receipt → Course
  | .ok receipt => succeeded receipt
  | .error e => if e.isWaitingForBridge then lagged e else failed e

lemma Submits.answer_eq {given stored : Settlement} {σ : Surroundings} {s : Store} {t : Trace} {a : Except Error Receipt}
    (h : Submits given stored σ s t a) (answer : Except Error Receipt)
    (answers : ∀ calls proof quote, (σ.peers calls).answer (.registerPegin proof quote) = answer) : a = answer := by
  obtain ⟨proof, quote, _, _, _, once, -⟩ := h.submitted
  obtain ⟨calls, answered⟩ := exists_answer_of_filter once
  exact answered.trans (answers calls proof quote)

lemma Course.Describes.eq_ofAnswer {given stored : Settlement} {σ : Surroundings} {s : Store} {o : Outcome Settlement}
    {course : Course} (h : course.Describes given stored σ s o) (answer : Except Error Receipt)
    (answers : ∀ calls proof quote, (σ.peers calls).answer (.registerPegin proof quote) = answer)
    (submitted : o.trace.registrations σ ≠ []) : course = ofAnswer answer := by
  cases course with
  | succeeded receipt => rw [← h.1.answer_eq answer answers, ofAnswer]
  | lagged e => rw [← h.1.answer_eq answer answers, ofAnswer, if_pos (Error.isWaitingForBridge_iff.mpr h.2.1)]
  | failed e => rw [← h.1.answer_eq answer answers, ofAnswer, if_neg (mt Error.isWaitingForBridge_iff.mp h.2.1)]
  | halted => exact absurd h.1 submitted

lemma Ready.submits {given stored : Settlement} {σ : Surroundings} {s : Store} {t t' : Trace} {quote : Quote}
    {proof : DepositProof} {l : List Reply} {answer : Except Error Receipt}
    (ready : Ready given σ (start s) t quote proof stored l)
    (replies : t'.replies σ = t.replies σ ++ [⟨.registerPegin proof quote, answer⟩]) :
    Submits given stored σ s t' answer := by
  rw [ready.replies, replies_start, List.nil_append] at replies
  obtain ⟨txid, deposit, required, paid, seen, quoted, confirmed, signed⟩ := ready.proven
  refine ⟨paid, ready.state, proof, quote, txid, deposit, required, ?_, quoted, seen, ?_, ?_, confirmed,
    Hex.decode_dropMarkers_eq_ok_iff.mp signed, ?_, ?_, ?_⟩
  · rw [registrations, replies]
    rfl
  all_goals simp [Told, replies]

lemma resume_submit_of_kept {stored : Settlement} {σ : Surroundings} {s : Store} {t : Trace} {quote : Quote}
    {proof : DepositProof} {answer : Except Error Receipt}
    (answered : (σ.peers t.calls).answer (.registerPegin proof quote) = answer) (decided : isLagging answer = false)
    (inquired : (start s).Asks t) (state : stored.state = .callForUserSucceeded) (mem : stored.quoteHash ∈ s.settlements)
    (kept : ∀ calls, (σ.peers calls).outage (.updateSettlement stored.quoteHash) = none) :
    ∃ t', (submit quote proof stored).resume σ t = ⟨conclude (settled stored answer) (errorOf answer), t'⟩ ∧
      t'.replies σ = t.replies σ ++ [⟨.registerPegin proof quote, answer⟩] ∧
      t'.Settles s stored.quoteHash (settled stored answer)
        (.registeredPegin (settled stored answer) ((errorOf answer).map fun e => e.message)) := by
  have asked := inquired.noting (.question (.registerPegin proof quote))
  rw [← quoteHash_settled stored answer] at mem kept ⊢
  rw [resume_submit_of_decided state answered decided]
  obtain ⟨t', resumed, replies, settles⟩ := resume_record_of_kept _ (errorOf answer) asked (kept _) mem
  exact ⟨t', resumed, by rw [replies, replies_noting_question, answered], settles⟩

lemma describes_decided {given stored : Settlement} {σ : Surroundings} {s : Store} {t t' : Trace} {x : Run Settlement}
    {answer : Except Error Receipt} (submits : Submits given stored σ s t' answer) (decided : isLagging answer = false)
    (resumed : x.resume σ t = ⟨conclude (settled stored answer) (errorOf answer), t'⟩)
    (settles : t'.Settles s given.quoteHash (settled stored answer)
      (.registeredPegin (settled stored answer) ((errorOf answer).map fun e => e.message))) :
    ∃ course : Course, course.Describes given stored σ s
      ((mapError (fun e => e.orWithin .registerPegin (arguments given)) x).resume σ t) := by
  cases answer with
  | ok receipt =>
    rw [resume_mapError_of_ok resumed]
    exact ⟨.succeeded receipt, submits, rfl, settles⟩
  | error e =>
    have decisive : ¬ Error.Node .waitingForBridge e := by
      rw [← Error.isWaitingForBridge_iff]
      exact ne_true_of_eq_false decided
    rw [resume_mapError_of_failed resumed]
    rw [settled, Error.attemptedReceipt?_eq_findSome?] at settles
    exact ⟨.failed e, submits, decisive, rfl, settles⟩

lemma registrations_eq_nil {σ : Surroundings} {s : Store} {t : Trace} (h : (start s).Asks t) :
    t.registrations σ = [] :=
  h.calls.filter_replies_eq_nil Reply.isRegistration_of_isPassive

end Registration

open Registration Run Trace in
theorem registerPegin_takes_one_course {given stored : Settlement} {σ : Surroundings} {s : Store}
    (found : s.settlements[given.quoteHash]? = some stored) (key : stored.quoteHash = given.quoteHash)
    (kept : ∀ calls, (σ.peers calls).outage (.updateSettlement given.quoteHash) = none) :
    ∃! course : Course, course.Describes given stored σ s ((registerPegin given).exec σ s) := by
  refine existsUnique_of_exists_of_unique ?_ fun c d => Course.Describes.unique
  have mem : given.quoteHash ∈ s.settlements := Store.mem_settlements_of_lookup found
  have concluded := register_concludes given σ (.start s)
  generalize ho : (register given).resume σ (.start s) = o at concluded
  rw [registerPegin, exec]
  cases concluded with
  | halted inquired =>
    obtain ⟨h', resumed, within⟩ := resume_mapError_of_error ho
    rw [resumed]
    refine ⟨.halted, registrations_eq_nil inquired, ⟨h', rfl, fun e he => ?_⟩, inquired.spares⟩
    obtain ⟨e', rfl⟩ := within e he
    exact e'.exists_orWithin_eq _ _
  | @submitted quote proof current l t' ready =>
    cases ready.found.symm.trans found
    cases ha : isLagging ((σ.peers t'.calls).answer (.registerPegin proof quote)) with
    | true =>
      obtain ⟨e, answered, lagging⟩ := exists_of_isLagging ha
      have asked := ready.inquired.noting (.question (.registerPegin proof quote))
      have replies : (t'.noting (.question (.registerPegin proof quote))).replies σ =
          t'.replies σ ++ [⟨.registerPegin proof quote, .error e⟩] := by
        rw [replies_noting_question, answered]
      rw [resume_submit_of_isWaitingForBridge answered lagging] at ho
      rw [resume_mapError_of_failed ho]
      have waiting := Error.isWaitingForBridge_iff.mp lagging
      exact ⟨.lagged e, ready.submits replies, waiting, rfl, waiting.orWithin _ _, asked.spares⟩
    | false =>
      rw [← key] at mem kept
      obtain ⟨t'', resumed, replies, settles⟩ := resume_submit_of_kept rfl ha ready.inquired ready.state mem kept
      rw [key] at settles
      exact describes_decided (ready.submits replies) ha (ho.trans resumed) settles

namespace Sample

def lagging : Error := .nonRecoverable [.noLiquidity, .inUseCase .report ∅ (.nonRecoverable [.waitingForBridge])]

def rejected : Error := .inUseCase .report ∅ (.nonRecoverable [.noLiquidity, .contractReverted "no" (some registration)])

def registering (answer : Except Error Receipt) : Surroundings where
  peers _ := { payers with
    answer
      | .registerPegin .. => answer
      | q => payers.answer q }
  now := 150
  nonce := 1
  settings
  held _ := false

def paid : Settlement := settlement .callForUserSucceeded

def registered (answer : Except Error Receipt) : Outcome Settlement :=
  (registerPegin paid).exec (registering answer) (storing .callForUserSucceeded)

end Sample

open Registration Sample in
theorem sample_registration_takes_one_course :
    let s := storing .callForUserSucceeded
    s.settlements[paid.quoteHash]? = some paid ∧
      (∀ answer calls, ((registering answer).peers calls).outage (.updateSettlement paid.quoteHash) = none) ∧
      (Course.succeeded registration).Describes paid paid (registering (.ok registration)) s
        (registered (.ok registration)) ∧
      (Course.lagged lagging).Describes paid paid (registering (.error lagging)) s (registered (.error lagging)) ∧
      (Course.failed rejected).Describes paid paid (registering (.error rejected)) s (registered (.error rejected)) ∧
      ∀ answer, ∃! course : Course, course.Describes paid paid (registering answer) s (registered answer) := by
  have found := found_settlement .callForUserSucceeded
  have courses (answer : Except Error Receipt) : ∃! course : Course, course.Describes paid paid (registering answer)
      (storing .callForUserSucceeded) (registered answer) := registerPegin_takes_one_course found rfl fun _ => rfl
  have submitted : ∀ answer ∈ ([.ok registration, .error lagging, .error rejected] : List (Except Error Receipt)),
      ((registered answer).trace.registrations (registering answer)).isEmpty = false := by decide +kernel
  simp only [List.forall_mem_cons, List.isEmpty_eq_false_iff] at submitted
  obtain ⟨_, succeeds, -⟩ := courses (.ok registration)
  obtain ⟨_, lags, -⟩ := courses (.error lagging)
  obtain ⟨_, fails, -⟩ := courses (.error rejected)
  refine ⟨found, fun _ _ => rfl, ?_, ?_, ?_, courses⟩
  · cases succeeds.eq_ofAnswer _ (fun _ _ _ => rfl) submitted.1
    exact succeeds
  · cases lags.eq_ofAnswer _ (fun _ _ _ => rfl) submitted.2.1
    exact lags
  · cases fails.eq_ofAnswer _ (fun _ _ _ => rfl) submitted.2.2.1
    exact fails

end Flyover
