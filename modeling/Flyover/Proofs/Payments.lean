import Flyover.Proofs.History.Turn

/-! A user is paid once, and a deposit is registered once, after the payout. -/

namespace Flyover

namespace Reply

def isPayout : Reply → Bool
  | ⟨.callForUser .., _⟩ => true
  | _ => false

def isPaid : Reply → Bool
  | ⟨.callForUser .., .ok _⟩ => true
  | _ => false

def isRegistration : Reply → Bool
  | ⟨.registerPegin .., _⟩ => true
  | _ => false

def isDecided : Reply → Bool
  | ⟨.registerPegin .., answer⟩ => !Registration.isLagging answer
  | _ => false

variable {r : Reply}

lemma isPayout_of_isPassive (h : r.isPassive) : r.isPayout = false := by
  obtain ⟨q, a⟩ := r
  cases q <;> first | rfl | cases h

lemma isRegistration_of_isPassive (h : r.isPassive) : r.isRegistration = false := by
  obtain ⟨q, a⟩ := r
  cases q <;> first | rfl | cases h

lemma isDecided_of_isRegistration (h : r.isRegistration = false) : r.isDecided = false := by
  obtain ⟨q, a⟩ := r
  cases q <;> first | rfl | cases h

end Reply

def dealings (h : String) (es : List Entry) : List Reply :=
  (es.filter fun e => e.deed.step.hash? = some h).flatMap Entry.replies

lemma dealings_concat (h : String) (es : List Entry) (e : Entry) :
    dealings h (es ++ [e]) = dealings h es ++ if e.deed.step.hash? = some h then e.replies else [] := by
  rw [dealings, dealings, List.filter_append, List.flatMap_append]
  by_cases he : e.deed.step.hash? = some h <;> simp [he]

def Ordered : List Reply → Prop := EachAfter fun before r => r.isRegistration → ∃ r' ∈ before, r'.isPaid

lemma Ordered.concat {l : List Reply} {r : Reply} (hl : Ordered l) (hr : r.isRegistration → ∃ r' ∈ l, r'.isPaid) :
    Ordered (l ++ [r]) :=
  EachAfter.concat hl hr

lemma Ordered.append_passive {l l' : List Reply} (hl : Ordered l) (hp : ∀ r ∈ l', r.isPassive) : Ordered (l ++ l') := by
  induction l' using List.reverseRecOn with
  | nil => rwa [List.append_nil]
  | append_singleton l' r ih =>
    rw [← List.append_assoc]
    apply Ordered.concat (ih fun r hr => hp r (List.mem_append_left _ hr))
    intro h
    rw [Reply.isRegistration_of_isPassive (hp r (by simp))] at h
    cases h

structure Settled (o : Option Settlement) (l : List Reply) : Prop where
  payouts : l.countP Reply.isPayout ≤ 1
  decided : l.countP Reply.isDecided ≤ 1
  ordered : Ordered l
  untouched : (∀ t, o = some t → t.state ∈ Settlement.State.locking) →
    l.countP Reply.isPayout = 0 ∧ l.countP Reply.isDecided = 0
  succeeded : ∀ t, o = some t → t.state = .callForUserSucceeded → l.countP Reply.isDecided = 0 ∧ ∃ r ∈ l, r.isPaid

namespace Settled

variable {o o' : Option Settlement} {t t' : Settlement} {l l' : List Reply}

lemma nil : Settled none [] := ⟨Nat.zero_le _, Nat.zero_le _, EachAfter.nil, fun _ => ⟨rfl, rfl⟩, nofun⟩

lemma append_passive (hs : Settled o l) (hp : ∀ r ∈ l', r.isPassive) : Settled o (l ++ l') := by
  have hpay : l'.countP Reply.isPayout = 0 :=
    List.countP_eq_zero.mpr fun r hr => by rw [Reply.isPayout_of_isPassive (hp r hr)]; exact Bool.false_ne_true
  have hdec : l'.countP Reply.isDecided = 0 := List.countP_eq_zero.mpr fun r hr => by
    rw [Reply.isDecided_of_isRegistration (Reply.isRegistration_of_isPassive (hp r hr))]
    exact Bool.false_ne_true
  obtain ⟨payouts, decided, ordered, untouched, succeeded⟩ := hs
  refine ⟨?_, ?_, ordered.append_passive hp, ?_, ?_⟩
  · rwa [List.countP_append, hpay]
  · rwa [List.countP_append, hdec]
  · rwa [List.countP_append, List.countP_append, hpay, hdec]
  · intro t ht state
    obtain ⟨hd, r, hr, paid⟩ := succeeded t ht state
    exact ⟨by rw [List.countP_append, hd, hdec], r, List.mem_append_left _ hr, paid⟩

lemma moved (hs : Settled o l) (ho : ∀ t, o = some t → t.state ∈ Settlement.State.locking)
    (state : t'.state ∈ Settlement.State.locking) : Settled (some t') l := by
  obtain ⟨payouts, decided, ordered, untouched, -⟩ := hs
  refine ⟨payouts, decided, ordered, fun _ => untouched ho, ?_⟩
  rintro _ ⟨⟩ h
  rw [h] at state
  exact absurd state (by decide)

lemma ended (hs : Settled o l) (state : t'.state.isTerminal) : Settled (some t') l := by
  obtain ⟨payouts, decided, ordered, -, -⟩ := hs
  refine ⟨payouts, decided, ordered, fun h => ?_, ?_⟩
  · exact absurd (h t' rfl) (Settlement.State.notMem_locking_of_isTerminal state)
  · rintro _ ⟨⟩ h
    rw [h] at state
    cases state

lemma paid (hs : Settled (some t) l) (state : t.state = .waitingForDepositConfirmations) (value : Wei)
    (gasLimit : UInt64) (quote : Quote) (answer : Except Error Receipt) :
    Settled (some (Payout.settled t answer)) (l ++ [⟨.callForUser value gasLimit quote, answer⟩]) := by
  obtain ⟨-, -, ordered, untouched, -⟩ := hs
  obtain ⟨hpay, hdec⟩ := untouched (by rintro _ ⟨⟩; rw [state]; decide)
  refine ⟨?_, ?_, ordered.concat nofun, ?_, ?_⟩
  · rw [List.countP_append, hpay]
    exact le_rfl
  · rw [List.countP_append, hdec]
    exact Nat.zero_le 1
  · intro h
    exact absurd (h _ rfl) (Payout.state_settled_notMem_locking t answer)
  · rintro _ ⟨⟩ hs
    refine ⟨by rw [List.countP_append, hdec]; rfl, _, List.mem_append_right _ (List.mem_singleton_self _), ?_⟩
    cases answer with
    | ok receipt => rfl
    | error e => cases hs

lemma lagged (hs : Settled (some t) l) (state : t.state = .callForUserSucceeded) (proof : DepositProof) (quote : Quote)
    {answer : Except Error Receipt} (lagging : Registration.isLagging answer) :
    Settled (some t) (l ++ [⟨.registerPegin proof quote, answer⟩]) := by
  obtain ⟨payouts, decided, ordered, untouched, succeeded⟩ := hs
  obtain ⟨hdec, r, hr, paid⟩ := succeeded t rfl state
  have hl : [(⟨.registerPegin proof quote, answer⟩ : Reply)].countP Reply.isDecided = 0 := by
    simp [Reply.isDecided, lagging]
  refine ⟨?_, ?_, ordered.concat fun _ => ⟨r, hr, paid⟩, ?_, ?_⟩
  · rwa [List.countP_append]
  · rwa [List.countP_append, hl]
  · intro h
    have locking := h t rfl
    rw [state] at locking
    exact absurd locking (by decide)
  · intro _ _ _
    exact ⟨by rw [List.countP_append, hdec, hl], r, List.mem_append_left _ hr, paid⟩

lemma registered (hs : Settled (some t) l) (state : t.state = .callForUserSucceeded) (proof : DepositProof)
    (quote : Quote) (answer : Except Error Receipt) :
    Settled (some (Registration.settled t answer)) (l ++ [⟨.registerPegin proof quote, answer⟩]) := by
  obtain ⟨payouts, -, ordered, -, succeeded⟩ := hs
  obtain ⟨hdec, r, hr, paid⟩ := succeeded t rfl state
  refine ⟨?_, ?_, ordered.concat fun _ => ⟨r, hr, paid⟩, ?_, ?_⟩
  · rwa [List.countP_append]
  · rw [List.countP_append, hdec, Nat.zero_add]
    exact List.countP_le_length
  · intro h
    exact absurd (h _ rfl) (Registration.state_settled_notMem_locking t answer)
  · rintro _ ⟨⟩ h
    cases answer <;> cases h

end Settled

lemma settled_after {d : Deed} {s : Store} (keyed : s.Keyed) (kept : d.KeepsUpdates) {h : String} {l : List Reply}
    (hs : Settled s.settlements[h]? l) :
    Settled (d.after s).settlements[h]? (l ++ if d.step.hash? = some h then d.replies s else []) := by
  cases turn d keyed h with
  | idle after quiet =>
    rw [after]
    split
    · rename_i hash
      exact hs.append_passive (quiet hash)
    · rwa [List.append_nil]
  | accepted signature quote t step commits =>
    rw [Deed.after, commits.lookup, if_pos (by rw [step]; rfl)]
    have fresh : s.settlements[h]? = none := commits.fresh
    rw [fresh] at hs
    refine (hs.moved (by simp) ?_).append_passive (Deed.quiet_of_calls commits.calls)
    rw [commits.prepared.state]
    decide
  | observed txid t step found state quiet leaves =>
    rw [leaves.lookup_of_kept kept (keyed h t found), if_pos (by rw [step]; rfl)]
    rw [found] at hs
    refine (hs.moved ?_ (by decide : Settlement.State.waitingForDepositConfirmations ∈ _)).append_passive quiet
    rintro _ ⟨⟩
    rw [state]
    decide
  | lapsed t step found state after =>
    rw [after, if_neg (by simp [step, Step.hash?]), List.append_nil]
    exact hs.ended rfl
  | closed given state step hash unread move stored quiet leaves =>
    rw [leaves.lookup_of_kept kept hash, if_pos (by rw [Step.hash?_of_closing? step, hash])]
    exact (hs.ended (Step.isTerminal_of_closing? step)).append_passive quiet
  | paid given t value gasLimit quote answer step hash found state looked orders leaves =>
    -- `t` still waits for confirmations, so nobody has been paid before
    have key : (Payout.settled t answer).quoteHash = h := (Payout.quoteHash_settled t answer).trans (keyed h t found)
    obtain ⟨before, passive, replies⟩ := orders
    rw [leaves.lookup_of_kept kept key, if_pos (by rw [step, ← hash]; rfl), replies, ← List.append_assoc]
    rw [found] at hs
    exact (hs.append_passive passive).paid state value gasLimit quote answer
  | lagged given t proof quote answer step hash found state orders lagging after =>
    obtain ⟨before, passive, replies⟩ := orders
    rw [after, if_pos (by rw [step, ← hash]; rfl), replies, ← List.append_assoc]
    rw [found] at hs ⊢
    exact (hs.append_passive passive).lagged state proof quote lagging
  | registered given t proof quote answer step hash found state orders decided leaves =>
    -- `t` is paid and not registered, so no registration has been decided before
    have key : (Registration.settled t answer).quoteHash = h :=
      (Registration.quoteHash_settled t answer).trans (keyed h t found)
    obtain ⟨before, passive, replies⟩ := orders
    rw [leaves.lookup_of_kept kept key, if_pos (by rw [step, ← hash]; rfl), replies, ← List.append_assoc]
    rw [found] at hs
    exact (hs.append_passive passive).registered state proof quote answer

lemma settled_play (ds : List Deed) (kept : ∀ d ∈ ds, d.KeepsUpdates) (h : String) :
    Settled (play .empty ds).settlements[h]? (dealings h (entries .empty ds)) := by
  induction ds using List.reverseRecOn with
  | nil => exact .nil
  | append_singleton ds d ih =>
    rw [play_concat, entries_concat, dealings_concat]
    have hs := ih fun d hd => kept d (List.mem_append_left _ hd)
    exact settled_after (keyed_play keyed_empty ds) (kept d (by simp)) hs

theorem pays_once_and_registers_once (ds : List Deed) (kept : ∀ d ∈ ds, d.KeepsUpdates) (h : String) :
    (dealings h (entries .empty ds)).countP Reply.isPayout ≤ 1 ∧
      (dealings h (entries .empty ds)).countP Reply.isDecided ≤ 1 ∧ Ordered (dealings h (entries .empty ds)) := by
  obtain ⟨payouts, decided, ordered, -, -⟩ := settled_play ds kept h
  exact ⟨payouts, decided, ordered⟩

namespace Sample

def alteredCopy (state : Settlement.State) : Settlement where
  quoteHash := hash
  depositAddress := ""
  signature := ""
  requiredLiquidity := 0
  state
  deposit := some txid
  callForUser := .none
  registerPegin := .none
  owner := none

def triedTwice : List Deed := seenDeposit ++
  [deed 2 (.callForUser (alteredCopy .waitingForDepositConfirmations)),
    deed 3 (.callForUser (alteredCopy .waitingForDepositConfirmations)),
    deed 4 (.registerPegin (alteredCopy .callForUserSucceeded)),
    deed 5 (.registerPegin (alteredCopy .callForUserSucceeded))]

lemma keepsUpdates_triedTwice : ∀ d ∈ triedTwice, d.KeepsUpdates := by
  simp [triedTwice, seenDeposit, acceptedQuote, keepsUpdates_deed]

end Sample

theorem triedTwice_pays_once :
    (dealings Sample.hash (entries .empty Sample.triedTwice)).countP Reply.isPayout ≤ 1 ∧
      (dealings Sample.hash (entries .empty Sample.triedTwice)).countP Reply.isDecided ≤ 1 ∧
        Ordered (dealings Sample.hash (entries .empty Sample.triedTwice)) :=
  pays_once_and_registers_once Sample.triedTwice Sample.keepsUpdates_triedTwice Sample.hash

end Flyover
