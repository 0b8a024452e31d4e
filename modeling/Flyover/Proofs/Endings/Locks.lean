import Flyover.Proofs.Endings.Acceptance
import Flyover.Proofs.Endings.Payout
import Flyover.Proofs.Endings.Registration
import Flyover.Proofs.Run.Locks

/-! The locks that use cases take. An acceptance takes the one over liquidity, a payout and a registration take the one over
the wallet, and each takes it once, after a part that leaves the wallet alone. -/

namespace Flyover

open Run Trace

def Call.Spends : Call → Prop
  | .question (.contractBalance _) | .question (.callForUser ..) | .question (.registerPegin ..) => True
  | _ => False

abbrev Trace.Saves : Trace → Trace → Prop := Trace.Calls fun c => ¬ c.Spends

namespace Liquidity

lemma available_lockless : available.Lockless := by
  refine .bind .settings fun settings => ?_
  refine .bind (.ask _) fun networkBalance => ?_
  refine .bind (.ask _) fun contractBalance => ?_
  refine .bind (.access _ _) fun settlements => ?_
  refine .bind (.lift _) fun locked => ?_
  exact .bind (.lift _) fun held => .pure _

lemma require_lockless (amount : Wei) : (require amount).Lockless :=
  .bind available_lockless fun _ => .ite (.fail _) (.pure _)

end Liquidity

namespace Acceptance

def appraise (hash : String) (signature : Option String) : Run (Quote × Option TrustedAccount) := do
  let quote ← (← findQuote hash) |> require .quoteNotFound
  check (!quote.isExpiredAt (← now)) .expiredQuote
  return (quote, ← signature.mapM (trustedAccount hash))

def conclude (hash : String) (quote : Quote) (account : Option TrustedAccount) : Run Acceptance := do
  match ← findSettlement hash with
  | some s => return { signature := s.signature, depositAddress := s.depositAddress }
  | none => commit hash quote account

lemma accept_eq_conclude (hash : String) (signature : Option String) :
    accept hash signature = appraise hash signature >>= fun a => acquire .liquidity >>= fun _ => conclude hash a.1 a.2 := by
  simp only [appraise, bind_assoc, pure_bind]
  rfl

lemma appraise_looks (hash : String) (signature : Option String) : (appraise hash signature).Keeps Trace.Looks := by
  refine .bind (.look ⟨rfl, rfl⟩) fun found => ?_
  refine .bind (.require _ _) fun quote => ?_
  refine .bind .now fun now => ?_
  refine .bind (.check _ _) fun _ => ?_
  exact .bind (.mapM_option _ (trustedAccount_looks hash)) fun account => .pure _

lemma trustedAccount_lockless (hash signature : String) : (trustedAccount hash signature).Lockless := by
  refine .bind (.lift _) fun address => ?_
  refine .bind (.access _ _) fun found => ?_
  refine .bind (.require _ _) fun account => ?_
  exact .bind (.check _ _) fun _ => .pure _

lemma appraise_lockless (hash : String) (signature : Option String) : (appraise hash signature).Lockless := by
  refine .bind (.access _ _) fun found => ?_
  refine .bind (.require _ _) fun quote => ?_
  refine .bind .now fun now => ?_
  refine .bind (.check _ _) fun _ => ?_
  exact .bind (.mapM_option _ (trustedAccount_lockless hash)) fun account => .pure _

lemma weigh_lockless (quote : Quote) (account : Option TrustedAccount) : (weigh quote account).Lockless := by
  cases account with
  | none => exact .pure ()
  | some account =>
    refine .bind (.access _ _) fun settlements => ?_
    refine .bind (.lift _) fun locked => ?_
    refine .bind (.lift _) fun withValue => ?_
    refine .bind (.lift _) fun requested => ?_
    exact .ite (.fail _) (.pure _)

lemma depositAddressOf_lockless (hash : String) (quote : Quote) : (depositAddressOf hash quote).Lockless := by
  refine .bind (.lift _) fun quoteHash => ?_
  refine .bind (.ask _) fun userAddress => ?_
  refine .bind (.ask _) fun providerAddress => ?_
  refine .bind (.ask _) fun federation => ?_
  exact .bind .contractAddress fun bridgeContract => .ask _

lemma prepare_lockless (price : Wei → Except Error Wei) (hash : String) (quote : Quote) (owner : Option Address) :
    (prepare price hash quote owner).Lockless := by
  refine .bind (depositAddressOf_lockless hash quote) fun depositAddress => ?_
  refine .bind (.ask _) fun gasPrice => ?_
  refine .bind (.lift _) fun requiredLiquidity => ?_
  refine .bind (.mapError (Liquidity.require_lockless _)) fun _ => ?_
  refine .bind .settings fun settings => ?_
  exact .bind (.lift _) fun signature => .pure _

lemma enter_lockless (quote : Quote) (s : Settlement) : (enter quote s).Lockless :=
  .bind (.change _ _) fun _ => .bind (.publish _) fun _ => .pure _

lemma conclude_lockless (hash : String) (quote : Quote) (account : Option TrustedAccount) :
    (conclude hash quote account).Lockless := by
  refine .bind (.access _ _) fun found => ?_
  cases found with
  | some s => exact .pure _
  | none =>
    show (commit hash quote account).Lockless
    rw [commit_eq]
    exact .bind (weigh_lockless _ _) fun _ => .bind (prepare_lockless _ _ _ _) fun s => enter_lockless quote s

lemma accept_locks (hash : String) (signature : Option String) :
    Locks .liquidity (appraise hash signature) (accept hash signature) where
  lockless := appraise_lockless hash signature
  split := ⟨fun a => conclude hash a.1 a.2, fun a => conclude_lockless hash a.1 a.2, accept_eq_conclude hash signature⟩

end Acceptance

namespace Run

lemma record_lockless (s : Settlement) (e : Event) (error : Option Error) : (record s e error).Lockless := by
  refine .bind (.publish e) fun _ => ?_
  refine .bind (.attempt (.change _ _)) fun written => ?_
  cases error <;> cases written
  · exact .fail _
  · exact .pure s
  · exact .fail _
  · exact .fail _

lemma settlementIn_lockless (state : Settlement.State) (hash : String) : (settlementIn state hash).Lockless := by
  refine .bind (.access _ _) fun found => ?_
  refine .bind (.require _ _) fun s => ?_
  exact .bind (.check _ _) fun _ => .pure s

end Run

namespace Payout

def spend (hash : String) (quote : Quote) : Run Settlement := do
  let settlement ← currentSettlement hash
  let amount ← amountToSend quote
  order quote settlement amount

lemma pay_eq_spend (given : Settlement) :
    pay given = checkDeposit given >>= fun quote => acquire .wallet >>= fun _ => spend given.quoteHash quote := by
  simp only [pay_eq, allot, spend, bind_assoc, pure_bind]

lemma examine_lockless (given : Settlement) : (examine given).Lockless := by
  refine .bind (.check _ _) fun _ => ?_
  refine .bind (.require _ _) fun txid => ?_
  refine .bind (.access _ _) fun found => ?_
  refine .bind (.require _ _) fun quote => ?_
  refine .bind .now fun now => ?_
  refine .bind (.check _ _) fun _ => ?_
  refine .bind (.ask _) fun deposit => ?_
  refine .bind (.check _ _) fun _ => ?_
  refine .bind (.lift _) fun required => ?_
  exact .bind (.lift _) fun sent => .pure _

lemma refuse_lockless (quote : Quote) (given : Settlement) (error : Error) : (refuse quote given error).Lockless := by
  refine .bind (.lift _) fun closed => ?_
  refine .bind (.publish _) fun _ => ?_
  refine .bind (.attempt (.change _ _)) fun written => ?_
  cases written <;> exact .fail _

lemma checkDeposit_lockless (given : Settlement) : (checkDeposit given).Lockless := by
  rw [checkDeposit_eq]
  refine .bind (examine_lockless given) fun f => ?_
  exact .ite (.bind (refuse_lockless _ _ _) fun _ => .pure _) (.pure _)

lemma spend_lockless (hash : String) (quote : Quote) : (spend hash quote).Lockless := by
  refine .bind (settlementIn_lockless _ hash) fun stored => ?_
  refine .bind (.bind .settings fun settings => ?_) fun amount => ?_
  · refine .bind (.ask _) fun balance => ?_
    refine .ite (.pure _) (.bind (.ask _) fun held => ?_)
    exact .ite (.bind (.fail _) fun _ => .pure _) (.pure _)
  · refine .bind (.attempt (.ask _)) fun answer => ?_
    exact .bind (.lift _) fun settled => record_lockless _ _ _

lemma pay_locks (given : Settlement) : Locks .wallet (checkDeposit given) (pay given) where
  lockless := checkDeposit_lockless given
  split := ⟨spend given.quoteHash, spend_lockless given.quoteHash, pay_eq_spend given⟩

lemma examine_saves (given : Settlement) : (examine given).Keeps (Trace.Inquires fun c => ¬ c.Spends) := by
  refine .bind (.check _ _) fun _ => ?_
  refine .bind (.require _ _) fun txid => ?_
  refine .bind (.look id) fun found => ?_
  refine .bind (.require _ _) fun quote => ?_
  refine .bind .now fun now => ?_
  refine .bind (.check _ _) fun _ => ?_
  refine .bind (.inquire id) fun deposit => ?_
  refine .bind (.check _ _) fun _ => ?_
  refine .bind (.lift _) fun required => ?_
  exact .bind (.lift _) fun sent => .pure _

lemma refuse_saves (quote : Quote) (given : Settlement) (error : Error) : (refuse quote given error).Keeps Trace.Saves := by
  have published (e : Event) : (publish e).Keeps Trace.Saves := fun σ t => ⟨[], by simp⟩
  have updated (s : Settlement) : (updateSettlement s).Keeps Trace.Saves :=
    fun σ t => ⟨_, (updateSettlement_writes σ s t).calls, by simp [Call.Spends]⟩
  refine .bind (.lift _) fun closed => ?_
  refine .bind (published _) fun _ => ?_
  refine .bind (.attempt (updated closed)) fun written => ?_
  cases written <;> exact .fail _

lemma checkDeposit_saves (given : Settlement) : (checkDeposit given).Keeps Trace.Saves := by
  rw [checkDeposit_eq]
  refine .bind ((examine_saves given).mono fun _ _ inquired => inquired.calls) fun f => ?_
  exact .ite (.bind (refuse_saves _ _ _) fun _ => .pure _) (.pure _)

lemma resume_refuse_eq_ok_iff {quote : Quote} {given : Settlement} {error : Error} {σ : Surroundings} {t t' : Trace}
    {u : Unit} : (refuse quote given error).resume σ t = ⟨.ok u, t'⟩ ↔ False := by
  refine ⟨fun h => ?_, False.elim⟩
  simp only [refuse, resume_bind_eq_ok_iff] at h
  obtain ⟨closed, t₁, -, _, t₂, -, written, t₃, -, h⟩ := h
  cases written <;> exact resume_fail_eq_ok_iff.mp h

lemma inquires_of_resume_checkDeposit_eq_ok {given : Settlement} {quote : Quote} {σ : Surroundings} {t t' : Trace}
    (h : (checkDeposit given).resume σ t = ⟨.ok quote, t'⟩) : t.Inquires (Blind given.quoteHash) t' := by
  rw [checkDeposit_eq] at h
  obtain ⟨f, t₁, examined, h⟩ := resume_bind_eq_ok_iff.mp h
  split at h
  · obtain ⟨_, _, refused, -⟩ := resume_bind_eq_ok_iff.mp h
    exact (resume_refuse_eq_ok_iff.mp refused).elim
  · obtain ⟨-, rfl⟩ := resume_pure_eq_ok_iff.mp h
    exact (examine_inquires given).of_resume examined

end Payout

namespace Registration

def claim (hash : String) (quote : Quote) (proof : DepositProof) : Run Settlement := do
  let settlement ← currentSettlement hash
  submit quote proof settlement

lemma register_eq_claim (given : Settlement) :
    register given = prove given >>= fun p => acquire .wallet >>= fun _ => claim given.quoteHash p.1 p.2 := by
  simp only [register_eq, ready, claim, bind_assoc, pure_bind]

lemma prove_lockless (given : Settlement) : (prove given).Lockless := by
  refine .bind (.check _ _) fun _ => ?_
  refine .bind (.require _ _) fun txid => ?_
  refine .bind (.access _ _) fun found => ?_
  refine .bind (.require _ _) fun quote => ?_
  refine .bind (.ask _) fun deposit => ?_
  refine .bind (.ask _) fun required => ?_
  refine .bind (.check _ _) fun _ => ?_
  refine .bind (.lift _) fun signature => ?_
  refine .bind (.ask _) fun transaction => ?_
  refine .bind (.ask _) fun merkleTree => ?_
  exact .bind (.ask _) fun height => .pure _

lemma claim_lockless (hash : String) (quote : Quote) (proof : DepositProof) : (claim hash quote proof).Lockless := by
  refine .bind (settlementIn_lockless _ hash) fun stored => ?_
  refine .bind (.attempt (.ask _)) fun answer => ?_
  exact .bind (.lift _) fun settled => record_lockless _ _ _

lemma register_locks (given : Settlement) : Locks .wallet (prove given) (register given) where
  lockless := prove_lockless given
  split := ⟨fun p => claim given.quoteHash p.1 p.2, fun p => claim_lockless given.quoteHash p.1 p.2,
    register_eq_claim given⟩

lemma prove_saves (given : Settlement) : (prove given).Keeps (Trace.Inquires fun c => ¬ c.Spends) := by
  refine .bind (.check _ _) fun _ => ?_
  refine .bind (.require _ _) fun txid => ?_
  refine .bind (.look id) fun found => ?_
  refine .bind (.require _ _) fun quote => ?_
  refine .bind (.inquire id) fun deposit => ?_
  refine .bind (.inquire id) fun required => ?_
  refine .bind (.check _ _) fun _ => ?_
  refine .bind (.lift _) fun signature => ?_
  refine .bind (.inquire id) fun transaction => ?_
  refine .bind (.inquire id) fun merkleTree => ?_
  exact .bind (.inquire id) fun height => .pure _

end Registration

end Flyover
