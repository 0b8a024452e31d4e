import Flyover.Expiry
import Flyover.Proofs.Endings.Update

/-! The ways in which an expiry ends. -/

namespace Flyover.Expiry

open Run Trace

inductive Ending (given : Settlement) (σ : Surroundings) (t : Trace) : Trace → Prop
  | idle {t' : Trace} (inquired : t.Inquires (Blind given.quoteHash) t') : Ending given σ t t'
  | closed {t' t'' : Trace} (state : given.state = .waitingForDeposit)
      (inquired : t.Inquires (Blind given.quoteHash) t')
      (writes : Writes σ { given with state := .timeForDepositElapsed } t' t'') : Ending given σ t t''

lemma Ending.alike {given : Settlement} {σ : Surroundings} {t t' : Trace} (h : Ending given σ t t') :
    t.store.Alike t'.store := by
  cases h with
  | idle inquired => exact inquired.alike
  | closed state inquired writes => exact trans_of _ inquired.alike writes.alike

lemma ending_ledBy (given : Settlement) (σ : Surroundings) : LedBy (Blind given.quoteHash) (Ending given σ) where
  idle h := .idle h
  closed h ho := by
    cases ho with
    | idle inquired => exact .idle (trans_of _ h inquired)
    | closed state inquired writes => exact .closed state (trans_of _ h inquired) writes

lemma close_ends (given : Settlement) (σ : Surroundings) (t : Trace) :
    Ending given σ t ((close given).resume σ t).trace := by
  have led := ending_ledBy given σ
  rw [close]
  split
  · exact .idle (refl_of _ t)
  refine led.bind (.check _ _) fun _ t hs => ?_
  have state : given.state = .waitingForDeposit := by simpa using (resume_check_eq_ok_iff.mp hs).1
  refine led.bind (.look ⟨rfl, by simp⟩) fun found t _ => ?_
  refine led.bind (.require _ _) fun quote t _ => ?_
  refine led.bind .now fun now t _ => ?_
  refine led.bind (.check _ _) fun _ t _ => ?_
  have hm : given.moveTo .timeForDepositElapsed = .ok { given with state := .timeForDepositElapsed } := by
    simp [Settlement.moveTo, state, Settlement.State.canMove]
  have hw := updateSettlement_writes σ { given with state := .timeForDepositElapsed } t
  rw [hm, liftM_ok, pure_bind]
  rcases ho : (updateSettlement { given with state := .timeForDepositElapsed }).resume σ t with ⟨e | u, t'⟩ <;>
    rw [ho] at hw
  · rw [resume_bind_of_error ho]
    exact .closed state (refl_of _ t) hw
  · rw [resume_bind_of_ok ho]
    exact .closed state (refl_of _ t) hw

lemma resume_close_of_kept {given : Settlement} {quote : Quote} {σ : Surroundings} {t : Trace}
    (state : given.state = .waitingForDeposit) (quoted : t.store.quotes[given.quoteHash]? = some quote)
    (expired : quote.isExpiredAt σ.now) (stored : given.quoteHash ∈ t.store.settlements)
    (kept : ∀ calls a, (σ.peers calls).outage a = none) :
    (close given).resume σ t = ⟨.ok { given with state := .timeForDepositElapsed },
      (t.noting (.access (.quote given.quoteHash))).writing { given with state := .timeForDepositElapsed }⟩ := by
  have hm : given.moveTo .timeForDepositElapsed = .ok { given with state := .timeForDepositElapsed } := by
    simp [Settlement.moveTo, state, Settlement.State.canMove]
  have hc {c : Bool} {e : Error} {t : Trace} (h : c) : (check c e).resume σ t = ⟨.ok (), t⟩ :=
    resume_check_eq_ok_iff.mpr ⟨h, rfl⟩
  have hf : (findQuote given.quoteHash).resume σ t = ⟨.ok (some quote), t.noting (.access (.quote given.quoteHash))⟩ :=
    resume_access_eq_ok_iff.mpr ⟨kept _ _, quoted, rfl⟩
  have hu := resume_updateSettlement_of_kept (s := { given with state := .timeForDepositElapsed })
    (t := t.noting (.access (.quote given.quoteHash))) (kept _ _) stored
  rw [close, if_neg (by rw [state]; decide), resume_bind_of_ok (hc (decide_eq_true state)),
    resume_bind_of_ok hf, resume_bind_of_ok (resume_require_some σ _ _ quote), resume_bind_of_ok (resume_now σ _),
    resume_bind_of_ok (hc expired), hm, liftM_ok, pure_bind, resume_bind_of_ok hu,
    resume_pure]

/-! A sweep closes settlements that were stored when it began, each as it was then. -/

def lapsed (s : Settlement) : Settlement := { s with state := .timeForDepositElapsed }

lemma state_lapsed_notMem_locking {s : Settlement} : (lapsed s).state ∉ Settlement.State.locking := by
  simp [lapsed, Settlement.State.locking]

structure Swept (before after : Store) : Prop where
  alike : before.Alike after
  settlements : ∀ h : String, after.settlements[h]? = before.settlements[h]? ∨ ∃ s : Settlement,
    before.settlements[h]? = some s ∧ s.state = .waitingForDeposit ∧ after.settlements[h]? = some (lapsed s)

instance : Std.Refl Swept := ⟨fun _ => ⟨refl_of _ _, fun _ => .inl rfl⟩⟩

lemma Swept.close {before : Store} {s : Settlement} (found : before.settlements[s.quoteHash]? = some s) :
    (close s).Keeps (Preserves (Swept before)) := by
  intro σ t swept
  have ending := close_ends s σ t
  refine ⟨trans_of _ swept.alike ending.alike, fun h => ?_⟩
  cases ending with
  | idle inquired =>
    rw [inquired.store_eq]
    exact swept.settlements h
  | closed state inquired writes =>
    by_cases hh : s.quoteHash = h
    · subst hh
      rcases writes.lookup_self with hs | hs
      · exact .inr ⟨s, found, state, hs⟩
      · rw [hs, inquired.store_eq]
        exact swept.settlements _
    · rw [writes.lookup_of_ne hh, inquired.store_eq]
      exact swept.settlements h

lemma isDue_inquires (s : Settlement) : (isDue s).Keeps Trace.Asks := by
  refine .bind (.mapError (.look rfl)) fun quote => ?_
  exact .bind .now fun now => .pure _

lemma Swept.sweepOne {before : Store} {s : Settlement} (found : before.settlements[s.quoteHash]? = some s) :
    (sweepOne s).Keeps (Preserves (Swept before)) := by
  refine .bind ((isDue_inquires s).mono fun t t' h => h.preserves _) fun due => .ite (.bind ?_ fun r => ?_) (.pure _)
  · exact .attempt (.mapError (.close found))
  · cases r with
    | ok _ => exact .pure _
    | error _ => exact .pure _

lemma swept_ledBy (p : Call → Prop) : LedBy p fun t t' => Swept t.store t'.store where
  idle h := h.store_eq ▸ refl_of Swept _
  closed h ho := h.store_eq ▸ ho

lemma sweepExpired_sweeps (σ : Surroundings) (t : Trace) (keyed : t.store.Keyed) :
    Swept t.store (sweepExpired.resume σ t).trace.store := by
  refine (swept_ledBy (fun c => c.isPassive)).bind (.mapError (.look rfl)) fun waiting t' hw => ?_
  obtain ⟨-, rfl, rfl⟩ := resume_access_eq_ok_iff.mp (resume_mapError_eq_ok_iff.mp hw)
  have hm : (List.mapM sweepOne (t.store.settlementsIn [.waitingForDeposit])).Keeps (Preserves (Swept t.store)) := by
    refine .mapM _ fun s hs => ?_
    obtain ⟨⟨hash, found⟩, -⟩ := Store.mem_settlementsWhere.mp hs
    exact .sweepOne (keyed hash s found ▸ found)
  exact Keeps.bind hm (fun hashes => .pure _) σ _ (refl_of Swept _)

end Flyover.Expiry
