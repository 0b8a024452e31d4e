import Flyover.Proofs.Run.Frame

/-! What has happened in a run that ends with a result. -/

namespace Flyover.Run

variable {α β : Type} {σ : Surroundings} {t t' : Trace} {a : α}

lemma resume_eq_of_result_eq_ok {x : Run α} (h : (x.resume σ t).result = .ok a) :
    x.resume σ t = ⟨.ok a, (x.resume σ t).trace⟩ := by
  rw [← h]

lemma resume_pure_eq_ok_iff {b : α} : (pure b : Run α).resume σ t = ⟨.ok a, t'⟩ ↔ b = a ∧ t = t' := by
  rw [resume_pure, Outcome.mk.injEq, Except.ok.injEq]

lemma resume_fail_eq_ok_iff {e : Error} : (fail e : Run α).resume σ t = ⟨.ok a, t'⟩ ↔ False := by
  rw [resume_fail, Outcome.mk.injEq]
  simp

lemma resume_lift_eq_ok_iff {r : Except Error α} : (liftM r : Run α).resume σ t = ⟨.ok a, t'⟩ ↔ r = .ok a ∧ t = t' := by
  cases r with
  | ok b => rw [liftM_ok, resume_pure_eq_ok_iff, Except.ok.injEq]
  | error e => rw [liftM_error, resume_fail_eq_ok_iff]; simp

lemma resume_require_eq_ok_iff {e : Error} {o : Option α} :
    (require e o).resume σ t = ⟨.ok a, t'⟩ ↔ o = some a ∧ t = t' := by
  cases o with
  | none => rw [require, resume_fail_eq_ok_iff]; simp
  | some b => rw [require, resume_pure_eq_ok_iff, Option.some.injEq]

lemma resume_check_eq_ok_iff {c : Bool} {e : Error} {u : Unit} : (check c e).resume σ t = ⟨.ok u, t'⟩ ↔ c ∧ t = t' := by
  rw [resume_check, Outcome.mk.injEq]
  cases c <;> simp

lemma resume_settings_eq_ok_iff {s : Settings} : settings.resume σ t = ⟨.ok s, t'⟩ ↔ σ.settings = s ∧ t = t' := by
  rw [resume_settings, Outcome.mk.injEq, Except.ok.injEq]

lemma resume_now_eq_ok_iff {n : Int} : now.resume σ t = ⟨.ok n, t'⟩ ↔ σ.now = n ∧ t = t' := by
  rw [resume_now, Outcome.mk.injEq, Except.ok.injEq]

lemma resume_nonce_eq_ok_iff {n : Int64} : nonce.resume σ t = ⟨.ok n, t'⟩ ↔ σ.nonce = n ∧ t = t' := by
  rw [resume_nonce, Outcome.mk.injEq, Except.ok.injEq]

lemma resume_acquire_eq_ok_iff {l : Lock} {u : Unit} :
    (acquire l).resume σ t = ⟨.ok u, t'⟩ ↔ σ.held l = false ∧ t = t' := by
  rw [resume_acquire, Outcome.mk.injEq]
  cases σ.held l <;> simp

lemma resume_ask_eq_ok_iff {q : Question} {b : q.Answer} :
    (ask q).resume σ t = ⟨.ok b, t'⟩ ↔ (σ.peers t.calls).answer q = .ok b ∧ t.noting (.question q) = t' := by
  rw [resume_ask, Outcome.mk.injEq]
  cases (σ.peers t.calls).answer q <;> simp [Except.mapError]

lemma resume_contractAddress_eq_ok_iff {b : Address} :
    contractAddress.resume σ t = ⟨.ok b, t'⟩ ↔ (σ.peers t.calls).contractAddress = b ∧ t.noting .contractAddress = t' := by
  rw [resume_contractAddress, Outcome.mk.injEq, Except.ok.injEq]

lemma resume_access_eq_ok_iff {c : Access} {find : Store → α} :
    (access c find).resume σ t = ⟨.ok a, t'⟩ ↔
      (σ.peers t.calls).outage c = none ∧ find t.store = a ∧ t.noting (.access c) = t' := by
  rw [resume_access]
  cases (σ.peers t.calls).outage c <;> simp

lemma resume_mapError_eq_ok_iff {f : Error → Error} {x : Run α} :
    (mapError f x).resume σ t = ⟨.ok a, t'⟩ ↔ x.resume σ t = ⟨.ok a, t'⟩ := by
  rw [resume_mapError]
  rcases x.resume σ t with ⟨(e | l) | b, t''⟩ <;> simp

end Flyover.Run
