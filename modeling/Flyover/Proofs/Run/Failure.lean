import Flyover.Proofs.Run.Frame

/-! Where a run has halted, and why. -/

namespace Flyover

def Halt.mapError (f : Error → Error) : Halt → Halt
  | .failed e => .failed (f e)
  | .waiting lock => .waiting lock

namespace Run

variable {α β : Type} {σ : Surroundings} {t t' : Trace} {h : Halt}

lemma resume_bind_eq_error_iff {x : Run α} {f : α → Run β} :
    (x >>= f).resume σ t = ⟨.error h, t'⟩ ↔
      x.resume σ t = ⟨.error h, t'⟩ ∨ ∃ a t₁, x.resume σ t = ⟨.ok a, t₁⟩ ∧ (f a).resume σ t₁ = ⟨.error h, t'⟩ := by
  rw [resume_bind]
  rcases x.resume σ t with ⟨e | a, t₁⟩
  · simp
  · simp only [Outcome.mk.injEq, reduceCtorEq, false_and, Except.ok.injEq, false_or]
    constructor
    · exact fun halted => ⟨a, t₁, ⟨rfl, rfl⟩, halted⟩
    · rintro ⟨_, _, ⟨rfl, rfl⟩, halted⟩
      exact halted

lemma resume_pure_eq_error_iff {a : α} : (pure a : Run α).resume σ t = ⟨.error h, t'⟩ ↔ False := by
  simp

lemma resume_check_eq_error_iff {c : Bool} {e : Error} :
    (check c e).resume σ t = ⟨.error h, t'⟩ ↔ c = false ∧ h = .failed e ∧ t' = t := by
  rw [resume_check, Outcome.mk.injEq, eq_comm (a := t)]
  cases c <;> simp [eq_comm]

lemma resume_require_eq_error_iff {e : Error} {o : Option α} :
    (require e o).resume σ t = ⟨.error h, t'⟩ ↔ o = none ∧ h = .failed e ∧ t' = t := by
  cases o <;> simp [eq_comm]

lemma resume_lift_eq_error_iff {r : Except Error α} :
    (liftM r : Run α).resume σ t = ⟨.error h, t'⟩ ↔ ∃ e, r = .error e ∧ h = .failed e ∧ t' = t := by
  cases r <;> simp [eq_comm]

lemma resume_now_eq_error_iff : now.resume σ t = ⟨.error h, t'⟩ ↔ False := by
  simp

lemma resume_access_eq_error_iff {a : Access} {find : Store → α} :
    (access a find).resume σ t = ⟨.error h, t'⟩ ↔
      ∃ e, (σ.peers t.calls).outage a = some e ∧ h = .failed e ∧ t' = t.noting (.access a) := by
  rw [resume_access]
  cases (σ.peers t.calls).outage a <;> simp [eq_comm]

lemma resume_mapError_eq_error_iff {f : Error → Error} {x : Run α} :
    (mapError f x).resume σ t = ⟨.error h, t'⟩ ↔ ∃ h₀, x.resume σ t = ⟨.error h₀, t'⟩ ∧ h = h₀.mapError f := by
  rw [resume_mapError]
  rcases x.resume σ t with ⟨(e | lock) | a, t₁⟩ <;> simp [Halt.mapError, eq_comm, and_comm]

lemma result_mapError (f : Error → Error) (x : Run α) (σ : Surroundings) (t : Trace) :
    ((mapError f x).resume σ t).result = (x.resume σ t).result.mapError (Halt.mapError f) := by
  rw [resume_mapError]
  rcases x.resume σ t with ⟨(e | lock) | a, t'⟩ <;> rfl

lemma resume_updateSettlement_eq_error_iff {s : Settlement} :
    (updateSettlement s).resume σ t = ⟨.error h, t'⟩ ↔
      ((∃ e, (σ.peers t.calls).outage (.updateSettlement s.quoteHash) = some e ∧ h = .failed e) ∨
        (σ.peers t.calls).outage (.updateSettlement s.quoteHash) = none ∧ s.quoteHash ∉ t.store.settlements ∧
          h = .failed (.storage ("retained quote " ++ s.quoteHash ++ " does not exist"))) ∧
        t' = t.noting (.access (.updateSettlement s.quoteHash)) := by
  rw [updateSettlement, resume_change, Store.updateSettlement]
  cases (σ.peers t.calls).outage (.updateSettlement s.quoteHash) with
  | some e => simp [eq_comm]
  | none =>
    by_cases stored : s.quoteHash ∈ t.store.settlements
    · simp [stored]
    · simp [stored, eq_comm]

end Run

end Flyover
