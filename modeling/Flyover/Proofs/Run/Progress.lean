import Flyover.Proofs.Run.Failure
import Flyover.Proofs.Run.Reply

/-! Runs that get through to their ends. Everything about what the peers told is said of the trace in the end; a run gets
through if there is no place where it could have halted with that trace. -/

namespace Flyover

def Call.IsAnswered (peers : Peers) : Call → Prop
  | .question q => ∃ a, peers.answer q = .ok a
  | .access a => peers.outage a = none
  | .contractAddress => True

namespace Trace

def Served (σ : Surroundings) (t : Trace) : Prop :=
  ∀ before c, before ++ [c] <+: t.calls → c.IsAnswered (σ.peers before)

variable {σ : Surroundings} {t t' : Trace} {c : Call}

lemma Served.of_calls {l : List Call} (served : t'.Served σ) (h : t'.calls = t.calls ++ c :: l) :
    c.IsAnswered (σ.peers t.calls) :=
  served t.calls c ⟨l, by rw [h, List.append_assoc, List.singleton_append]⟩

lemma Served.of_noting (served : (t.noting c).Served σ) : c.IsAnswered (σ.peers t.calls) := served.of_calls rfl

end Trace

namespace Run

variable {α β : Type} {σ : Surroundings} {t T : Trace}

def Passes (T : Trace) (x : Run α) (σ : Surroundings) (t : Trace) : Prop := ∀ h, x.resume σ t ≠ ⟨.error h, T⟩

namespace Passes

variable {x : Run α} {f : α → Run β}

lemma exists_ok (hx : Passes T x σ t) (hT : (x.resume σ t).trace = T) : ∃ a, x.resume σ t = ⟨.ok a, T⟩ := by
  rcases ho : x.resume σ t with ⟨h | a, t'⟩ <;> rw [ho] at hT <;> subst hT
  · exact absurd ho (hx h)
  · exact ⟨a, rfl⟩

lemma bind_ok (hx : Passes T x σ t) (hT : ((x >>= f).resume σ t).trace = T) :
    ∃ a t', x.resume σ t = ⟨.ok a, t'⟩ ∧ (x >>= f).resume σ t = (f a).resume σ t' := by
  rcases ho : x.resume σ t with ⟨h | a, t'⟩
  · rw [resume_bind_of_error ho] at hT
    subst hT
    exact absurd ho (hx h)
  · exact ⟨a, t', rfl, resume_bind_of_ok ho⟩

lemma bind (hx : Passes T x σ t) (hf : ∀ a t', x.resume σ t = ⟨.ok a, t'⟩ → Passes T (f a) σ t') :
    Passes T (x >>= f) σ t := by
  intro h halted
  rcases resume_bind_eq_error_iff.mp halted with halted | ⟨a, t', resumed, halted⟩
  · exact hx h halted
  · exact hf a t' resumed h halted

lemma pure (a : α) : Passes T (Pure.pure a : Run α) σ t := by
  intro h halted
  cases halted

lemma settings : Passes T Run.settings σ t := by
  intro h halted
  cases halted

lemma now : Passes T Run.now σ t := by
  intro h halted
  cases halted

lemma publish (e : Event) : Passes T (Run.publish e) σ t := by
  intro h halted
  cases halted

lemma contractAddress : Passes T Run.contractAddress σ t := by
  intro h halted
  cases halted

lemma lift {r : Except Error α} (hr : t = T → ∃ a, r = .ok a) : Passes T (liftM r : Run α) σ t := by
  intro h halted
  obtain ⟨e, failed, -, same⟩ := resume_lift_eq_error_iff.mp halted
  obtain ⟨a, ok⟩ := hr same.symm
  cases failed.symm.trans ok

lemma require {e : Error} {o : Option α} {a : α} (ho : o = some a) : Passes T (Run.require e o) σ t := by
  intro h halted
  rw [ho] at halted
  cases halted

lemma check {c : Bool} {e : Error} (hc : t = T → c) : Passes T (Run.check c e) σ t := by
  intro h halted
  obtain ⟨failed, -, same⟩ := resume_check_eq_error_iff.mp halted
  cases failed.symm.trans (hc same.symm)

lemma acquire {lock : Lock} (free : σ.held lock = false) : Passes T (Run.acquire lock) σ t := by
  intro h halted
  rw [resume_acquire, free] at halted
  cases halted

lemma ite {c : Prop} [Decidable c] {y : Run α} (hx : c → Passes T x σ t) (hy : ¬ c → Passes T y σ t) :
    Passes T (if c then x else y) σ t := by
  split
  · exact hx ‹c›
  · exact hy ‹¬ c›

lemma mapError {g : Error → Error} (hx : Passes T x σ t) : Passes T (Run.mapError g x) σ t := by
  intro h halted
  obtain ⟨h₀, halted, -⟩ := resume_mapError_eq_error_iff.mp halted
  exact hx h₀ halted

section

variable (served : T.Served σ)

include served

lemma ask (q : Question) : Passes T (Run.ask q) σ t := by
  intro h halted
  rw [resume_ask, Outcome.mk.injEq] at halted
  obtain ⟨failed, rfl⟩ := halted
  obtain ⟨a, answered⟩ := served.of_noting
  rw [answered] at failed
  cases failed

lemma access (a : Access) (find : Store → α) : Passes T (Run.access a find) σ t := by
  intro h halted
  obtain ⟨e, failed, -, rfl⟩ := resume_access_eq_error_iff.mp halted
  cases failed.symm.trans served.of_noting

lemma updateSettlement {s : Settlement} (stored : s.quoteHash ∈ t.store.settlements) :
    Passes T (Run.updateSettlement s) σ t := by
  intro h halted
  obtain ⟨⟨e, failed, -⟩ | ⟨-, absent, -⟩, rfl⟩ := resume_updateSettlement_eq_error_iff.mp halted
  · cases failed.symm.trans served.of_noting
  · exact absent stored

lemma insertSettlement {s : Settlement} (fresh : s.quoteHash ∉ t.store.settlements) :
    Passes T (Run.insertSettlement s) σ t := by
  intro h halted
  rw [Run.insertSettlement, resume_change] at halted
  cases outage : (σ.peers t.calls).outage (.insertSettlement s.quoteHash) with
  | some e =>
    rw [outage] at halted
    obtain rfl := (Outcome.mk.inj halted).2
    cases outage.symm.trans served.of_noting
  | none =>
    rw [outage, Store.insertSettlement, if_neg fresh] at halted
    cases halted

end

end Passes

end Run

end Flyover
