import Flyover.Proofs.Run.Failure

/-! Runs and the locks that others hold. A run that locks has a part before the lock and a part under it, and for neither
of them does it matter what is held. -/

namespace Flyover

def Surroundings.holding (σ : Surroundings) (held : Lock → Bool) : Surroundings := { σ with held }

namespace Run

variable {α β : Type}

structure Lockless (x : Run α) : Prop where
  same (σ : Surroundings) (held : Lock → Bool) (t : Trace) : x.resume (σ.holding held) t = x.resume σ t
  proceeds (σ : Surroundings) (t t' : Trace) (l : Lock) : x.resume σ t ≠ ⟨.error (.waiting l), t'⟩

namespace Lockless

variable {x : Run α} {f : α → Run β}

lemma bind (hx : Lockless x) (hf : ∀ a, Lockless (f a)) : Lockless (x >>= f) := by
  constructor
  · intro σ held t
    rw [resume_bind, resume_bind, hx.same σ held t]
    rcases x.resume σ t with ⟨h | a, t'⟩
    · rfl
    · exact (hf a).same σ held t'
  · intro σ t t' l waiting
    rcases resume_bind_eq_error_iff.mp waiting with first | ⟨a, t₁, -, second⟩
    · exact hx.proceeds σ t t' l first
    · exact (hf a).proceeds σ t₁ t' l second

lemma pure (a : α) : Lockless (Pure.pure a : Run α) := ⟨fun _ _ _ => rfl, fun _ _ _ _ => nofun⟩

lemma fail (e : Error) : Lockless (Run.fail e : Run α) := ⟨fun _ _ _ => rfl, fun _ _ _ _ => nofun⟩

lemma lift (r : Except Error α) : Lockless (liftM r : Run α) := by
  cases r with
  | ok a => exact pure a
  | error e => exact fail e

lemma require (e : Error) (o : Option α) : Lockless (Run.require e o) := by
  cases o with
  | none => exact fail e
  | some a => exact pure a

lemma check (condition : Bool) (e : Error) : Lockless (Run.check condition e) := by
  cases condition with
  | false => exact fail e
  | true => exact pure ()

lemma settings : Lockless Run.settings := ⟨fun _ _ _ => rfl, fun _ _ _ _ => nofun⟩

lemma now : Lockless Run.now := ⟨fun _ _ _ => rfl, fun _ _ _ _ => nofun⟩

lemma publish (e : Event) : Lockless (Run.publish e) := ⟨fun _ _ _ => rfl, fun _ _ _ _ => nofun⟩

lemma contractAddress : Lockless Run.contractAddress := ⟨fun _ _ _ => rfl, fun _ _ _ _ => nofun⟩

lemma ask (q : Question) : Lockless (Run.ask q) := by
  refine ⟨fun σ held t => ?_, fun σ t t' l waiting => ?_⟩
  · rw [resume_ask, resume_ask]
    rfl
  · rw [resume_ask, Outcome.mk.injEq] at waiting
    cases ha : (σ.peers t.calls).answer q <;> rw [ha] at waiting <;> cases waiting.1

lemma access (a : Access) (find : Store → α) : Lockless (Run.access a find) := by
  refine ⟨fun σ held t => ?_, fun σ t t' l waiting => ?_⟩
  · rw [resume_access, resume_access]
    rfl
  · obtain ⟨e, -, failed, -⟩ := resume_access_eq_error_iff.mp waiting
    cases failed

lemma change (a : Access) (f : Store → Except Error Store) : Lockless (Run.change a f) := by
  refine .bind (access a id) fun store => ?_
  refine .bind (.lift (f store)) fun changed => ?_
  exact ⟨fun _ _ _ => rfl, fun _ _ _ _ => nofun⟩

lemma mapError {g : Error → Error} (hx : Lockless x) : Lockless (Run.mapError g x) := by
  refine ⟨fun σ held t => ?_, fun σ t t' l waiting => ?_⟩
  · rw [resume_mapError, resume_mapError, hx.same]
  · obtain ⟨halt, halted, mapped⟩ := resume_mapError_eq_error_iff.mp waiting
    cases halt with
    | failed e => cases mapped
    | waiting l => exact hx.proceeds σ t t' l halted

lemma attempt (hx : Lockless x) : Lockless (Run.attempt x) := by
  refine ⟨fun σ held t => ?_, fun σ t t' l waiting => ?_⟩
  · rw [resume_attempt, resume_attempt, hx.same]
  · rw [resume_attempt] at waiting
    rcases ho : x.resume σ t with ⟨(e | l') | a, t₁⟩ <;> rw [ho] at waiting
    · cases waiting
    · exact hx.proceeds σ t t₁ l' ho
    · cases waiting

lemma ite {c : Prop} [Decidable c] {y : Run α} (hx : Lockless x) (hy : Lockless y) : Lockless (if c then x else y) := by
  split
  · exact hx
  · exact hy

lemma mapM_option {γ : Type} {f : γ → Run β} (o : Option γ) (hf : ∀ a, Lockless (f a)) : Lockless (o.mapM f) := by
  cases o with
  | none => exact pure none
  | some a => exact bind (hf a) fun b => pure (some b)

end Lockless

lemma mapError_bind (g : Error → Error) (x : Run α) (f : α → Run β) :
    mapError g (x >>= f) = mapError g x >>= fun a => mapError g (f a) := by
  ext σ t
  simp only [resume_mapError, resume_bind]
  rcases x.resume σ t with ⟨(e | l) | a, t'⟩ <;> rfl

lemma mapError_acquire (g : Error → Error) (lock : Lock) : mapError g (acquire lock) = acquire lock := by
  ext σ t
  rw [resume_mapError, resume_acquire]
  cases σ.held lock <;> rfl

structure Locks (lock : Lock) (before : Run β) (x : Run α) : Prop where
  lockless : before.Lockless
  split : ∃ after : β → Run α, (∀ b, (after b).Lockless) ∧ x = before >>= fun b => acquire lock >>= fun _ => after b

namespace Locks

variable {lock : Lock} {before : Run β} {x : Run α}

lemma mapError {g : Error → Error} (h : Locks lock before x) : Locks lock (Run.mapError g before) (Run.mapError g x) := by
  obtain ⟨after, lockless, rfl⟩ := h.split
  refine ⟨h.lockless.mapError, fun b => Run.mapError g (after b), fun b => (lockless b).mapError, ?_⟩
  simp only [mapError_bind, mapError_acquire]

section

variable {σ : Surroundings} {t t' : Trace} (h : Locks lock before x)

include h

lemma held_cases (held : σ.held lock) (t : Trace) :
    (∃ halt t', before.resume σ t = ⟨.error halt, t'⟩ ∧ x.resume σ t = ⟨.error halt, t'⟩) ∨
      ∃ b t', before.resume σ t = ⟨.ok b, t'⟩ ∧ x.resume σ t = ⟨.error (.waiting lock), t'⟩ := by
  obtain ⟨after, -, rfl⟩ := h.split
  rcases ho : before.resume σ t with ⟨halt | b, t'⟩
  · exact .inl ⟨halt, t', rfl, resume_bind_of_error ho⟩
  · refine .inr ⟨b, t', rfl, ?_⟩
    rw [resume_bind_of_ok ho, resume_bind, resume_acquire, if_pos held]

lemma result_ne_ok_of_held (held : σ.held lock) (t : Trace) (a : α) : (x.resume σ t).result ≠ .ok a := by
  rcases h.held_cases held t with ⟨halt, t', -, resumed⟩ | ⟨b, t', -, resumed⟩ <;> rw [resumed] <;> nofun

lemma trace_of_held (held : σ.held lock) (t : Trace) : (x.resume σ t).trace = (before.resume σ t).trace := by
  rcases h.held_cases held t with ⟨halt, t', first, resumed⟩ | ⟨b, t', first, resumed⟩ <;> rw [first, resumed]

lemma of_waiting {l : Lock} (waiting : x.resume σ t = ⟨.error (.waiting l), t'⟩) :
    l = lock ∧ σ.held lock ∧ ∃ b, before.resume σ t = ⟨.ok b, t'⟩ := by
  -- neither part waits of itself, so it is the lock between them that the run waits for
  obtain ⟨after, lockless, rfl⟩ := h.split
  rcases resume_bind_eq_error_iff.mp waiting with first | ⟨b, t₁, first, rest⟩
  · exact absurd first (h.lockless.proceeds σ t t' l)
  rcases resume_bind_eq_error_iff.mp rest with stopped | ⟨u, t₂, -, second⟩
  · rw [resume_acquire] at stopped
    cases held : σ.held lock with
    | false => simp [held] at stopped
    | true =>
      simp only [held, if_pos, Outcome.mk.injEq, Except.error.injEq, Halt.waiting.injEq] at stopped
      obtain ⟨rfl, rfl⟩ := stopped
      exact ⟨rfl, rfl, b, first⟩
  · exact absurd second ((lockless b).proceeds σ t₂ t' l)

lemma resume_holding {held : Lock → Bool} (agree : held lock = σ.held lock) (t : Trace) :
    x.resume (σ.holding held) t = x.resume σ t := by
  obtain ⟨after, lockless, rfl⟩ := h.split
  rw [resume_bind, resume_bind, h.lockless.same σ held t]
  rcases before.resume σ t with ⟨halt | b, t'⟩
  · rfl
  · -- the two surroundings agree on the one lock that stands between the parts
    have locked : (acquire lock).resume (σ.holding held) t' = (acquire lock).resume σ t' := by
      rw [resume_acquire, resume_acquire, ← agree]
      rfl
    dsimp only
    rw [resume_bind, resume_bind, locked]
    rcases (acquire lock).resume σ t' with ⟨halt | u, t''⟩
    · rfl
    · exact (lockless b).same σ held t''

lemma waiting_or_resume_free (σ : Surroundings) (t : Trace) :
    (x.resume σ t).result = .error (.waiting lock) ∨ x.resume σ t = x.resume (σ.holding fun _ => false) t := by
  cases held : σ.held lock with
  | false => exact .inr (h.resume_holding held.symm t).symm
  | true =>
    rcases h.held_cases held t with ⟨halt, t', first, resumed⟩ | ⟨b, t', -, resumed⟩
    · right
      obtain ⟨after, -, rfl⟩ := h.split
      have same := h.lockless.same σ (fun _ => false) t
      rw [first] at same
      rw [resumed, resume_bind_of_error same]
    · exact .inl (by rw [resumed])

end

end Locks

end Run

end Flyover
