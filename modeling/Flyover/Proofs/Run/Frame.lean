import Flyover.Run.Lemmas
import Mathlib.Tactic

/-! What runs leave as it is. A run keeps a relation between traces if it ends in a trace that is related to the one
it starts from, however it ends. -/

namespace Flyover

namespace Trace

def notingAll (t : Trace) (cs : List Call) : Trace := { t with calls := t.calls ++ cs }

def publishing (t : Trace) (e : Event) : Trace := { t with events := t.events ++ [e] }

variable (t : Trace) (c : Call) (cs ds : List Call)

@[simp] lemma store_notingAll : (t.notingAll cs).store = t.store := rfl

@[simp] lemma calls_notingAll : (t.notingAll cs).calls = t.calls ++ cs := rfl

@[simp] lemma store_noting : (t.noting c).store = t.store := rfl

@[simp] lemma calls_noting : (t.noting c).calls = t.calls ++ [c] := rfl

@[simp] lemma notingAll_nil : t.notingAll [] = t := by
  simp [notingAll]

@[simp] lemma notingAll_notingAll : (t.notingAll cs).notingAll ds = t.notingAll (cs ++ ds) := by
  simp [notingAll]

end Trace

namespace Run

variable {α β : Type}

@[simp] lemma liftM_ok (a : α) : (liftM (Except.ok a : Except Error α) : Run α) = pure a := rfl

@[simp] lemma liftM_error (e : Error) : (liftM (Except.error e : Except Error α) : Run α) = fail e := rfl

lemma liftM_bind (r : Except Error α) (f : α → Except Error β) :
    (liftM (r >>= f) : Run β) = (liftM r : Run α) >>= fun a => liftM (f a) := by
  cases r <;> rfl

lemma access_bind_congr {a : Access} {find find' : Store → α} {f : α → Run β}
    (same : ∀ s, f (find s) = f (find' s)) : (access a find >>= f) = access a find' >>= f := by
  ext σ t
  rw [resume_bind, resume_bind, resume_access, resume_access]
  cases (σ.peers t.calls).outage a with
  | some e => rfl
  | none => exact congrArg (fun x => x.resume σ (t.noting (.access a))) (same t.store)

lemma resume_attempt_ask (q : Question) (σ : Surroundings) (t : Trace) :
    (attempt (ask q)).resume σ t = ⟨.ok ((σ.peers t.calls).answer q), t.noting (.question q)⟩ := by
  rw [resume_attempt, resume_ask]
  cases (σ.peers t.calls).answer q <;> rfl

lemma trace_discard (x : Run α) (σ : Surroundings) (t : Trace) :
    ((discard x).resume σ t).trace = (x.resume σ t).trace := by
  show ((x >>= fun _ => pure ()).resume σ t).trace = _
  rw [resume_bind]
  rcases x.resume σ t with ⟨e | a, t'⟩ <;> rfl

section

variable {f : Error → Error} {x : Run α} {σ : Surroundings} {t t' : Trace}

lemma resume_mapError_of_ok {a : α} (h : x.resume σ t = ⟨.ok a, t'⟩) : (mapError f x).resume σ t = ⟨.ok a, t'⟩ := by
  rw [resume_mapError, h]

lemma resume_mapError_of_failed {e : Error} (h : x.resume σ t = ⟨.error (.failed e), t'⟩) :
    (mapError f x).resume σ t = ⟨.error (.failed (f e)), t'⟩ := by
  rw [resume_mapError, h]

lemma resume_mapError_of_error {halt : Halt} (h : x.resume σ t = ⟨.error halt, t'⟩) :
    ∃ halt', (mapError f x).resume σ t = ⟨.error halt', t'⟩ ∧ ∀ e, halt' = .failed e → ∃ e₀, e = f e₀ := by
  cases halt with
  | failed e => exact ⟨_, resume_mapError_of_failed h, by rintro _ ⟨⟩; exact ⟨e, rfl⟩⟩
  | waiting lock => exact ⟨.waiting lock, by rw [resume_mapError, h], nofun⟩

end

def Keeps (R : Trace → Trace → Prop) (x : Run α) : Prop := ∀ σ t, R t (x.resume σ t).trace

namespace Keeps

variable {R : Trace → Trace → Prop} {x : Run α} {f : α → Run β}

lemma of_resume {σ : Surroundings} {t t' : Trace} {r : Except Halt α} (hx : Keeps R x)
    (h : x.resume σ t = ⟨r, t'⟩) : R t t' := by
  have hr := hx σ t
  rwa [h] at hr

lemma bind_cases (hx : Keeps R x) (f : α → Run β) (σ : Surroundings) (t : Trace) :
    (∃ h t', R t t' ∧ (x >>= f).resume σ t = ⟨.error h, t'⟩) ∨
      ∃ a t', R t t' ∧ x.resume σ t = ⟨.ok a, t'⟩ ∧ (x >>= f).resume σ t = (f a).resume σ t' := by
  rcases ho : x.resume σ t with ⟨h | a, t'⟩
  · exact .inl ⟨h, t', hx.of_resume ho, resume_bind_of_error ho⟩
  · exact .inr ⟨a, t', hx.of_resume ho, rfl, resume_bind_of_ok ho⟩

section

variable [Std.Refl R]

lemma pure (a : α) : Keeps R (Pure.pure a : Run α) := fun _ t => refl_of R t

lemma fail (e : Error) : Keeps R (Run.fail e : Run α) := fun _ t => refl_of R t

lemma lift (r : Except Error α) : Keeps R (liftM r : Run α) := by
  intro σ t
  cases r with
  | ok a => exact refl_of R t
  | error e => exact refl_of R t

lemma require (e : Error) (o : Option α) : Keeps R (Run.require e o) := by
  cases o with
  | none => exact fail e
  | some a => exact pure a

lemma check (condition : Bool) (e : Error) : Keeps R (Run.check condition e) := by
  intro σ t
  rw [resume_check]
  exact refl_of R t

lemma settings : Keeps R Run.settings := fun _ t => refl_of R t

lemma now : Keeps R Run.now := fun _ t => refl_of R t

lemma nonce : Keeps R Run.nonce := fun _ t => refl_of R t

lemma acquire (lock : Lock) : Keeps R (Run.acquire lock) := fun _ t => refl_of R t

end

section

variable [IsTrans Trace R]

lemma bind (hx : Keeps R x) (hf : ∀ a, Keeps R (f a)) : Keeps R (x >>= f) := by
  intro σ t
  have h := hx σ t
  rw [resume_bind]
  rcases ho : x.resume σ t with ⟨e | a, t'⟩ <;> rw [ho] at h
  · exact h
  · exact trans_of R h (hf a σ t')

lemma mapM [Std.Refl R] {γ : Type} {f : γ → Run β} (l : List γ) (hf : ∀ a ∈ l, Keeps R (f a)) :
    Keeps R (l.mapM f) := by
  induction l with
  | nil => exact pure []
  | cons a l ih =>
    rw [List.mapM_cons]
    have hl := ih fun b hb => hf b (List.mem_cons_of_mem a hb)
    exact bind (hf a List.mem_cons_self) fun b => bind hl fun bs => pure (b :: bs)

lemma mapM_option [Std.Refl R] {γ : Type} {f : γ → Run β} (o : Option γ) (hf : ∀ a, Keeps R (f a)) :
    Keeps R (o.mapM f) := by
  cases o with
  | none => exact pure none
  | some a => exact bind (hf a) fun b => pure (some b)

end

lemma ite {c : Prop} [Decidable c] {y : Run α} (hx : Keeps R x) (hy : Keeps R y) :
    Keeps R (if c then x else y) := by
  split
  · exact hx
  · exact hy

lemma mapError {g : Error → Error} (hx : Keeps R x) : Keeps R (Run.mapError g x) := by
  intro σ t
  rw [trace_mapError]
  exact hx σ t

lemma attempt (hx : Keeps R x) : Keeps R (Run.attempt x) := by
  intro σ t
  rw [trace_attempt]
  exact hx σ t

lemma ask {q : Question} (h : ∀ t : Trace, R t (t.noting (.question q))) : Keeps R (Run.ask q) := by
  intro σ t
  rw [resume_ask]
  exact h t

lemma contractAddress (h : ∀ t : Trace, R t (t.noting .contractAddress)) : Keeps R Run.contractAddress :=
  fun _ t => h t

lemma access {a : Access} {find : Store → α} (h : ∀ t : Trace, R t (t.noting (.access a))) :
    Keeps R (Run.access a find) := by
  intro σ t
  rw [resume_access]
  cases (σ.peers t.calls).outage a <;> exact h t

lemma mono {S : Trace → Trace → Prop} (hx : Keeps R x) (h : ∀ t t', R t t' → S t t') : Keeps S x :=
  fun σ t => h t _ (hx σ t)

end Keeps

end Run

/-! The log grows by calls of a kind, and in an inquiry nothing else changes. -/

namespace Trace

variable {p q : Call → Prop} {t t' : Trace} {c : Call}

def Calls (p : Call → Prop) (t t' : Trace) : Prop := ∃ cs, t'.calls = t.calls ++ cs ∧ ∀ c ∈ cs, p c

def Inquires (p : Call → Prop) (t t' : Trace) : Prop := ∃ cs, t' = t.notingAll cs ∧ ∀ c ∈ cs, p c

instance : Std.Refl (Calls p) := ⟨fun t => ⟨[], by simp⟩⟩

instance : IsTrans Trace (Calls p) where
  trans := by
    rintro t t' t'' ⟨cs, h, hcs⟩ ⟨ds, h', hds⟩
    refine ⟨cs ++ ds, by rw [h', h, List.append_assoc], ?_⟩
    intro c hc
    rcases List.mem_append.mp hc with hc | hc
    · exact hcs c hc
    · exact hds c hc

instance : Std.Refl (Inquires p) := ⟨fun t => ⟨[], by simp⟩⟩

instance : IsTrans Trace (Inquires p) where
  trans := by
    rintro t t' t'' ⟨cs, rfl, hcs⟩ ⟨ds, rfl, hds⟩
    refine ⟨cs ++ ds, by simp, ?_⟩
    intro c hc
    rcases List.mem_append.mp hc with hc | hc
    · exact hcs c hc
    · exact hds c hc

def Preserves (P : Store → Prop) (t t' : Trace) : Prop := P t.store → P t'.store

instance (P : Store → Prop) : Std.Refl (Preserves P) := ⟨fun _ h => h⟩

instance (P : Store → Prop) : IsTrans Trace (Preserves P) := ⟨fun _ _ _ h h' hp => h' (h hp)⟩

lemma inquires_noting (h : p c) : Inquires p t (t.noting c) := ⟨[c], rfl, by simpa using h⟩

lemma Inquires.mono (h : Inquires p t t') (hpq : ∀ c, p c → q c) : Inquires q t t' := by
  obtain ⟨cs, rfl, hcs⟩ := h
  exact ⟨cs, rfl, fun c hc => hpq c (hcs c hc)⟩

lemma Inquires.noting (h : Inquires p t t') (c : Call) : Inquires (fun _ => True) t (t'.noting c) :=
  trans_of _ (h.mono fun _ _ => trivial) (inquires_noting trivial)

lemma Inquires.calls (h : Inquires p t t') : Calls p t t' := by
  obtain ⟨cs, rfl, hcs⟩ := h
  exact ⟨cs, rfl, hcs⟩

lemma Calls.calls_prefix (h : Calls p t t') : t.calls <+: t'.calls := by
  obtain ⟨cs, hc, -⟩ := h
  rw [hc]
  exact List.prefix_append _ _

lemma Calls.of_start {s : Store} (h : Calls p (start s) t') : ∀ c ∈ t'.calls, p c := by
  obtain ⟨cs, hc, hp⟩ := h
  rw [hc]
  exact hp

lemma Inquires.store_eq (h : Inquires p t t') : t'.store = t.store := by
  obtain ⟨cs, rfl, _⟩ := h
  rfl

lemma Inquires.events_eq (h : Inquires p t t') : t'.events = t.events := by
  obtain ⟨cs, rfl, _⟩ := h
  rfl

lemma Inquires.preserves (h : Inquires p t t') (P : Store → Prop) : Preserves P t t' := by
  intro hp
  rwa [h.store_eq]

end Trace

namespace Run.Keeps

variable {α β : Type} {p : Call → Prop}

lemma inquire {q : Question} (h : p (.question q)) : Keeps (Trace.Inquires p) (Run.ask q) :=
  .ask fun _ => Trace.inquires_noting h

lemma look {a : Access} {find : Store → α} (h : p (.access a)) : Keeps (Trace.Inquires p) (Run.access a find) :=
  .access fun _ => Trace.inquires_noting h

end Run.Keeps

structure LedBy (p : Call → Prop) (Q : Trace → Trace → Prop) : Prop where
  idle : ∀ {t t'}, t.Inquires p t' → Q t t'
  closed : ∀ {t t' t''}, t.Inquires p t' → Q t' t'' → Q t t''

lemma LedBy.bind {α β : Type} {p : Call → Prop} {Q : Trace → Trace → Prop} (led : LedBy p Q) {x : Run α}
    (hx : x.Keeps (Trace.Inquires p)) {f : α → Run β} {σ : Surroundings} {t : Trace}
    (hf : ∀ a t', x.resume σ t = ⟨.ok a, t'⟩ → Q t' ((f a).resume σ t').trace) :
    Q t ((x >>= f).resume σ t).trace := by
  have h := hx σ t
  rcases ho : x.resume σ t with ⟨e | a, t'⟩ <;> rw [ho] at h
  · rw [Run.resume_bind_of_error ho]
    exact led.idle h
  · rw [Run.resume_bind_of_ok ho]
    exact led.closed h (hf a t' ho)

end Flyover
