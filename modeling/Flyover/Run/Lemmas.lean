import Flyover.Run
/-!
What each step of a run comes to, one equation per step, and how the trace grows. Proofs about use cases go by these
equations.
-/

namespace Flyover.Run

variable {α β : Type} (s : Surroundings) (t : Trace)

@[ext] theorem ext_resume {x y : Run α} (h : ∀ s t, x.resume s t = y.resume s t) : x = y := by
  cases x; cases y
  simp only [mk.injEq]
  funext s t
  exact h s t

@[simp] theorem resume_pure (a : α) : (pure a : Run α).resume s t = ⟨.ok a, t⟩ := rfl

theorem resume_bind (x : Run α) (f : α → Run β) :
    (x >>= f).resume s t = match x.resume s t with
      | ⟨.ok a, t'⟩ => (f a).resume s t'
      | ⟨.error h, t'⟩ => ⟨.error h, t'⟩ := rfl

theorem resume_bind_of_ok {x : Run α} {f : α → Run β} {s : Surroundings} {t t' : Trace} {a : α}
    (h : x.resume s t = ⟨.ok a, t'⟩) : (x >>= f).resume s t = (f a).resume s t' := by
  simp only [resume_bind, h]

theorem resume_bind_of_error {x : Run α} {f : α → Run β} {s : Surroundings} {t t' : Trace} {e : Halt}
    (h : x.resume s t = ⟨.error e, t'⟩) : (x >>= f).resume s t = ⟨.error e, t'⟩ := by
  simp only [resume_bind, h]

theorem resume_bind_eq_ok_iff {x : Run α} {f : α → Run β} {s : Surroundings} {t t'' : Trace} {b : β} :
    (x >>= f).resume s t = ⟨.ok b, t''⟩ ↔
      ∃ a t', x.resume s t = ⟨.ok a, t'⟩ ∧ (f a).resume s t' = ⟨.ok b, t''⟩ := by
  rw [resume_bind]
  rcases x.resume s t with ⟨_ | a, t'⟩
  · simp
  · refine ⟨fun h => ⟨a, t', rfl, h⟩, ?_⟩
    rintro ⟨a, t', h, h'⟩
    cases h
    exact h'

instance : LawfulMonad Run := by
  refine .mk' Run (fun x => ?_) (fun _ _ => rfl) (fun x f g => ?_)
  · ext s t
    show (x >>= fun a => pure (id a)).resume s t = _
    rw [resume_bind]
    rcases x.resume s t with ⟨_ | _, _⟩ <;> rfl
  · ext s t
    simp only [resume_bind]
    rcases x.resume s t with ⟨_ | _, _⟩ <;> rfl

@[simp] theorem resume_fail (e : Error) : (fail e : Run α).resume s t = ⟨.error (.failed e), t⟩ := rfl

@[simp] theorem resume_ofExcept_ok (a : α) : (ofExcept (.ok a)).resume s t = ⟨.ok a, t⟩ := rfl

@[simp] theorem resume_ofExcept_error (e : Error) :
    (ofExcept (.error e) : Run α).resume s t = ⟨.error (.failed e), t⟩ := rfl

theorem resume_mapError (f : Error → Error) (x : Run α) :
    (mapError f x).resume s t = match x.resume s t with
      | ⟨.error (.failed e), t'⟩ => ⟨.error (.failed (f e)), t'⟩
      | o => o := rfl

@[simp] theorem trace_mapError (f : Error → Error) (x : Run α) :
    ((mapError f x).resume s t).trace = (x.resume s t).trace := by
  rw [resume_mapError]
  rcases x.resume s t with ⟨(_ | _) | _, _⟩ <;> rfl

theorem resume_attempt (x : Run α) :
    (attempt x).resume s t = match x.resume s t with
      | ⟨.ok a, t'⟩ => ⟨.ok (.ok a), t'⟩
      | ⟨.error (.failed e), t'⟩ => ⟨.ok (.error e), t'⟩
      | ⟨.error (.waiting l), t'⟩ => ⟨.error (.waiting l), t'⟩ := rfl

@[simp] theorem trace_attempt (x : Run α) : ((attempt x).resume s t).trace = (x.resume s t).trace := by
  rw [resume_attempt]
  rcases x.resume s t with ⟨(_ | _) | _, _⟩ <;> rfl

@[simp] theorem resume_require_some (e : Error) (a : α) : (require e (some a)).resume s t = ⟨.ok a, t⟩ := rfl

@[simp] theorem resume_require_none (e : Error) :
    (require e none : Run α).resume s t = ⟨.error (.failed e), t⟩ := rfl

@[simp] theorem resume_check (condition : Bool) (e : Error) :
    (check condition e).resume s t = ⟨if condition then .ok () else .error (.failed e), t⟩ := by
  cases condition <;> rfl

@[simp] theorem resume_settings : settings.resume s t = ⟨.ok s.settings, t⟩ := rfl

@[simp] theorem resume_now : now.resume s t = ⟨.ok s.now, t⟩ := rfl

@[simp] theorem resume_nonce : nonce.resume s t = ⟨.ok s.nonce, t⟩ := rfl

@[simp] theorem resume_ask (q : Question) :
    (ask q).resume s t = ⟨((s.peers t.calls).answer q).mapError .failed, t.noting (.question q)⟩ := by
  show (ofExcept ((s.peers t.calls).answer q)).resume s (t.noting (.question q)) = _
  rcases (s.peers t.calls).answer q with _ | _ <;> rfl

@[simp] theorem resume_contractAddress :
    contractAddress.resume s t = ⟨.ok (s.peers t.calls).contractAddress, t.noting .contractAddress⟩ := rfl

theorem resume_access (a : Access) (find : Store → α) :
    (access a find).resume s t = match (s.peers t.calls).outage a with
      | some e => ⟨.error (.failed e), t.noting (.access a)⟩
      | none => ⟨.ok (find t.store), t.noting (.access a)⟩ := by
  show (match (s.peers t.calls).outage a with
    | some e => fail e
    | none => (return find (← store) : Run α)).resume s (t.noting (.access a)) = _
  rcases (s.peers t.calls).outage a with _ | _ <;> rfl

theorem resume_change (a : Access) (f : Store → Except Error Store) :
    (change a f).resume s t = match (s.peers t.calls).outage a with
      | some e => ⟨.error (.failed e), t.noting (.access a)⟩
      | none => match f t.store with
        | .error e => ⟨.error (.failed e), t.noting (.access a)⟩
        | .ok store => ⟨.ok (), { t.noting (.access a) with store }⟩ := by
  rw [change, resume_bind, resume_access]
  rcases (s.peers t.calls).outage a with _ | _
  · show (ofExcept (f t.store) >>= _).resume s _ = _
    rcases f t.store with _ | _ <;> rfl
  · rfl

@[simp] theorem resume_publish (e : Event) :
    (publish e).resume s t = ⟨.ok (), { t with events := t.events ++ [e] }⟩ := rfl

@[simp] theorem resume_acquire (lock : Lock) :
    (acquire lock).resume s t = ⟨if s.held lock then .error (.waiting lock) else .ok (), t⟩ := rfl

end Flyover.Run
