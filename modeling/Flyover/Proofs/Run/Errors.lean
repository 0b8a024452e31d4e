import Flyover.Proofs.ErrorTree
import Flyover.Proofs.Run.Failure

/-! The errors that runs fail with, and the use cases that they name. -/

namespace Flyover

namespace Error

def Bare (e : Error) : Prop := ∀ n, Node n e → n.useCase? = none

def isLeaf : Error → Bool
  | inUseCase .. | nonRecoverable _ => false
  | _ => true

def isUndefined : Error → Bool
  | weiOverflow operation => operation = "division" || operation = "subtraction"
  | _ => false

def isPlain (e : Error) : Bool := e.isLeaf && !e.isUndefined

lemma isLeaf_of_isPlain {e : Error} (h : e.isPlain) : e.isLeaf := (Bool.and_eq_true_iff.mp h).1

lemma bare_of_isLeaf {e : Error} (h : e.isLeaf) : e.Bare := by
  rintro n (_ | _ | _)
  · cases e <;> first | rfl | cases h
  · cases h
  · cases h

lemma bare_nonRecoverable {errors : List Error} (h : ∀ e ∈ errors, e.Bare) : (nonRecoverable errors).Bare := by
  intro n hn
  rcases node_nonRecoverable_iff.mp hn with rfl | ⟨e, he, hn⟩
  · rfl
  · exact h e he n hn

def TaggedOnce (u : UseCase) (P : ErrorArgs → Prop) (e : Error) : Prop :=
  ∃ args source, e = inUseCase u args source ∧ P args ∧ source.Bare

lemma Bare.taggedOnce {e : Error} (h : e.Bare) {u : UseCase} {P : ErrorArgs → Prop} {args : ErrorArgs} (hP : P args) :
    (inUseCase u args e).TaggedOnce u P :=
  ⟨args, e, rfl, hP, h⟩

lemma Bare.orWithin {e : Error} (h : e.Bare) (u : UseCase) (args : ErrorArgs) : e.orWithin u args = inUseCase u args e := by
  cases e with
  | inUseCase useCase args source => cases h _ (.root _)
  | _ => rfl

def Only {α : Type} (P : Error → Prop) (r : Except Error α) : Prop := ∀ e, r = .error e → P e

def BareIn {α : Type} (r : Except Error α) : Prop := ∀ e, r = .error e → e.Bare

abbrev PlainIn {α : Type} (r : Except Error α) : Prop := Only (fun e => e.isPlain) r

namespace Only

variable {α β : Type} {P Q : Error → Prop} {r : Except Error α} {f : α → Except Error β}

lemma ok (a : α) : Only P (.ok a : Except Error α) := nofun

lemma error {e : Error} (h : P e) : Only P (.error e : Except Error α) := by
  rintro _ ⟨⟩
  exact h

lemma bind_of_ok (hr : Only P r) (hf : ∀ a, r = .ok a → Only P (f a)) : Only P (r >>= f) := by
  cases r with
  | ok a => exact hf a rfl
  | error e => exact error (hr e rfl)

lemma bind (hr : Only P r) (hf : ∀ a, Only P (f a)) : Only P (r >>= f) := bind_of_ok hr fun a _ => hf a

lemma ite {c : Prop} [Decidable c] {r' : Except Error α} (hr : Only P r) (hr' : Only P r') :
    Only P (if c then r else r') := by
  split
  · exact hr
  · exact hr'

lemma mapError {ε : Type} {x : Except ε α} {g : ε → Error} (h : ∀ fault, P (g fault)) : Only P (x.mapError g) := by
  cases x with
  | ok a => exact ok a
  | error fault => exact error (h fault)

lemma foldlM {γ : Type} {f : β → γ → Except Error β} (hf : ∀ b c, Only P (f b c)) (b : β) (l : List γ) :
    Only P (l.foldlM f b) := by
  induction l generalizing b with
  | nil => exact ok b
  | cons c l ih =>
    rw [List.foldlM_cons]
    exact (hf b c).bind ih

lemma mono (hr : Only P r) (h : ∀ e, P e → Q e) : Only Q r := fun e failed => h e (hr e failed)

end Only

/-- Where the errors of runs come from: from the peers, or from the provider itself. Of the operations on amounts that may be
undefined it comes to no more than the division by its fee scale. -/
inductive Arises (σ : Surroundings) : Error → Prop
  | answer {calls : List Call} {q : Question} {e : Error} (h : (σ.peers calls).answer q = .error e) : Arises σ e
  | outage {calls : List Call} {a : Access} {e : Error} (h : (σ.peers calls).outage a = some e) : Arises σ e
  | plain {e : Error} (h : e.isPlain) : Arises σ e
  | division (h : σ.settings.feeScale = 0) : Arises σ (weiOverflow "division")
  | nonRecoverable {errors : List Error} (h : ∀ e ∈ errors, Arises σ e) : Arises σ (nonRecoverable errors)

def ArisesIn (σ : Surroundings) (u : UseCase) (e : Error) : Prop :=
  Arises σ e ∨ ∃ args source, e = inUseCase u args source ∧ Arises σ source

end Error

structure Surroundings.AnswersBare (σ : Surroundings) : Prop where
  answer (calls : List Call) (q : Question) : Error.BareIn ((σ.peers calls).answer q)
  outage (calls : List Call) (a : Access) (e : Error) : (σ.peers calls).outage a = some e → e.Bare

namespace Error

variable {σ : Surroundings} {e : Error}

lemma Arises.bare (h : Arises σ e) (bare : σ.AnswersBare) : e.Bare := by
  induction h with
  | answer h => exact bare.answer _ _ _ h
  | outage h => exact bare.outage _ _ _ h
  | plain h => exact bare_of_isLeaf (isLeaf_of_isPlain h)
  | division => exact bare_of_isLeaf rfl
  | nonRecoverable _ ih => exact bare_nonRecoverable ih

lemma PlainIn.arises {α : Type} {r : Except Error α} (h : PlainIn r) : Only (Arises σ) r := h.mono fun _ => .plain

lemma ArisesIn.bare_or_taggedOnce {u : UseCase} (h : ArisesIn σ u e) (bare : σ.AnswersBare) :
    e.Bare ∨ e.TaggedOnce u fun _ => True := by
  rcases h with arises | ⟨args, source, rfl, arises⟩
  · exact .inl (arises.bare bare)
  · exact .inr ((arises.bare bare).taggedOnce trivial)

end Error

namespace Run

variable {α β : Type} {σ : Surroundings}

def FailsWith (σ : Surroundings) (P : Error → Prop) (x : Run α) : Prop :=
  ∀ t e t', x.resume σ t = ⟨.error (.failed e), t'⟩ → P e

lemma resume_mapError_eq_failed_iff {g : Error → Error} {x : Run α} {t t' : Trace} {e : Error} :
    (mapError g x).resume σ t = ⟨.error (.failed e), t'⟩ ↔ ∃ e₀, x.resume σ t = ⟨.error (.failed e₀), t'⟩ ∧ e = g e₀ := by
  rw [resume_mapError]
  rcases x.resume σ t with ⟨(e₀ | l) | a, t₁⟩ <;> simp [eq_comm, and_comm]

namespace FailsWith

variable {P Q : Error → Prop} {x : Run α} {f : α → Run β}

lemma bind_of_ok (hx : FailsWith σ P x) (hf : ∀ a t t', x.resume σ t = ⟨.ok a, t'⟩ → FailsWith σ P (f a)) :
    FailsWith σ P (x >>= f) := by
  intro t e t' failed
  rcases resume_bind_eq_error_iff.mp failed with first | ⟨a, t₁, resumed, second⟩
  · exact hx t e t' first
  · exact hf a t t₁ resumed t₁ e t' second

lemma bind (hx : FailsWith σ P x) (hf : ∀ a, FailsWith σ P (f a)) : FailsWith σ P (x >>= f) :=
  bind_of_ok hx fun a _ _ _ => hf a

lemma pure (a : α) : FailsWith σ P (Pure.pure a : Run α) := fun _ _ _ => nofun

lemma settings : FailsWith σ P Run.settings := fun _ _ _ => nofun

lemma bind_settings {f : Settings → Run β} (hf : FailsWith σ P (f σ.settings)) : FailsWith σ P (Run.settings >>= f) := hf

lemma now : FailsWith σ P Run.now := fun _ _ _ => nofun

lemma nonce : FailsWith σ P Run.nonce := fun _ _ _ => nofun

lemma contractAddress : FailsWith σ P Run.contractAddress := fun _ _ _ => nofun

lemma publish (e : Event) : FailsWith σ P (Run.publish e) := fun _ _ _ => nofun

lemma acquire (lock : Lock) : FailsWith σ P (Run.acquire lock) := by
  intro t e t' failed
  rw [resume_acquire] at failed
  cases held : σ.held lock <;> simp [held] at failed

lemma attempt (x : Run α) : FailsWith σ P (Run.attempt x) := by
  intro t e t' failed
  rw [resume_attempt] at failed
  rcases ho : x.resume σ t with ⟨(e' | l) | a, t₁⟩ <;> rw [ho] at failed <;> cases failed

lemma bind_attempt {f : Except Error α → Run β} (hx : FailsWith σ P x)
    (hf : ∀ r : Except Error α, Error.Only P r → FailsWith σ Q (f r)) :
    FailsWith σ Q (Run.attempt x >>= f) := by
  -- the attempt itself does not fail; what it caught is handed on
  refine bind_of_ok (attempt x) fun r t t' resumed => hf r ?_
  rintro e rfl
  rw [resume_attempt] at resumed
  rcases ho : x.resume σ t with ⟨(e' | l) | a, t₁⟩ <;> rw [ho] at resumed <;> cases resumed
  exact hx t e t' ho

lemma fail {e : Error} (h : P e) : FailsWith σ P (Run.fail e : Run α) := by
  rintro t _ t' ⟨⟩
  exact h

lemma bind_fail {e : Error} (h : P e) (f : α → Run β) : FailsWith σ P (Run.fail e >>= f) :=
  bind_of_ok (fail h) fun _ _ _ => nofun

lemma lift {r : Except Error α} (h : Error.Only P r) : FailsWith σ P (liftM r : Run α) := by
  cases r with
  | ok a => exact pure a
  | error e => exact fail (h e rfl)

lemma bind_lift {r : Except Error α} (h : Error.Only P r) (hf : ∀ a, r = .ok a → FailsWith σ P (f a)) :
    FailsWith σ P (liftM r >>= f) := by
  cases r with
  | ok a => exact hf a rfl
  | error e => exact bind_fail (h e rfl) f

lemma require {e : Error} (h : P e) (o : Option α) : FailsWith σ P (Run.require e o) := by
  cases o with
  | none => exact fail h
  | some a => exact pure a

lemma check {e : Error} (h : P e) (condition : Bool) : FailsWith σ P (Run.check condition e) := by
  cases condition with
  | false => exact fail h
  | true => exact pure ()

lemma ite {c : Prop} [Decidable c] {y : Run α} (hx : FailsWith σ P x) (hy : FailsWith σ P y) :
    FailsWith σ P (if c then x else y) := by
  split
  · exact hx
  · exact hy

lemma mapError {g : Error → Error} (hx : FailsWith σ P x) (h : ∀ e, P e → Q (g e)) : FailsWith σ Q (Run.mapError g x) := by
  intro t e t' failed
  obtain ⟨e₀, halted, rfl⟩ := resume_mapError_eq_failed_iff.mp failed
  exact h e₀ (hx t e₀ t' halted)

lemma inUseCase (hx : FailsWith σ Error.Bare x) (u : UseCase) {R : ErrorArgs → Prop} {args : ErrorArgs} (hR : R args) :
    FailsWith σ (Error.TaggedOnce u R) (Run.mapError (.inUseCase u args) x) :=
  hx.mapError fun _ bare => bare.taggedOnce hR

lemma orWithin (hx : FailsWith σ Error.Bare x) (u : UseCase) {R : ErrorArgs → Prop} {args : ErrorArgs} (hR : R args) :
    FailsWith σ (Error.TaggedOnce u R) (Run.mapError (fun e => e.orWithin u args) x) :=
  hx.mapError fun _ bare => bare.orWithin u args ▸ bare.taggedOnce hR

lemma mono (hx : FailsWith σ P x) (h : ∀ e, P e → Q e) : FailsWith σ Q x := fun t e t' failed => h e (hx t e t' failed)

lemma mapM {γ : Type} {f : γ → Run β} (l : List γ) (hf : ∀ a, FailsWith σ P (f a)) : FailsWith σ P (l.mapM f) := by
  induction l with
  | nil => exact pure []
  | cons a l ih =>
    rw [List.mapM_cons]
    exact bind (hf a) fun b => bind ih fun bs => pure (b :: bs)

lemma mapM_option {γ : Type} {f : γ → Run β} (o : Option γ) (hf : ∀ a, FailsWith σ P (f a)) :
    FailsWith σ P (o.mapM f) := by
  cases o with
  | none => exact pure none
  | some a => exact bind (hf a) fun b => pure (some b)

section

open Error

lemma inquire (q : Question) : FailsWith σ (Arises σ) (Run.ask q) := by
  intro t e t' failed
  rw [resume_ask, Outcome.mk.injEq] at failed
  cases answered : (σ.peers t.calls).answer q with
  | ok a =>
    rw [answered] at failed
    cases failed.1
  | error e₀ =>
    rw [answered] at failed
    cases failed.1
    exact .answer answered

lemma look (a : Access) (find : Store → α) : FailsWith σ (Arises σ) (Run.access a find) := by
  intro t e t' failed
  obtain ⟨e₀, out, same, -⟩ := resume_access_eq_error_iff.mp failed
  cases same
  exact .outage out

lemma compute {r : Except Error α} (h : PlainIn r) : FailsWith σ (Arises σ) (liftM r : Run α) :=
  .lift h.arises

lemma change (a : Access) {f : Store → Except Error Store} (hf : ∀ s, PlainIn (f s)) :
    FailsWith σ (Arises σ) (Run.change a f) := by
  refine .bind (look a id) fun store => ?_
  exact .bind (compute (hf store)) fun changed => fun _ _ _ => nofun

lemma arisesIn (hx : FailsWith σ (Arises σ) x) {u : UseCase} : FailsWith σ (ArisesIn σ u) x := hx.mono fun _ => .inl

lemma bare (hx : FailsWith σ (Arises σ) x) (plain : σ.AnswersBare) : FailsWith σ Bare x :=
  hx.mono fun _ arises => arises.bare plain

lemma ask (plain : σ.AnswersBare) (q : Question) : FailsWith σ Bare (Run.ask q) := (inquire q).bare plain

lemma access (plain : σ.AnswersBare) (a : Access) (find : Store → α) : FailsWith σ Bare (Run.access a find) :=
  (look a find).bare plain

end

end FailsWith

end Run

end Flyover
