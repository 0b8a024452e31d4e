import Flyover.Proofs.Run.Reply
import Flyover.Proofs.Run.Success

/-! Calls that do nothing to a settlement, and what writing one comes to. -/

namespace Flyover

def Call.isPassive : Call → Bool
  | .question (.callForUser ..) | .question (.registerPegin ..) | .access (.updateSettlement _) => false
  | _ => true

def Call.isAccess : Call → Bool
  | .access _ => true
  | _ => false

abbrev Trace.Asks : Trace → Trace → Prop := Trace.Inquires fun c => c.isPassive

abbrev Trace.Looks : Trace → Trace → Prop := Trace.Inquires fun c => c.isPassive ∧ c.isAccess

lemma Trace.Inquires.asks {q : Call → Prop} {t t' : Trace} (h : t.Inquires (fun c => c.isPassive ∧ q c) t') : t.Asks t' :=
  h.mono fun _ hc => hc.1

lemma replies_eq_nil (peers : List Call → Peers) (before : List Call) {cs : List Call} (h : ∀ c ∈ cs, c.isAccess) :
    replies peers before cs = [] := by
  rw [List.eq_nil_iff_forall_not_mem]
  intro r hr
  cases h _ (question_mem_of_mem_replies _ _ _ hr)

def Blind (hash : String) (c : Call) : Prop := c.isPassive ∧ c ≠ .access (.settlement hash)

lemma Settlement.State.notMem_locking_of_isTerminal {state : Settlement.State} (h : state.isTerminal) :
    state ∉ Settlement.State.locking := by
  cases state <;> first | decide | cases h

namespace Store

variable (s : Store) (t : Settlement) (hash : String)

lemma lookup_setSettlement :
    (s.setSettlement t).settlements[hash]? = if t.quoteHash = hash then some t else s.settlements[hash]? := by
  simp only [setSettlement, Std.ExtTreeMap.getElem?_insert, Std.compare_eq_iff_eq]

lemma lookup_setSettlement_self : (s.setSettlement t).settlements[t.quoteHash]? = some t := by
  rw [lookup_setSettlement, if_pos rfl]

lemma mem_settlements_of_lookup {s : Store} {t : Settlement} {hash : String} (h : s.settlements[hash]? = some t) :
    hash ∈ s.settlements := by
  rw [Std.ExtTreeMap.mem_iff_isSome_getElem?, h]
  rfl

lemma lookup_eq_none_iff : s.settlements[hash]? = none ↔ hash ∉ s.settlements := by
  rw [Std.ExtTreeMap.mem_iff_isSome_getElem?]
  cases s.settlements[hash]? <;> simp

lemma mem_settlementsWhere {s : Store} {t : Settlement} {condition : Settlement → Bool} :
    t ∈ s.settlementsWhere condition ↔ (∃ hash : String, s.settlements[hash]? = some t) ∧ condition t := by
  simp only [settlementsWhere, List.mem_filter, List.mem_map, Prod.exists, exists_eq_right,
    Std.ExtTreeMap.mem_toList_iff_getElem?_eq_some]

structure Alike (s s' : Store) : Prop where
  quotes : s'.quotes = s.quotes
  pricing : s'.pricing = s.pricing
  accounts : s'.accounts = s.accounts

instance : Std.Refl Alike := ⟨fun _ => ⟨rfl, rfl, rfl⟩⟩

instance : IsTrans Store Alike where
  trans _ _ _ h h' := ⟨h'.quotes.trans h.quotes, h'.pricing.trans h.pricing, h'.accounts.trans h.accounts⟩

lemma alike_setSettlement : s.Alike (s.setSettlement t) := ⟨rfl, rfl, rfl⟩

def Keyed (s : Store) : Prop := ∀ (hash : String) (t : Settlement), s.settlements[hash]? = some t → t.quoteHash = hash

lemma Keyed.setSettlement {s : Store} (keyed : s.Keyed) (t : Settlement) : (s.setSettlement t).Keyed := by
  intro hash u stored
  rw [lookup_setSettlement] at stored
  split at stored
  · rename_i key
    cases stored
    exact key
  · exact keyed hash u stored

lemma Keyed.putQuote {s : Store} (keyed : s.Keyed) (p : PricedQuote) : (s.putQuote p).Keyed := keyed

lemma Alike.eq_of_lookup {s s' : Store} (alike : s.Alike s')
    (same : ∀ hash : String, s'.settlements[hash]? = s.settlements[hash]?) : s' = s := by
  have settlements : s'.settlements = s.settlements := Std.ExtTreeMap.ext_getElem? @same
  cases s
  cases s'
  rw [Store.mk.injEq]
  exact ⟨alike.quotes, alike.pricing, settlements, alike.accounts⟩

end Store

lemma keyed_empty : Store.empty.Keyed := by
  intro h t ht
  simp [Store.empty] at ht

lemma Trace.Inquires.alike {p : Call → Prop} {t t' : Trace} (h : t.Inquires p t') : t.store.Alike t'.store :=
  h.store_eq ▸ refl_of Store.Alike _

def Trace.writing (t : Trace) (s : Settlement) : Trace :=
  { t.noting (.access (.updateSettlement s.quoteHash)) with store := t.store.setSettlement s }

structure Trace.Settles (t : Trace) (store : Store) (hash : String) (s : Settlement) (e : Event) : Prop where
  store : t.store = { store with settlements := store.settlements.insert hash s }
  events : t.events = [e]

structure Trace.Spares (t : Trace) (store : Store) : Prop where
  store : t.store = store
  events : t.events = []

lemma Trace.Inquires.spares {store : Store} {p : Call → Prop} {t : Trace} (h : (start store).Inquires p t) :
    t.Spares store :=
  ⟨h.store_eq, h.events_eq⟩

structure Writes (σ : Surroundings) (s : Settlement) (t t' : Trace) : Prop where
  calls : t'.calls = t.calls ++ [.access (.updateSettlement s.quoteHash)]
  store : t'.store = if ((σ.peers t.calls).outage (.updateSettlement s.quoteHash)).isNone ∧
    s.quoteHash ∈ t.store.settlements then t.store.setSettlement s else t.store

namespace Writes

variable {σ : Surroundings} {s : Settlement} {t t' : Trace} (hw : Writes σ s t t')

include hw

lemma store_eq_or : t'.store = t.store.setSettlement s ∨ t'.store = t.store := by
  rw [hw.store]
  split
  · exact .inl rfl
  · exact .inr rfl

lemma replies : t'.replies σ = t.replies σ := by
  rw [Trace.replies, hw.calls, replies_append, replies_access, List.append_nil]
  rfl

lemma alike : t.store.Alike t'.store := by
  rcases hw.store_eq_or with h | h <;> rw [h]
  · exact t.store.alike_setSettlement s
  · exact refl_of _ _

lemma lookup_of_ne {hash : String} (hn : s.quoteHash ≠ hash) :
    t'.store.settlements[hash]? = t.store.settlements[hash]? := by
  rcases hw.store_eq_or with h | h <;> rw [h]
  rw [Store.lookup_setSettlement, if_neg hn]

lemma lookup_self : t'.store.settlements[s.quoteHash]? = some s ∨
    t'.store.settlements[s.quoteHash]? = t.store.settlements[s.quoteHash]? := by
  rcases hw.store_eq_or with h | h <;> rw [h]
  · exact .inl (Store.lookup_setSettlement_self _ s)
  · exact .inr rfl

lemma lookup_of_kept (kept : (σ.peers t.calls).outage (.updateSettlement s.quoteHash) = none)
    (stored : s.quoteHash ∈ t.store.settlements) : t'.store.settlements[s.quoteHash]? = some s := by
  rw [hw.store, kept, if_pos ⟨rfl, stored⟩, Store.lookup_setSettlement_self]

end Writes

namespace Run

variable (σ : Surroundings) (s : Settlement) (t : Trace)

lemma updateSettlement_writes : Writes σ s t ((updateSettlement s).resume σ t).trace := by
  have h := resume_change σ t (.updateSettlement s.quoteHash) fun store => store.updateSettlement s
  cases ho : (σ.peers t.calls).outage (.updateSettlement s.quoteHash) with
  | some e =>
    rw [ho] at h
    rw [updateSettlement, h]
    exact ⟨rfl, by simp [ho]⟩
  | none =>
    rw [ho] at h
    by_cases hs : s.quoteHash ∈ t.store.settlements
    · rw [updateSettlement, h]
      exact ⟨by simp [Store.updateSettlement, hs], by simp [ho, hs, Store.updateSettlement]⟩
    · rw [updateSettlement, h]
      exact ⟨by simp [Store.updateSettlement, hs], by simp [ho, hs, Store.updateSettlement]⟩

lemma resume_updateSettlement_of_kept {σ : Surroundings} {s : Settlement} {t : Trace}
    (kept : (σ.peers t.calls).outage (.updateSettlement s.quoteHash) = none)
    (stored : s.quoteHash ∈ t.store.settlements) : (updateSettlement s).resume σ t = ⟨.ok (), t.writing s⟩ := by
  rw [updateSettlement, resume_change, kept, Store.updateSettlement, if_pos stored]
  rfl

lemma resume_announce_of_kept {α : Type} {σ : Surroundings} {s : Settlement} {t : Trace} (e : Event)
    (f : Except Error Unit → Run α) (kept : (σ.peers t.calls).outage (.updateSettlement s.quoteHash) = none)
    (stored : s.quoteHash ∈ t.store.settlements) :
    (publish e >>= fun _ => attempt (updateSettlement s) >>= f).resume σ t =
      (f (.ok ())).resume σ ((t.publishing e).writing s) := by
  have hp : (publish e).resume σ t = ⟨.ok (), t.publishing e⟩ := rfl
  have hu : (updateSettlement s).resume σ (t.publishing e) = ⟨.ok (), (t.publishing e).writing s⟩ :=
    resume_updateSettlement_of_kept kept stored
  have ha : (attempt (updateSettlement s)).resume σ (t.publishing e) = ⟨.ok (.ok ()), (t.publishing e).writing s⟩ := by
    rw [resume_attempt, hu]
  rw [resume_bind_of_ok hp, resume_bind_of_ok ha]

lemma writes_publishing_iff {e : Event} {t t' : Trace} {s : Settlement} :
    Writes σ s (t.publishing e) t' ↔ Writes σ s t t' :=
  ⟨fun h => ⟨h.calls, h.store⟩, fun h => ⟨h.calls, h.store⟩⟩

def errorOf {α : Type} : Except Error α → Option Error
  | .ok _ => none
  | .error e => some e

def record (e : Event) (error : Option Error) : Run Settlement := do
  publish e
  let written ← attempt (updateSettlement s)
  let writeError := match written with
    | .ok _ => none
    | .error e => some e
  match error.toList ++ writeError.toList with
  | [] => return s
  | errors => fail (.nonRecoverable errors)

lemma record_writes (e : Event) (error : Option Error) : Writes σ s t ((record s e error).resume σ t).trace := by
  have h := (writes_publishing_iff σ).mp (updateSettlement_writes σ s (t.publishing e))
  rw [record, resume_bind_of_ok (resume_publish σ t e), resume_bind, resume_attempt]
  rcases ho : (updateSettlement s).resume σ (t.publishing e) with ⟨(e' | l) | _, t'⟩ <;> rw [ho] at h <;>
    simp only [Trace.publishing] at ho <;> rw [ho]
  · cases error <;> exact h
  · exact h
  · cases error <;> exact h

def conclude (s : Settlement) : Option Error → Except Halt Settlement
  | none => .ok s
  | some e => .error (.failed (.nonRecoverable [e]))

lemma settles_writing {store : Store} {hash : String} {s : Settlement} {p : Call → Prop} {t : Trace} (e : Event)
    (inquired : (Trace.start store).Inquires p t) (key : s.quoteHash = hash) :
    ((t.publishing e).writing s).Settles store hash s e where
  store := by
    subst key
    show t.store.setSettlement s = _
    rw [inquired.store_eq]
    rfl
  events := by
    show t.events ++ [e] = _
    rw [inquired.events_eq]
    rfl

lemma resume_record_of_kept {σ : Surroundings} {store : Store} {s : Settlement} {p : Call → Prop} {t : Trace}
    (e : Event) (error : Option Error) (inquired : (Trace.start store).Inquires p t)
    (kept : (σ.peers t.calls).outage (.updateSettlement s.quoteHash) = none)
    (stored : s.quoteHash ∈ store.settlements) :
    ∃ t', (record s e error).resume σ t = ⟨conclude s error, t'⟩ ∧ t'.replies σ = t.replies σ ∧
      t'.Settles store s.quoteHash s e := by
  have resumed : (record s e error).resume σ t = ⟨conclude s error, (t.publishing e).writing s⟩ := by
    rw [record, resume_announce_of_kept e _ kept (by rwa [inquired.store_eq])]
    cases error <;> rfl
  have replies := (record_writes σ s t e error).replies
  rw [resumed] at replies
  exact ⟨_, resumed, replies, settles_writing e inquired rfl⟩

def settlementIn (state : Settlement.State) (hash : String) : Run Settlement := do
  let s ← (← findSettlement hash) |> require .quoteNotAccepted
  check (s.state = state) (.wrongState s.state)
  return s

lemma settlementIn_inquires (state : Settlement.State) (hash : String) :
    (settlementIn state hash).Keeps Trace.Asks := by
  refine .bind (.look rfl) fun found => ?_
  refine .bind (.require _ _) fun s => ?_
  exact .bind (.check _ _) fun _ => .pure s

variable {σ s t}

lemma resume_settlementIn_eq_ok_iff {state : Settlement.State} {hash : String} {t' : Trace} :
    (settlementIn state hash).resume σ t = ⟨.ok s, t'⟩ ↔
      (σ.peers t.calls).outage (.settlement hash) = none ∧ t.store.settlements[hash]? = some s ∧ s.state = state ∧
        t' = t.noting (.access (.settlement hash)) := by
  simp only [settlementIn, findSettlement, resume_bind_eq_ok_iff, resume_access_eq_ok_iff, resume_require_eq_ok_iff,
    resume_check_eq_ok_iff, resume_pure_eq_ok_iff]
  grind

end Run

end Flyover
