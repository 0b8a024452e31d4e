import Flyover.Proofs.Endings.Update

/-! Runs that read and write what is stored under one hash. From stores that agree there they come to the same. -/

namespace Flyover

namespace Store

def setAll (s : Store) (l : List Settlement) : Store := l.foldl setSettlement s

lemma setAll_append (s : Store) (l l' : List Settlement) : s.setAll (l ++ l') = (s.setAll l).setAll l' := List.foldl_append

lemma alike_setAll (s : Store) (l : List Settlement) : s.Alike (s.setAll l) := by
  induction l generalizing s with
  | nil => exact refl_of _ s
  | cons t l ih => exact trans_of _ (s.alike_setSettlement t) (ih (s.setSettlement t))

lemma lookup_setAll_of_ne {h : String} {l : List Settlement} (s : Store) (apart : ∀ t ∈ l, t.quoteHash ≠ h) :
    (s.setAll l).settlements[h]? = s.settlements[h]? := by
  induction l generalizing s with
  | nil => rfl
  | cons t l ih =>
    have rest := ih (s.setSettlement t) fun u hu => apart u (List.mem_cons_of_mem t hu)
    rw [lookup_setSettlement, if_neg (apart t List.mem_cons_self)] at rest
    exact rest

lemma lookup_setAll_of_mem {l : List Settlement} (s : Store) (distinct : (l.map Settlement.quoteHash).Nodup) {t : Settlement}
    (mem : t ∈ l) : (s.setAll l).settlements[t.quoteHash]? = some t := by
  induction l generalizing s with
  | nil => cases mem
  | cons u l ih =>
    rw [List.map_cons, List.nodup_cons] at distinct
    rcases List.mem_cons.mp mem with rfl | later
    · have apart (u : Settlement) (hu : u ∈ l) : u.quoteHash ≠ t.quoteHash := fun same =>
        distinct.1 (List.mem_map.mpr ⟨u, hu, same⟩)
      exact (lookup_setAll_of_ne _ apart).trans (lookup_setSettlement_self s t)
    · exact ih (s.setSettlement u) distinct.2 later

lemma setSettlement_comm (s : Store) {t u : Settlement} (apart : t.quoteHash ≠ u.quoteHash) :
    (s.setSettlement t).setSettlement u = (s.setSettlement u).setSettlement t := by
  have settlements : ((s.setSettlement t).setSettlement u).settlements =
      ((s.setSettlement u).setSettlement t).settlements := by
    apply Std.ExtTreeMap.ext_getElem?
    intro h
    simp only [lookup_setSettlement]
    split <;> split
    · rename_i hu ht
      exact absurd (ht.trans hu.symm) apart
    all_goals rfl
  exact congrArg (fun m => { s with settlements := m }) settlements

lemma setAll_setSettlement {l : List Settlement} (s : Store) {t : Settlement}
    (apart : ∀ u ∈ l, t.quoteHash ≠ u.quoteHash) : (s.setSettlement t).setAll l = (s.setAll l).setSettlement t := by
  induction l generalizing s with
  | nil => rfl
  | cons u l ih =>
    show ((s.setSettlement t).setSettlement u).setAll l = ((s.setSettlement u).setAll l).setSettlement t
    rw [setSettlement_comm s (apart u List.mem_cons_self), ih _ fun v hv => apart v (List.mem_cons_of_mem u hv)]

lemma setAll_comm {l l' : List Settlement} (s : Store) (apart : ∀ t ∈ l, ∀ u ∈ l', t.quoteHash ≠ u.quoteHash) :
    (s.setAll l).setAll l' = (s.setAll l').setAll l := by
  induction l generalizing s with
  | nil => rfl
  | cons t l ih =>
    show ((s.setSettlement t).setAll l).setAll l' = ((s.setAll l').setSettlement t).setAll l
    rw [ih _ fun u hu => apart u (List.mem_cons_of_mem t hu), setAll_setSettlement s (apart t List.mem_cons_self)]

def KeyedAt (h : String) (s : Store) : Prop := ∀ t : Settlement, s.settlements[h]? = some t → t.quoteHash = h

structure Agree (h : String) (s s' : Store) : Prop where
  quote : s'.quotes[h]? = s.quotes[h]?
  settlement : s'.settlements[h]? = s.settlements[h]?
  keyed : s.KeyedAt h

section

variable {h : String} {s s' : Store} {l : List Settlement}

lemma Agree.setSettlement (agree : Agree h s s') {t : Settlement} (key : t.quoteHash = h) :
    Agree h (s.setSettlement t) (s'.setSettlement t) := by
  refine ⟨agree.quote, ?_, ?_⟩
  · rw [lookup_setSettlement, lookup_setSettlement, if_pos key, if_pos key]
  · intro u hu
    rw [lookup_setSettlement, if_pos key] at hu
    exact Option.some.inj hu ▸ key

lemma Agree.setAll (agree : Agree h s s') (keys : ∀ t ∈ l, t.quoteHash = h) : Agree h (s.setAll l) (s'.setAll l) := by
  induction l generalizing s s' with
  | nil => exact agree
  | cons t l ih =>
    exact ih (agree.setSettlement (keys t List.mem_cons_self)) fun u hu => keys u (List.mem_cons_of_mem t hu)

lemma agree_setAll (keyed : s.KeyedAt h) (apart : ∀ t ∈ l, t.quoteHash ≠ h) : Agree h s (s.setAll l) :=
  ⟨by rw [(alike_setAll s l).quotes], lookup_setAll_of_ne s apart, keyed⟩

end

end Store

namespace Run

variable {α β : Type}

/-- Whatever else is stored, the run comes to the same and writes the same settlements, all of them under the hash. -/
def Local (h : String) (x : Run α) : Prop := ∀ (σ : Surroundings) (s s' : Store) (cs : List Call) (es : List Event),
  Store.Agree h s s' → ∃ (l : List Settlement) (r : Except Halt α) (cs' : List Call) (es' : List Event),
    (∀ t ∈ l, t.quoteHash = h) ∧ x.resume σ ⟨s, cs, es⟩ = ⟨r, ⟨s.setAll l, cs', es'⟩⟩ ∧
      x.resume σ ⟨s', cs, es⟩ = ⟨r, ⟨s'.setAll l, cs', es'⟩⟩

def Yields (h : String) (x : Run α) (a : α) : Prop := ∃ σ t t', t.store.KeyedAt h ∧ x.resume σ t = ⟨.ok a, t'⟩

namespace Local

variable {h : String} {x : Run α} {f : α → Run β}

lemma bind (hx : Local h x) (hf : ∀ a, Yields h x a → Local h (f a)) : Local h (x >>= f) := by
  intro σ s s' cs es agree
  obtain ⟨l, r, cs', es', keys, hs, hs'⟩ := hx σ s s' cs es agree
  cases r with
  | error e => exact ⟨l, .error e, cs', es', keys, resume_bind_of_error hs, resume_bind_of_error hs'⟩
  | ok a =>
    obtain ⟨l', r, cs'', es'', keys', ho, ho'⟩ := hf a ⟨σ, _, _, agree.keyed, hs⟩ σ _ _ cs' es' (agree.setAll keys)
    refine ⟨l ++ l', r, cs'', es'', ?_, ?_, ?_⟩
    · intro t ht
      rcases List.mem_append.mp ht with ht | ht
      · exact keys t ht
      · exact keys' t ht
    · rw [resume_bind_of_ok hs, ho, Store.setAll_append]
    · rw [resume_bind_of_ok hs', ho', Store.setAll_append]

lemma of_storeless (hx : ∀ σ cs es, ∃ r cs' es', ∀ s, x.resume σ ⟨s, cs, es⟩ = ⟨r, ⟨s, cs', es'⟩⟩) : Local h x := by
  intro σ s s' cs es _
  obtain ⟨r, cs', es', ho⟩ := hx σ cs es
  exact ⟨[], r, cs', es', by simp, ho s, ho s'⟩

lemma pure (a : α) : Local h (Pure.pure a : Run α) := of_storeless fun _ _ _ => ⟨_, _, _, fun _ => rfl⟩

lemma fail (e : Error) : Local h (Run.fail e : Run α) := of_storeless fun _ _ _ => ⟨_, _, _, fun _ => rfl⟩

lemma lift (r : Except Error α) : Local h (liftM r : Run α) := by
  cases r with
  | ok a => exact pure a
  | error e => exact fail e

lemma require (e : Error) (o : Option α) : Local h (Run.require e o) := by
  cases o with
  | none => exact fail e
  | some a => exact pure a

lemma check (condition : Bool) (e : Error) : Local h (Run.check condition e) := by
  cases condition with
  | false => exact fail e
  | true => exact pure ()

lemma settings : Local h Run.settings := of_storeless fun _ _ _ => ⟨_, _, _, fun _ => rfl⟩

lemma now : Local h Run.now := of_storeless fun _ _ _ => ⟨_, _, _, fun _ => rfl⟩

lemma acquire (lock : Lock) : Local h (Run.acquire lock) := of_storeless fun _ _ _ => ⟨_, _, _, fun _ => rfl⟩

lemma publish (e : Event) : Local h (Run.publish e) := of_storeless fun _ cs es => ⟨.ok (), cs, es ++ [e], fun _ => rfl⟩

lemma ask (q : Question) : Local h (Run.ask q) :=
  of_storeless fun σ cs es =>
    ⟨((σ.peers cs).answer q).mapError .failed, cs ++ [Call.question q], es, fun s => resume_ask σ ⟨s, cs, es⟩ q⟩

lemma ite {c : Prop} [Decidable c] {y : Run α} (hx : Local h x) (hy : Local h y) : Local h (if c then x else y) := by
  split
  · exact hx
  · exact hy

lemma access {a : Access} {find : Store → α} (hf : ∀ {s s' : Store}, Store.Agree h s s' → find s' = find s) :
    Local h (Run.access a find) := by
  intro σ s s' cs es agree
  rw [resume_access, resume_access, hf agree]
  dsimp only
  cases (σ.peers cs).outage a with
  | some e => exact ⟨[], _, _, _, by simp, rfl, rfl⟩
  | none => exact ⟨[], _, _, _, by simp, rfl, rfl⟩

lemma updateSettlement {t : Settlement} (key : t.quoteHash = h) : Local h (Run.updateSettlement t) := by
  intro σ s s' cs es agree
  have same : h ∈ s'.settlements ↔ h ∈ s.settlements := by
    rw [Std.ExtTreeMap.mem_iff_isSome_getElem?, Std.ExtTreeMap.mem_iff_isSome_getElem?, agree.settlement]
  rw [Run.updateSettlement, resume_change, resume_change]
  simp only [Store.updateSettlement, key, same]
  cases (σ.peers cs).outage (.updateSettlement h) with
  | some e => exact ⟨[], _, _, _, by simp, rfl, rfl⟩
  | none =>
    by_cases stored : h ∈ s.settlements
    · simp only [if_pos stored]
      exact ⟨[t], _, _, _, by simpa using key, rfl, rfl⟩
    · simp only [if_neg stored]
      exact ⟨[], _, _, _, by simp, rfl, rfl⟩

lemma mapError {g : Error → Error} (hx : Local h x) : Local h (Run.mapError g x) := by
  intro σ s s' cs es agree
  obtain ⟨l, r, cs', es', keys, hs, hs'⟩ := hx σ s s' cs es agree
  rw [resume_mapError, resume_mapError, hs, hs']
  rcases r with (e | lock) | a <;> exact ⟨l, _, cs', es', keys, rfl, rfl⟩

lemma attempt (hx : Local h x) : Local h (Run.attempt x) := by
  intro σ s s' cs es agree
  obtain ⟨l, r, cs', es', keys, hs, hs'⟩ := hx σ s s' cs es agree
  rw [resume_attempt, resume_attempt, hs, hs']
  rcases r with (e | lock) | a <;> exact ⟨l, _, cs', es', keys, rfl, rfl⟩

lemma record {t : Settlement} (key : t.quoteHash = h) (e : Event) (error : Option Error) :
    Local h (Run.record t e error) := by
  refine .bind (.publish e) fun _ _ => ?_
  refine .bind (.attempt (.updateSettlement key)) fun written _ => ?_
  cases error <;> cases written
  · exact .fail _
  · exact .pure t
  · exact .fail _
  · exact .fail _

lemma settlementIn (state : Settlement.State) : Local h (Run.settlementIn state h) := by
  refine .bind (.access fun agree => agree.settlement) fun found _ => ?_
  refine .bind (.require _ _) fun s _ => ?_
  exact .bind (.check _ _) fun _ _ => .pure s

end Local

end Run

end Flyover
