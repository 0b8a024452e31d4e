import Flyover.Proofs.Reports

/-! What is read from a store is what was written to it last, and a query tells of all that was. -/

namespace Flyover

/-- The list tells of all that satisfies the condition, each once and in the order of the keys. However it is collected, it
is the same list once it is sorted and what stands there twice is struck out. -/
structure Enumerates {α : Type} [DecidableEq α] (key : α → String) (condition : α → Prop) (l : List α) : Prop where
  sorted : SortedBy key l
  mem : ∀ a, a ∈ l ↔ condition a
  collected : ∀ l' : List α, (∀ a, a ∈ l' ↔ condition a) → (l'.mergeSort fun a b => key a ≤ key b).dedup = l

lemma SortedBy.enumerates {α : Type} [DecidableEq α] {key : α → String} {condition : α → Prop} {l : List α}
    (sorted : SortedBy key l) (mem : ∀ a, a ∈ l ↔ condition a) : Enumerates key condition l :=
  ⟨sorted, mem, fun _ mem' => sorted.dedup_mergeSort_eq fun a => (mem' a).trans (mem a).symm⟩

lemma lookup_insert {κ β : Type} [Ord κ] [Std.TransOrd κ] [Std.LawfulEqOrd κ] [DecidableEq κ] (m : Std.ExtTreeMap κ β)
    (k a : κ) (b : β) : (m.insert k b)[a]? = (if k = a then some b else none).or m[a]? := by
  simp only [Std.ExtTreeMap.getElem?_insert, Std.compare_eq_iff_eq]
  split <;> rfl

inductive Write
  | putQuote (p : PricedQuote)
  | insertSettlement (t : Settlement)
  | updateSettlement (t : Settlement)
  | putAccount (a : Signed TrustedAccount)

namespace Write

def run : Write → Run Unit
  | putQuote p => Run.putQuote p
  | insertSettlement t => Run.insertSettlement t
  | updateSettlement t => Run.updateSettlement t
  | putAccount a => Run.putAccount a

def access : Write → Access
  | putQuote p => .putQuote p.hash
  | insertSettlement t => .insertSettlement t.quoteHash
  | updateSettlement t => .updateSettlement t.quoteHash
  | putAccount a => .putAccount a.value.address

def refusal (s : Store) : Write → Option Error
  | insertSettlement t =>
    if t.quoteHash ∈ s.settlements then some (.storage ("retained quote " ++ t.quoteHash ++ " already exists")) else none
  | updateSettlement t =>
    if t.quoteHash ∈ s.settlements then none else some (.storage ("retained quote " ++ t.quoteHash ++ " does not exist"))
  | _ => none

def apply (s : Store) : Write → Store
  | putQuote p => s.putQuote p
  | insertSettlement t | updateSettlement t => s.setSettlement t
  | putAccount a => s.putAccount a

/-! What a write puts under a key, if it puts anything there. -/

def quote? (hash : String) : Write → Option Quote
  | putQuote p => if p.hash = hash then some p.quote else none
  | _ => none

def pricing? (hash : String) : Write → Option Pricing
  | putQuote p => if p.hash = hash then some p.pricing else none
  | _ => none

def settlement? (hash : String) : Write → Option Settlement
  | insertSettlement t | updateSettlement t => if t.quoteHash = hash then some t else none
  | _ => none

def account? (address : Address) : Write → Option (Signed TrustedAccount)
  | putAccount a => if a.value.address = address then some a else none
  | _ => none

lemma quoteHash_of_settlement? {hash : String} {w : Write} {t : Settlement} (put : w.settlement? hash = some t) :
    t.quoteHash = hash := by
  cases w with
  | putQuote p => cases put
  | putAccount a => cases put
  | insertSettlement u | updateSettlement u =>
    obtain ⟨key, same⟩ := Option.ite_none_right_eq_some.mp put
    cases same
    exact key

structure Shows {β : Type} (find : Store → Option β) (put : Write → Option β) : Prop where
  empty : find .empty = none
  apply : ∀ s w, find (w.apply s) = (put w).or (find s)

lemma shows_quote (hash : String) : Shows (fun s => s.quotes[hash]?) (quote? hash) where
  empty := Std.ExtTreeMap.getElem?_empty
  apply s w := by
    cases w with
    | putQuote p => exact lookup_insert ..
    | _ => rfl

lemma shows_pricing (hash : String) : Shows (fun s => s.pricing[hash]?) (pricing? hash) where
  empty := Std.ExtTreeMap.getElem?_empty
  apply s w := by
    cases w with
    | putQuote p => exact lookup_insert ..
    | _ => rfl

lemma shows_settlement (hash : String) : Shows (fun s => s.settlements[hash]?) (settlement? hash) where
  empty := Std.ExtTreeMap.getElem?_empty
  apply s w := by
    cases w with
    | insertSettlement t | updateSettlement t => exact lookup_insert ..
    | _ => rfl

lemma shows_account (address : Address) : Shows (fun s => s.accounts[address]?) (account? address) where
  empty := Std.ExtTreeMap.getElem?_empty
  apply s w := by
    cases w with
    | putAccount a => exact lookup_insert ..
    | _ => rfl

def after (σ : Surroundings) (s : Store) (w : Write) : Store := (w.run.exec σ s).trace.store

def written (σ : Surroundings) : Store → List Write → Store := List.foldl (after σ)

def effective (σ : Surroundings) : Store → List Write → List Write
  | _, [] => []
  | s, w :: ws =>
    if (w.run.exec σ s).result.isOk then w :: effective σ (w.after σ s) ws else effective σ (w.after σ s) ws

def last {β : Type} (σ : Surroundings) (put : Write → Option β) (ws : List Write) : Option β :=
  ((effective σ .empty ws).filterMap put).getLast?

section

variable {σ : Surroundings} (kept : ∀ calls a, (σ.peers calls).outage a = none)

include kept

lemma exec_of_kept (s : Store) (w : Write) : w.run.exec σ s = match w.refusal s with
    | some e => ⟨.error (.failed e), (Trace.start s).noting (.access w.access)⟩
    | none => ⟨.ok (), { (Trace.start s).noting (.access w.access) with store := w.apply s }⟩ := by
  cases w with
  | putQuote p => rw [run, Run.putQuote, Run.exec, Run.resume_change, kept]; rfl
  | putAccount a => rw [run, Run.putAccount, Run.exec, Run.resume_change, kept]; rfl
  | insertSettlement t =>
    rw [run, Run.insertSettlement, Run.exec, Run.resume_change, kept, Store.insertSettlement, refusal, Trace.start]
    by_cases stored : t.quoteHash ∈ s.settlements
    · rw [if_pos stored, if_pos stored]; rfl
    · rw [if_neg stored, if_neg stored]; rfl
  | updateSettlement t =>
    rw [run, Run.updateSettlement, Run.exec, Run.resume_change, kept, Store.updateSettlement, refusal, Trace.start]
    by_cases stored : t.quoteHash ∈ s.settlements
    · rw [if_pos stored, if_pos stored]; rfl
    · rw [if_neg stored, if_neg stored]; rfl

lemma effective_cons_of_refused {s : Store} {w : Write} {e : Error} (refused : w.refusal s = some e) (ws : List Write) :
    w.after σ s = s ∧ effective σ s (w :: ws) = effective σ s ws := by
  have halted := exec_of_kept kept s w
  rw [refused] at halted
  have unchanged : w.after σ s = s := congrArg (fun o => o.trace.store) halted
  exact ⟨unchanged, by rw [effective, halted, unchanged]; rfl⟩

lemma effective_cons_of_done {s : Store} {w : Write} (done : w.refusal s = none) (ws : List Write) :
    w.after σ s = w.apply s ∧ effective σ s (w :: ws) = w :: effective σ (w.apply s) ws := by
  have through := exec_of_kept kept s w
  rw [done] at through
  have changed : w.after σ s = w.apply s := congrArg (fun o => o.trace.store) through
  exact ⟨changed, by rw [effective, through, changed]; rfl⟩

lemma Shows.written {β : Type} {find : Store → Option β} {put : Write → Option β} (shows : Shows find put)
    (s : Store) (ws : List Write) : find (written σ s ws) = ((effective σ s ws).filterMap put).getLast?.or (find s) := by
  induction ws generalizing s with
  | nil => rfl
  | cons w ws ih =>
    rw [Write.written, List.foldl_cons, ← Write.written, ih]
    -- a write that is refused counts for nothing; one that is done is the last one unless a later one puts something there
    cases h : w.refusal s with
    | some e =>
      obtain ⟨unchanged, skipped⟩ := effective_cons_of_refused kept h ws
      rw [unchanged, skipped]
    | none =>
      obtain ⟨changed, done⟩ := effective_cons_of_done kept h ws
      rw [changed, done, shows.apply, List.filterMap_cons]
      cases put w with
      | none => rfl
      | some b =>
        rw [List.getLast?_cons]
        cases ((effective σ (w.apply s) ws).filterMap put).getLast? <;> rfl

lemma Shows.last {β : Type} {find : Store → Option β} {put : Write → Option β} (shows : Shows find put)
    (ws : List Write) : find (Write.written σ .empty ws) = Write.last σ put ws := by
  rw [shows.written kept, shows.empty, Option.or_none, Write.last]

lemma keyed_written (ws : List Write) : (written σ .empty ws).Keyed := by
  intro hash t stored
  rw [(shows_settlement hash).last kept] at stored
  obtain ⟨w, -, put⟩ := List.mem_filterMap.mp (List.mem_of_getLast? stored)
  exact quoteHash_of_settlement? put

end

structure Answers (σ : Surroundings) (ws : List Write) (s : Store) : Prop where
  quote (hash : String) : ((Run.findQuote hash).exec σ s).result = .ok (last σ (quote? hash) ws)
  pricing (hash : String) : ((Run.findPricing hash).exec σ s).result =
    .ok ((last σ (pricing? hash) ws).getD ⟨0, .zero false, 0⟩)
  settlement (hash : String) : ((Run.findSettlement hash).exec σ s).result = .ok (last σ (settlement? hash) ws)
  account (address : Address) : ((Run.findAccount address).exec σ s).result = .ok (last σ (account? address) ws)
  settlementsIn (states : List Settlement.State) : ∃ l, ((Run.settlementsIn states).exec σ s).result = .ok l ∧
    Enumerates Settlement.quoteHash (fun t => last σ (settlement? t.quoteHash) ws = some t ∧ t.state ∈ states) l
  settlementsOf (owner : Address) (states : List Settlement.State) :
    ∃ l, ((Run.settlementsOf owner states).exec σ s).result = .ok l ∧ Enumerates Settlement.quoteHash
      (fun t => last σ (settlement? t.quoteHash) ws = some t ∧ t.owner = some owner ∧ t.state ∈ states) l
  quotesWithin (hashes : List String) (start stop : Instant) :
    ∃ l, ((Run.quotesWithin hashes start stop).exec σ s).result = .ok l ∧ Enumerates Prod.fst
      (fun e => e.1 ∈ hashes ∧ last σ (quote? e.1) ws = some e.2 ∧ e.2.AgreedIn start.wholeSecond stop) l

/-- Which writes succeed after others, and that those which fail change nothing. -/
structure Admits (σ : Surroundings) (ws : List Write) (s : Store) : Prop where
  putQuote (p : PricedQuote) : ((Run.putQuote p).exec σ s).result = .ok ()
  putAccount (a : Signed TrustedAccount) : ((Run.putAccount a).exec σ s).result = .ok ()
  insertSettlement (t : Settlement) : ((Run.insertSettlement t).exec σ s).result =
    if (last σ (settlement? t.quoteHash) ws).isSome
    then .error (.failed (.storage ("retained quote " ++ t.quoteHash ++ " already exists"))) else .ok ()
  updateSettlement (t : Settlement) : ((Run.updateSettlement t).exec σ s).result =
    if (last σ (settlement? t.quoteHash) ws).isSome
    then .ok () else .error (.failed (.storage ("retained quote " ++ t.quoteHash ++ " does not exist")))
  failed (w : Write) : (w.run.exec σ s).result ≠ .ok () → (w.run.exec σ s).trace.Spares s

section

variable {σ : Surroundings} (kept : ∀ calls a, (σ.peers calls).outage a = none) (ws : List Write)

include kept

lemma result_access_of_kept {α : Type} (a : Access) (find : Store → α) (s : Store) :
    ((Run.access a find).exec σ s).result = .ok (find s) := by
  rw [Run.exec, Run.resume_access, kept]
  rfl

lemma answers : Answers σ ws (written σ .empty ws) where
  quote hash := by rw [Run.findQuote, result_access_of_kept kept, (shows_quote hash).last kept]
  pricing hash := by
    rw [Run.findPricing, result_access_of_kept kept, Store.pricingOf, Std.ExtTreeMap.getD_eq_getD_getElem?,
      (shows_pricing hash).last kept]
  settlement hash := by rw [Run.findSettlement, result_access_of_kept kept, (shows_settlement hash).last kept]
  account address := by rw [Run.findAccount, result_access_of_kept kept, (shows_account address).last kept]
  settlementsIn states := by
    refine ⟨_, result_access_of_kept kept _ _ _, (Store.sortedBy_settlementsWhere (keyed_written kept ws) _).enumerates
      fun t => ?_⟩
    rw [← (shows_settlement t.quoteHash).last kept]
    exact Store.mem_settlementsIn_iff (keyed_written kept ws)
  settlementsOf owner states := by
    refine ⟨_, result_access_of_kept kept _ _ _, (Store.sortedBy_settlementsWhere (keyed_written kept ws) _).enumerates
      fun t => ?_⟩
    rw [← (shows_settlement t.quoteHash).last kept]
    exact Store.mem_settlementsOf_iff (keyed_written kept ws)
  quotesWithin hashes start stop := by
    refine ⟨_, result_access_of_kept kept _ _ _, (Store.sortedBy_quotesWithin _ hashes start stop).enumerates
      fun e => ?_⟩
    rw [← (shows_quote e.1).last kept, ← Quote.within_iff]
    exact Store.mem_quotesWithin

lemma isSome_last_iff (hash : String) :
    (last σ (settlement? hash) ws).isSome ↔ hash ∈ (written σ .empty ws).settlements := by
  rw [← (shows_settlement hash).last kept, Std.ExtTreeMap.mem_iff_isSome_getElem?]

lemma admits : Admits σ ws (written σ .empty ws) where
  putQuote p := congrArg Outcome.result (exec_of_kept kept _ (.putQuote p))
  putAccount a := congrArg Outcome.result (exec_of_kept kept _ (.putAccount a))
  insertSettlement t := by
    refine (congrArg Outcome.result (exec_of_kept kept _ (.insertSettlement t))).trans ?_
    simp only [refusal, isSome_last_iff kept]
    by_cases stored : t.quoteHash ∈ (written σ .empty ws).settlements
    · rw [if_pos stored, if_pos stored]
    · rw [if_neg stored, if_neg stored]
  updateSettlement t := by
    refine (congrArg Outcome.result (exec_of_kept kept _ (.updateSettlement t))).trans ?_
    simp only [refusal, isSome_last_iff kept]
    by_cases stored : t.quoteHash ∈ (written σ .empty ws).settlements
    · rw [if_pos stored, if_pos stored]
    · rw [if_neg stored, if_neg stored]
  failed w failed := by
    rw [exec_of_kept kept] at failed ⊢
    cases refused : w.refusal (written σ .empty ws) with
    | none =>
      rw [refused] at failed
      exact absurd rfl failed
    | some e => exact ⟨rfl, rfl⟩

lemma written_eq_of_last {ws' : List Write}
    (quotes : ∀ hash, last σ (quote? hash) ws' = last σ (quote? hash) ws)
    (pricing : ∀ hash, last σ (pricing? hash) ws' = last σ (pricing? hash) ws)
    (settlements : ∀ hash, last σ (settlement? hash) ws' = last σ (settlement? hash) ws)
    (accounts : ∀ address, last σ (account? address) ws' = last σ (account? address) ws) :
    written σ .empty ws' = written σ .empty ws := by
  have same {β : Type} {find : Store → Option β} {put : Write → Option β} (shows : Shows find put)
      (agree : last σ put ws' = last σ put ws) : find (written σ .empty ws') = find (written σ .empty ws) := by
    rw [shows.last kept, shows.last kept, agree]
  have alike : (written σ .empty ws).Alike (written σ .empty ws') :=
    ⟨Std.ExtTreeMap.ext_getElem? fun {hash} => same (shows_quote hash) (quotes hash),
      Std.ExtTreeMap.ext_getElem? fun {hash} => same (shows_pricing hash) (pricing hash),
      Std.ExtTreeMap.ext_getElem? fun {address} => same (shows_account address) (accounts address)⟩
  exact alike.eq_of_lookup fun hash => same (shows_settlement hash) (settlements hash)

end

end Write

open Write in
theorem store_tells_last_writes {σ : Surroundings} (kept : ∀ calls a, (σ.peers calls).outage a = none) (ws : List Write) :
    Answers σ ws (written σ .empty ws) ∧ Admits σ ws (written σ .empty ws) ∧
    ∀ ws' : List Write, (∀ hash, last σ (quote? hash) ws' = last σ (quote? hash) ws) →
      (∀ hash, last σ (pricing? hash) ws' = last σ (pricing? hash) ws) →
      (∀ hash, last σ (settlement? hash) ws' = last σ (settlement? hash) ws) →
      (∀ address, last σ (account? address) ws' = last σ (account? address) ws) →
        written σ .empty ws' = written σ .empty ws :=
  ⟨answers kept ws, admits kept ws, fun _ => written_eq_of_last kept ws⟩

namespace Sample

def writes : List Write :=
  [.putQuote (unpriced "aa" (quoteAt 100 1001 10)), .insertSettlement (settlement .waitingForDeposit),
    .insertSettlement (settlement .callForUserSucceeded), .updateSettlement (settled "bb"), .updateSettlement (settled "aa")]

end Sample

open Write Sample in
theorem failed_writes_are_not_read :
    Answers paying writes (written paying .empty writes) ∧ Admits paying writes (written paying .empty writes) ∧
      last paying (settlement? "aa") writes = some (settled "aa") ∧ last paying (settlement? "bb") writes = none ∧
      ((Run.findSettlement "aa").exec paying (written paying .empty writes)).result = .ok (some (settled "aa")) := by
  have ⟨answers, admits, _⟩ := store_tells_last_writes (σ := paying) (fun _ _ => rfl) writes
  have updated : last paying (settlement? "aa") writes = some (settled "aa") := by decide
  exact ⟨answers, admits, updated, by decide, by rw [answers.settlement, updated]⟩

open Write Sample in
theorem begun_second_is_listed :
    ∃ l, ((Run.quotesWithin ["aa"] (.ofSeconds 100 1) (.ofSeconds 101 0)).exec paying (written paying .empty writes)).result =
        .ok l ∧
      ¬ Enumerates Prod.fst (fun e => e.1 ∈ ["aa"] ∧ last paying (quote? e.1) writes = some e.2 ∧
        e.2.AgreedIn (.ofSeconds 100 1) (.ofSeconds 101 0)) l := by
  refine ⟨_, rfl, fun enumerates => ?_⟩
  have listed : ("aa", quoteAt 100 1001 10) ∈ (written paying .empty writes).quotesWithin ["aa"] (.ofSeconds 100 1)
    (.ofSeconds 101 0) := by decide
  exact absurd ((enumerates.mem _).mp listed).2.2.1 (by decide)

end Flyover
