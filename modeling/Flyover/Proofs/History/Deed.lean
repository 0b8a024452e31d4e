import Flyover.Proofs.Endings.Acceptance
import Flyover.Proofs.Endings.Expiry
import Flyover.Proofs.Endings.Observation
import Flyover.Proofs.Endings.Payout
import Flyover.Proofs.Endings.Quoting
import Flyover.Proofs.Endings.Registration
import Flyover.Proofs.History.Inquiry

/-! Histories: use cases run one after the other, each from the store that the one before has left. -/

namespace Flyover

inductive Step
  | getQuote (request : QuoteRequest)
  | acceptQuote (hash : String) (signature : Option String)
  | observeDeposit (hash : String) (txid : Txid)
  | callForUser (given : Settlement)
  | registerPegin (given : Settlement)
  | expireQuote (given : Settlement)
  | sweepExpired

namespace Step

def run : Step → Run Unit
  | getQuote request => discard (Flyover.getQuote request)
  | acceptQuote hash signature => discard (Flyover.acceptQuote hash signature)
  | observeDeposit hash txid => Flyover.observeDeposit hash txid
  | callForUser given => discard (Flyover.callForUser given)
  | registerPegin given => discard (Flyover.registerPegin given)
  | expireQuote given => discard (Flyover.expireQuote given)
  | sweepExpired => discard Flyover.sweepExpired

def hash? : Step → Option String
  | getQuote _ | sweepExpired => none
  | acceptQuote hash _ | observeDeposit hash _ => some hash
  | callForUser given | registerPegin given | expireQuote given => some given.quoteHash

def given? : Step → Option Settlement
  | callForUser given | registerPegin given | expireQuote given => some given
  | _ => none

def closing? : Step → Option (Settlement × Settlement.State)
  | callForUser given => some (given, .callForUserFailed)
  | expireQuote given => some (given, .timeForDepositElapsed)
  | _ => none

lemma hash?_of_closing? {step : Step} {given : Settlement} {state : Settlement.State}
    (h : step.closing? = some (given, state)) : step.hash? = some given.quoteHash := by
  cases step <;> simp only [closing?, Option.some.injEq, Prod.mk.injEq, reduceCtorEq] at h
  all_goals
    rw [← h.1]
    rfl

lemma given?_of_closing? {step : Step} {given : Settlement} {state : Settlement.State}
    (h : step.closing? = some (given, state)) : step.given? = some given := by
  cases step <;> simp only [closing?, Option.some.injEq, Prod.mk.injEq, reduceCtorEq] at h
  all_goals
    rw [← h.1]
    rfl

lemma isTerminal_of_closing? {step : Step} {given : Settlement} {state : Settlement.State}
    (h : step.closing? = some (given, state)) : state.isTerminal := by
  cases step <;> simp only [closing?, Option.some.injEq, Prod.mk.injEq, reduceCtorEq] at h
  all_goals
    rw [← h.2]
    rfl

end Step

def Reply.isPassive (r : Reply) : Bool := (Call.question r.question).isPassive

lemma Trace.Calls.isPassive_of_mem_replies {σ : Surroundings} {s : Store} {t : Trace} {r : Reply}
    (h : (start s).Calls (fun c => c.isPassive) t) (hr : r ∈ t.replies σ) : r.isPassive :=
  h.of_start _ (question_mem_of_mem_replies _ _ _ hr)

lemma Trace.Calls.filter_replies_eq_nil {σ : Surroundings} {s : Store} {t : Trace} {p : Reply → Bool}
    (h : (start s).Calls (fun c => c.isPassive) t) (hp : ∀ {r : Reply}, r.isPassive → p r = false) :
    (t.replies σ).filter p = [] := by
  rw [List.filter_eq_nil_iff]
  intro r hr
  rw [hp (h.isPassive_of_mem_replies hr)]
  exact Bool.false_ne_true

structure Deed where
  step : Step
  surroundings : Surroundings

namespace Deed

variable (d : Deed) (s : Store)

def trace : Trace := (d.step.run.exec d.surroundings s).trace

def after : Store := (d.trace s).store

def replies : List Reply := (d.trace s).replies d.surroundings

def KeepsUpdates : Prop :=
  ∀ (calls : List Call) (hash : String), (d.surroundings.peers calls).outage (.updateSettlement hash) = none

def WritesUnread (hash : String) : Prop :=
  .access (.updateSettlement hash) ∈ (d.trace s).calls ∧ .access (.settlement hash) ∉ (d.trace s).calls

def Leaves (t : Settlement) : Prop :=
  (d.after s).settlements[t.quoteHash]? = some t ∨
    ¬ d.KeepsUpdates ∧ (d.after s).settlements[t.quoteHash]? = s.settlements[t.quoteHash]?

def Quiet : Prop := ∀ r ∈ d.replies s, r.isPassive

def Orders (q : Question) (answer : Except Error q.Answer) : Prop :=
  ∃ before, (∀ r ∈ before, r.isPassive) ∧ d.replies s = before ++ [⟨q, answer⟩]

end Deed

def play (s : Store) (ds : List Deed) : Store := ds.foldl (fun s d => d.after s) s

inductive Occasion
  | deed (d : Deed)
  | inquiry (i : Inquiry) (surroundings : Surroundings)

namespace Occasion

def after (s : Store) : Occasion → Store
  | deed d => d.after s
  | inquiry i surroundings => (i.run.exec surroundings s).trace.store

def deed? : Occasion → Option Deed
  | deed d => some d
  | inquiry .. => none

/-- Whatever is asked in between, a store is what the deeds make of it. -/
theorem foldl_after_eq_play (s : Store) (l : List Occasion) : l.foldl after s = play s (l.filterMap deed?) := by
  induction l generalizing s with
  | nil => rfl
  | cons o l ih =>
    cases o with
    | deed d => exact ih (d.after s)
    | inquiry i surroundings =>
      rw [List.foldl_cons, after, i.store_run, ih]
      rfl

end Occasion

structure Entry where
  before : Store
  deed : Deed

abbrev Entry.after (e : Entry) : Store := e.deed.after e.before

def Entry.replies (e : Entry) : List Reply := e.deed.replies e.before

def entries (s : Store) : List Deed → List Entry
  | [] => []
  | d :: ds => ⟨s, d⟩ :: entries (d.after s) ds

variable (s : Store) (d : Deed) (ds ds' : List Deed)

@[simp] lemma play_nil : play s [] = s := rfl

@[simp] lemma play_cons : play s (d :: ds) = play (d.after s) ds := rfl

lemma play_append : play s (ds ++ ds') = play (play s ds) ds' := List.foldl_append

lemma play_concat : play s (ds ++ [d]) = d.after (play s ds) := by
  rw [play_append]
  rfl

@[simp] lemma entries_nil : entries s [] = [] := rfl

lemma entries_append : entries s (ds ++ ds') = entries s ds ++ entries (play s ds) ds' := by
  induction ds generalizing s with
  | nil => rfl
  | cons d ds ih => exact congrArg (⟨s, d⟩ :: ·) (ih (d.after s))

lemma entries_concat : entries s (ds ++ [d]) = entries s ds ++ [⟨play s ds, d⟩] := entries_append s ds [d]

lemma mem_entries_concat : ⟨play s ds, d⟩ ∈ entries s (ds ++ [d]) := by
  rw [entries_concat]
  exact List.mem_append_right _ (List.mem_singleton_self _)

lemma exists_of_mem_entries {e : Entry} (h : e ∈ entries s ds) :
    ∃ before after, ds = before ++ e.deed :: after ∧ e.before = play s before := by
  induction ds generalizing s with
  | nil => cases h
  | cons d ds ih =>
    rcases List.mem_cons.mp h with rfl | h
    · exact ⟨[], ds, rfl, rfl⟩
    · obtain ⟨before, after, rfl, hb⟩ := ih (d.after s) h
      exact ⟨d :: before, after, rfl, hb⟩

def EachAfter {α : Type} (R : List α → α → Prop) (l : List α) : Prop :=
  ∀ before a after, l = before ++ a :: after → R before a

namespace EachAfter

variable {α : Type} {R : List α → α → Prop} {l : List α} {a : α}

lemma nil : EachAfter R [] := by
  intro before a after h
  simp at h

lemma concat (hl : EachAfter R l) (ha : R l a) : EachAfter R (l ++ [a]) := by
  intro before b after h
  rcases List.eq_nil_or_concat after with rfl | ⟨after, last, rfl⟩
  · obtain ⟨rfl, hs⟩ := List.append_inj' h rfl
    cases hs
    exact ha
  · rw [List.concat_eq_append, ← List.cons_append, ← List.append_assoc] at h
    exact hl before b after (List.append_inj' h rfl).1

lemma of_append {l' : List α} (h : EachAfter R (l ++ l')) : EachAfter R l := by
  rintro before b after rfl
  exact h before b (after ++ l') (by simp)

lemma last (h : EachAfter R (l ++ [a])) : R l a := h l a [] rfl

end EachAfter

/-! A provider whose peers oblige it, and the quote that it makes. -/

namespace Sample

def hash : String := "00000000000000000000000000000000000000000000000000000000000000aa"

def settings : Settings where
  network := .regtest
  chainId := 33
  feeCollector := Recommendation.zeroAddress
  feeScale := 100
  secretKey := ⟨1, by decide, by decide⟩
  bitcoinAddress := ""
  timeForDeposit := 3600
  callTime := 7200
  penaltyFee := 0
  fixedFee := 0
  feePercentage := .zero false
  minValue := 0
  maxValue := .ofUInt64 1000
  confirmations := .ofList [(.ofUInt64 100, 1), (.ofUInt64 1000, 3)]

def calling : Receipt := ⟨"ca11", 61000, .ofUInt64 2⟩

def registration : Receipt := ⟨"de90", 75000, .ofUInt64 3⟩

def peers : Peers where
  contractAddress := Recommendation.zeroAddress
  outage _ := none
  answer
    | .validateBitcoinAddress _ | .addCollateral _ | .withdrawCollateral => .ok ()
    | .decodeBitcoinAddress _ | .rawTransaction _ | .merkleTree _ => .ok []
    | .deposit _ => .ok ⟨3, (∅ : Std.ExtTreeMap String (List Wei)).insert "" [.ofUInt64 1000000]⟩
    | .estimateGas .. => .ok 21000
    | .gasPrice => .ok (.ofUInt64 1)
    | .balance _ => .ok (.ofUInt64 1000000)
    | .federation => .ok ⟨0, 0, [], "", 0, 0, []⟩
    | .federationAddress => .ok "2N5muMepJizJE1gR7FbHJU6CD18V3BpNF9p"
    | .depositAddress _ => .ok ""
    | .hashQuote _ => .ok hash
    | .callForUser .. => .ok calling
    | .registerPegin .. => .ok registration
    | .blockHeight _ | .requiredConfirmations | .productFeePercentage => .ok 0
    | .minimumDeposit | .collateral _ | .minimumCollateral | .contractBalance _ => .ok 0

def deed (now : Int) (step : Step) : Deed := ⟨step, ⟨fun _ => peers, now, 1⟩, settings, fun _ => false⟩

def request : QuoteRequest where
  destination := "0x0000000000000000000000000000000000000000"
  data := .empty
  value := .ofUInt64 500
  userAddress := "0x0000000000000000000000000000000000000000"
  userBitcoinAddress := ""

def acceptedQuote : List Deed := [deed 0 (.getQuote request), deed 0 (.acceptQuote hash none)]

def txid : Txid := ⟨List.replicate 32 0, rfl⟩

def seenDeposit : List Deed := acceptedQuote ++ [deed 1 (.observeDeposit hash txid)]

lemma keepsUpdates_deed (now : Int) (step : Step) : (deed now step).KeepsUpdates := fun _ _ => rfl

end Sample

end Flyover
