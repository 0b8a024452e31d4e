import Flyover.Proofs.History.Turn

/-! The events that deeds publish. That a quote is accepted is told once, when its settlement is entered. -/

namespace Flyover

open Run Trace

namespace Event

def isAcceptance : Event → Bool
  | accepted .. => true
  | calledForUser .. | registeredPegin .. => false

def isAcceptanceOf (h : String) (e : Event) : Bool := e.isAcceptance && e.settlement.quoteHash = h

end Event

def Trace.Withholds (t t' : Trace) : Prop := ∃ es, t'.events = t.events ++ es ∧ ∀ e ∈ es, e.isAcceptance = false

namespace Trace

variable {t t' : Trace}

instance : Std.Refl Withholds := ⟨fun t => ⟨[], by simp⟩⟩

instance : IsTrans Trace Withholds where
  trans := by
    rintro t t' t'' ⟨es, h, hes⟩ ⟨fs, h', hfs⟩
    refine ⟨es ++ fs, by rw [h', h, List.append_assoc], ?_⟩
    intro e he
    rcases List.mem_append.mp he with he | he
    · exact hes e he
    · exact hfs e he

lemma withholds_of_events_eq (h : t'.events = t.events) : t.Withholds t' := ⟨[], by simp [h]⟩

lemma Inquires.withholds {p : Call → Prop} (h : t.Inquires p t') : t.Withholds t' := withholds_of_events_eq h.events_eq

end Trace

namespace Run.Keeps

variable {α : Type}

lemma withholds {p : Call → Prop} {x : Run α} (hx : x.Keeps (Trace.Inquires p)) : x.Keeps Trace.Withholds :=
  hx.mono fun _ _ h => h.withholds

lemma publish {e : Event} (h : e.isAcceptance = false) : (Run.publish e).Keeps Trace.Withholds :=
  fun _ _ => ⟨[e], rfl, by simpa using h⟩

lemma change (a : Access) (f : Store → Except Error Store) : (Run.change a f).Keeps Trace.Withholds := by
  intro σ t
  rw [resume_change]
  cases (σ.peers t.calls).outage a with
  | some e => exact withholds_of_events_eq rfl
  | none =>
    cases f t.store with
    | error e => exact withholds_of_events_eq rfl
    | ok store => exact withholds_of_events_eq rfl

end Run.Keeps

lemma Run.record_withholds (s : Settlement) {e : Event} (h : e.isAcceptance = false) (error : Option Error) :
    (record s e error).Keeps Trace.Withholds := by
  refine .bind (.publish h) fun _ => ?_
  refine .bind (.attempt (.change _ _)) fun written => ?_
  dsimp only
  split
  · exact .pure _
  · exact .fail _

lemma Quoting.price_withholds (r : QuoteRequest) : (price r).Keeps Trace.Withholds := by
  rw [price_eq]
  refine .bind (draft_inquires r).withholds fun p => ?_
  exact .bind (.change _ _) fun _ => .pure _

lemma Observation.observeDeposit_withholds (hash : String) (txid : Txid) :
    (observeDeposit hash txid).Keeps Trace.Withholds := by
  refine .bind (Keeps.look (p := fun _ => True) trivial).withholds fun found => ?_
  refine .bind (.require _ _) fun settlement => ?_
  exact .bind (.lift _) fun moved => .change _ _

namespace Payout

lemma refuse_withholds (quote : Quote) (settlement : Settlement) (error : Error) :
    (refuse quote settlement error).Keeps Trace.Withholds := by
  refine .bind (.lift _) fun closed => ?_
  refine .bind (.publish rfl) fun _ => ?_
  refine .bind (.attempt (.change _ _)) fun written => ?_
  cases written with
  | ok _ => exact .fail _
  | error _ => exact .fail _

lemma pay_withholds (given : Settlement) : (pay given).Keeps Trace.Withholds := by
  rw [pay_eq, checkDeposit_eq]
  refine .bind (.bind (examine_inquires given).withholds fun f => ?_) fun quote => ?_
  · exact .ite (.bind (refuse_withholds _ _ _) fun _ => .pure _) (.pure _)
  refine .bind (allot_inquires _ _).withholds fun a => ?_
  refine .bind (.attempt (Keeps.inquire (p := fun _ => True) trivial).withholds) fun answer => ?_
  exact .bind (.lift _) fun settled => record_withholds _ rfl _

end Payout

lemma Registration.register_withholds (given : Settlement) : (register given).Keeps Trace.Withholds := by
  rw [register_eq]
  refine .bind (ready_inquires given).withholds fun r => ?_
  refine .bind (.attempt (Keeps.inquire (p := fun _ => True) trivial).withholds) fun answer => ?_
  exact .bind (.lift _) fun settled => record_withholds _ rfl _

namespace Expiry

lemma close_withholds (given : Settlement) : (close given).Keeps Trace.Withholds := by
  refine .ite (.pure _) (.bind (.check _ _) fun _ => ?_)
  refine .bind (Keeps.look (p := fun _ => True) trivial).withholds fun found => ?_
  refine .bind (.require _ _) fun quote => ?_
  refine .bind .now fun now => ?_
  refine .bind (.check _ _) fun _ => ?_
  refine .bind (.lift _) fun closed => ?_
  exact .bind (.change _ _) fun _ => .pure _

lemma sweepOne_withholds (s : Settlement) : (sweepOne s).Keeps Trace.Withholds := by
  refine .bind (isDue_inquires s).withholds fun due => .ite ?_ (.pure _)
  refine .bind (.attempt (.mapError (close_withholds s))) fun closed => ?_
  cases closed with
  | ok _ => exact .pure _
  | error _ => exact .pure _

lemma sweepExpired_withholds : sweepExpired.Keeps Trace.Withholds := by
  refine .bind (.mapError (Keeps.look (p := fun _ => True) trivial).withholds) fun waiting => ?_
  exact .bind (.mapM _ fun s _ => sweepOne_withholds s) fun hashes => .pure _

end Expiry

namespace Deed

variable {d : Deed} {s : Store}

def events (d : Deed) (s : Store) : List Event := (d.trace s).events

lemma withholds (other : ∀ hash signature, d.step ≠ .acceptQuote hash signature) :
    (Trace.start s).Withholds (d.trace s) := by
  cases step : d.step with
  | getQuote request =>
    rw [trace_of_getQuote step]
    exact Quoting.price_withholds request _ _
  | acceptQuote hash signature => exact absurd step (other hash signature)
  | observeDeposit hash txid =>
    rw [trace_of_observeDeposit step]
    exact Observation.observeDeposit_withholds hash txid _ _
  | callForUser given =>
    rw [trace_of_callForUser step]
    exact Payout.pay_withholds given _ _
  | registerPegin given =>
    rw [trace_of_registerPegin step]
    exact Registration.register_withholds given _ _
  | expireQuote given =>
    rw [trace_of_expireQuote step]
    exact Expiry.close_withholds given _ _
  | sweepExpired =>
    rw [trace_of_sweepExpired step]
    exact Expiry.sweepExpired_withholds _ _

lemma countP_events_of_withholds (h : String) (hw : (Trace.start s).Withholds (d.trace s)) :
    (d.events s).countP (Event.isAcceptanceOf h) = 0 := by
  obtain ⟨es, he, hes⟩ := hw
  rw [events, he, Trace.start, List.nil_append, List.countP_eq_zero]
  intro e hm
  simp [Event.isAcceptanceOf, hes e hm]

lemma mem_settlements_after_iff (keyed : s.Keyed) (other : ∀ hash signature, d.step ≠ .acceptQuote hash signature)
    (h : String) : h ∈ (d.after s).settlements ↔ h ∈ s.settlements := by
  cases effect d keyed h with
  | kept after => simp only [Std.ExtTreeMap.mem_iff_isSome_getElem?, after]
  | accepted signature quote t step commits => exact absurd step (other h signature)
  | observed txid t found state after =>
    exact iff_of_true (Store.mem_settlements_of_lookup after) (Store.mem_settlements_of_lookup found)
  | released t stored key state after => exact iff_of_true (Store.mem_settlements_of_lookup after) stored

lemma countP_events (keyed : s.Keyed) (h : String) :
    (if h ∈ s.settlements then 1 else 0) + (d.events s).countP (Event.isAcceptanceOf h) =
      if h ∈ (d.after s).settlements then 1 else 0 := by
  by_cases other : ∀ hash signature, d.step ≠ .acceptQuote hash signature
  · simp only [countP_events_of_withholds h (withholds other), mem_settlements_after_iff keyed other h, Nat.add_zero]
  push Not at other
  obtain ⟨hash, signature, step⟩ := other
  have concluded := Acceptance.accept_concludes hash signature d.surroundings (.start s)
  have trace := trace_of_acceptQuote (s := s) step
  generalize (Acceptance.accept hash signature).resume d.surroundings (.start s) = o at concluded trace
  have idle (inquired : (Trace.start s).Asks (d.trace s)) : (if h ∈ s.settlements then 1 else 0) +
      (d.events s).countP (Event.isAcceptanceOf h) = if h ∈ (d.after s).settlements then 1 else 0 := by
    rw [countP_events_of_withholds h inquired.withholds, after, inquired.store_eq]
    rfl
  cases concluded with
  | halted inquired => exact idle (trace ▸ inquired)
  | known found looked => exact idle (trace ▸ looked.asks)
  | @entered quote account quoteHash x t τ considered fresh within prepares inquired =>
    have key : t.quoteHash = hash := prepares.prepared.quoteHash
    have events : d.events s = [.accepted quote t] := by
      rw [Deed.events, trace]
      exact congrArg (· ++ [Event.accepted quote t]) inquired.events_eq
    have stored : d.after s = s.setSettlement t := by
      rw [after, trace, Acceptance.entering, inquired.store_eq]
      rfl
    rw [events, stored, Store.setSettlement, key, List.countP_singleton]
    have fresh : hash ∉ s.settlements := (s.lookup_eq_none_iff hash).mp fresh
    by_cases hh : hash = h
    · subst hh
      simp [Event.isAcceptanceOf, Event.isAcceptance, Event.settlement, key, fresh]
    · simp [Event.isAcceptanceOf, Event.isAcceptance, Event.settlement, key, hh, Std.ExtTreeMap.mem_insert]

end Deed

def Entry.events (e : Entry) : List Event := e.deed.events e.before

def acceptances (h : String) (es : List Entry) : Nat := (es.flatMap Entry.events).countP (Event.isAcceptanceOf h)

lemma acceptances_eq (ds : List Deed) (h : String) :
    acceptances h (entries .empty ds) = if h ∈ (play .empty ds).settlements then 1 else 0 := by
  induction ds using List.reverseRecOn with
  | nil => simp [acceptances, Store.empty]
  | append_singleton ds d ih =>
    rw [play_concat, ← Deed.countP_events (keyed_play keyed_empty ds), ← ih, acceptances, acceptances, entries_concat,
      List.flatMap_append, List.countP_append, List.flatMap_singleton]
    rfl

end Flyover
