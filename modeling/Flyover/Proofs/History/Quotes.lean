import Flyover.Proofs.History.Turn

/-! What a deed does to the quotes. Only quoting stores one; a quote that is stored has a total, and the contract has told
its hash. -/

namespace Flyover

open Run Trace

namespace Store

structure Quoted (s : Store) : Prop where
  total : ∀ (h : String) (q : Quote), s.quotes[h]? = some q → ∃ total, q.total = .ok total
  quote : ∀ (h : String) (t : Settlement), s.settlements[h]? = some t → ∃ q, s.quotes[h]? = some q

lemma quoted_empty : empty.Quoted where
  total h q hq := by simp [empty] at hq
  quote h t ht := by simp [empty] at ht

end Store

namespace Deed

variable {d : Deed} {s : Store}

lemma alike_after (keyed : s.Keyed) (other : ∀ request, d.step ≠ .getQuote request) : s.Alike (d.after s) := by
  rw [after]
  cases step : d.step with
  | getQuote request => exact absurd step (other request)
  | acceptQuote hash signature =>
    rw [trace_of_acceptQuote step]
    exact (Acceptance.accept_ends hash signature d.surroundings (.start s)).alike
  | observeDeposit hash txid =>
    rw [trace_of_observeDeposit step]
    exact (Observation.observeDeposit_ends hash txid d.surroundings (.start s)).alike
  | callForUser given =>
    rw [trace_of_callForUser step]
    exact (Payout.pay_ends given d.surroundings (.start s)).alike
  | registerPegin given =>
    rw [trace_of_registerPegin step]
    exact (Registration.register_ends given d.surroundings (.start s)).alike
  | expireQuote given =>
    rw [trace_of_expireQuote step]
    exact (Expiry.close_ends given d.surroundings (.start s)).alike
  | sweepExpired =>
    rw [trace_of_sweepExpired step]
    exact (Expiry.sweepExpired_sweeps d.surroundings (.start s) keyed).alike

lemma accounts_after (keyed : s.Keyed) : (d.after s).accounts = s.accounts := by
  by_cases other : ∀ request, d.step ≠ .getQuote request
  · exact (alike_after keyed other).accounts
  · push Not at other
    obtain ⟨request, step⟩ := other
    rw [after, trace_of_getQuote step]
    exact (Quoting.price_spares request _ _).accounts

def Hashes (d : Deed) (q : Quote) (h : String) : Prop :=
  ∃ calls, (d.surroundings.peers calls).answer (.hashQuote q) = .ok h

inductive Quotes (h : String) (d : Deed) (s : Store) : Prop
  | kept (after : (d.after s).quotes[h]? = s.quotes[h]?)
  | stored (quote : Quote) (total : Wei) (demanded : quote.total = .ok total) (hashes : d.Hashes quote h)
      (after : (d.after s).quotes[h]? = some quote)

lemma quotes (keyed : s.Keyed) (h : String) : Quotes h d s := by
  by_cases other : ∀ request, d.step ≠ .getQuote request
  · exact .kept (by rw [(alike_after keyed other).quotes])
  push Not at other
  obtain ⟨request, step⟩ := other
  have concluded := Quoting.price_concludes request d.surroundings (.start s)
  have trace := trace_of_getQuote (s := s) step
  generalize (Quoting.price request).resume d.surroundings (.start s) = o at concluded trace
  cases concluded with
  | halted inquired => exact .kept (by rw [after, trace, inquired.store_eq]; rfl)
  | @priced p x l total t drafts inquired =>
    have stored : (d.after s).quotes[h]? = if p.hash = h then some p.quote else s.quotes[h]? := by
      rw [after, trace, Quoting.putting, Store.putQuote, inquired.store_eq]
      simp only [Std.ExtTreeMap.getElem?_insert, Std.compare_eq_iff_eq]
      rfl
    by_cases hash : p.hash = h
    · obtain ⟨minimum, -, replies⟩ := drafts.replies
      have told : ⟨.hashQuote p.quote, .ok p.hash⟩ ∈ t.replies d.surroundings := by simp [replies]
      obtain ⟨calls, answered⟩ := exists_answer_of_mem_replies _ _ _ told
      exact .stored p.quote total drafts.total ⟨calls, hash ▸ answered.symm⟩ (by rw [stored, if_pos hash])
    · exact .kept (by rw [stored, if_neg hash])

lemma exists_quote_after (keyed : s.Keyed) {h : String} {q : Quote} (hq : s.quotes[h]? = some q) :
    ∃ q, (d.after s).quotes[h]? = some q := by
  cases quotes keyed (d := d) h with
  | kept after => exact ⟨q, after.trans hq⟩
  | stored quote total demanded hashes after => exact ⟨quote, after⟩

lemma quoted_after (keyed : s.Keyed) (quoted : s.Quoted) : (d.after s).Quoted where
  total h q hq := by
    cases quotes keyed (d := d) h with
    | kept after => exact quoted.total h q (after ▸ hq)
    | stored quote total demanded hashes after =>
      rw [after] at hq
      cases hq
      exact ⟨total, demanded⟩
  quote h t ht := by
    have found : ∃ q, s.quotes[h]? = some q := by
      cases effect d keyed h with
      | kept after => exact quoted.quote h t (after ▸ ht)
      | accepted signature quote u step commits => exact ⟨quote, commits.quoted⟩
      | observed txid u found state after => exact quoted.quote h u found
      | released u stored key state after =>
        obtain ⟨v, hv⟩ := Option.isSome_iff_exists.mp (Std.ExtTreeMap.mem_iff_isSome_getElem?.mp stored)
        exact quoted.quote h v hv
    obtain ⟨q, hq⟩ := found
    exact exists_quote_after keyed hq

end Deed

lemma quoted_play {s : Store} (keyed : s.Keyed) (quoted : s.Quoted) (ds : List Deed) : (play s ds).Quoted :=
  invariant_play (fun _ _ => Deed.quoted_after) keyed quoted ds

def Hashed (ds : List Deed) (q : Quote) (h : String) : Prop := ∃ d ∈ ds, d.Hashes q h

lemma hashed_play (ds : List Deed) {h : String} {q : Quote} (hq : (play .empty ds).quotes[h]? = some q) :
    Hashed ds q h := by
  induction ds using List.reverseRecOn with
  | nil => simp [Store.empty] at hq
  | append_singleton ds d ih =>
    rw [play_concat] at hq
    cases Deed.quotes (keyed_play keyed_empty ds) (d := d) h with
    | kept after =>
      obtain ⟨d', hd', hashes⟩ := ih (after ▸ hq)
      exact ⟨d', List.mem_append_left _ hd', hashes⟩
    | stored quote total demanded hashes after =>
      rw [after] at hq
      cases hq
      exact ⟨d, by simp, hashes⟩

end Flyover
