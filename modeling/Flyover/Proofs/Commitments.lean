import Flyover.Proofs.History.Events
import Flyover.Proofs.History.Quotes
import Flyover.Proofs.Lifecycle

/-! What a provider has committed itself to lasts: quotes stay as they are, and so do the terms of their acceptance. -/

namespace Flyover

open Run Trace

structure Settlement.Commitment where
  quoteHash : String
  depositAddress : String
  signature : String
  requiredLiquidity : Wei
  owner : Option Address

namespace Settlement

def commitment (t : Settlement) : Commitment :=
  ⟨t.quoteHash, t.depositAddress, t.signature, t.requiredLiquidity, t.owner⟩

lemma Advance.commitment_eq {t t' : Settlement} (h : t.Advance t') : t'.commitment = t.commitment := by
  cases h with
  | observed txid state => rfl
  | lapsed state => rfl
  | refused state => rfl
  | paid answer state => cases answer <;> rfl
  | registered answer state => cases answer <;> rfl

end Settlement

namespace Store

structure Honours (s s' : Store) : Prop where
  quotes : ∀ (h : String) (q : Quote), s.quotes[h]? = some q → s'.quotes[h]? = some q
  settlements : ∀ (h : String) (t : Settlement), s.settlements[h]? = some t → ∃ t' : Settlement,
    s'.settlements[h]? = some t' ∧ t'.commitment = t.commitment

instance : Std.Refl Honours := ⟨fun _ => ⟨fun _ _ h => h, fun _ t h => ⟨t, h, rfl⟩⟩⟩

instance : IsTrans Store Honours where
  trans _ _ _ h h' := by
    refine ⟨fun k q hq => h'.quotes k q (h.quotes k q hq), fun k t ht => ?_⟩
    obtain ⟨t', ht', he⟩ := h.settlements k t ht
    obtain ⟨t'', ht'', he'⟩ := h'.settlements k t' ht'
    exact ⟨t'', ht'', he'.trans he⟩

end Store

/-- No two quotes have been told to have the same hash. -/
def HashedApart (ds : List Deed) : Prop :=
  ∀ (q q' : Quote) (h : String), Hashed ds q h → Hashed ds q' h → q = q'

lemma Hashed.mono {ds ds' : List Deed} {q : Quote} {h : String} (hashed : Hashed ds q h) (hs : ds ⊆ ds') :
    Hashed ds' q h := by
  obtain ⟨d, hd, hashes⟩ := hashed
  exact ⟨d, hs hd, hashes⟩

lemma HashedApart.of_append {ds ds' : List Deed} (apart : HashedApart (ds ++ ds')) : HashedApart ds := by
  intro q q' h hq hq'
  have hs : ds ⊆ ds ++ ds' := List.subset_append_left ds ds'
  exact apart q q' h (hq.mono hs) (hq'.mono hs)

lemma hashedApart_of_injective {ds : List Deed} {f : Quote → String} (injective : Function.Injective f)
    (told : ∀ d ∈ ds, ∀ q h, d.Hashes q h → h = f q) : HashedApart ds := by
  rintro q q' h ⟨d, hd, hq⟩ ⟨d', hd', hq'⟩
  exact injective ((told d hd q h hq).symm.trans (told d' hd' q' h hq'))

lemma honours_concat {ds : List Deed} {d : Deed} (copies : GivenCopies (ds ++ [d])) (apart : HashedApart (ds ++ [d]))
    (earlier : ∀ before middle, ds = before ++ middle → (play .empty before).Honours (play .empty ds)) :
    (play .empty ds).Honours (play .empty (ds ++ [d])) := by
  have keyed := keyed_play keyed_empty ds
  rw [play_concat]
  constructor
  · intro h q hq
    cases Deed.quotes keyed (d := d) h with
    | kept after => exact after.trans hq
    | stored quote total demanded hashes after =>
      -- the quote that was there has the same hash, so it is the one that is stored again
      have hashed : Hashed (ds ++ [d]) q h := (hashed_play ds hq).mono (List.subset_append_left ds [d])
      rw [apart q quote h hashed ⟨d, by simp, hashes⟩]
      exact after
  · intro h t ht
    obtain ⟨t', after, rfl | advance | ⟨given, state, step, unread, rfl, move, rfl⟩⟩ := Deed.stored_after keyed ht
    · exact ⟨t', after, rfl⟩
    · exact ⟨t', after, advance.commitment_eq⟩
    · obtain ⟨before, middle, hds, copied⟩ := copies.last given (Step.given?_of_closing? step)
      obtain ⟨u, hu, he⟩ := (earlier before middle hds).settlements _ given copied
      cases hu.symm.trans ht
      exact ⟨_, after, he.symm⟩

lemma honours_play (ds : List Deed) (copies : GivenCopies ds) (apart : HashedApart ds) (before middle : List Deed)
    (h : ds = before ++ middle) : (play .empty before).Honours (play .empty ds) := by
  induction ds using List.reverseRecOn generalizing before middle with
  | nil =>
    obtain ⟨rfl, rfl⟩ := List.append_eq_nil_iff.mp h.symm
    exact refl_of _ _
  | append_singleton ds d ih =>
    have ih := ih copies.of_append apart.of_append
    rcases List.eq_nil_or_concat middle with rfl | ⟨middle, last, rfl⟩
    · rw [h, List.append_nil]
      exact refl_of _ _
    · rw [List.concat_eq_append, ← List.append_assoc] at h
      obtain ⟨hds, -⟩ := List.append_inj' h rfl
      exact trans_of _ (ih before middle hds) (honours_concat copies apart ih)

def Entry.Grants (e : Entry) (h : String) (a : Acceptance) : Prop :=
  ∃ signature, e.deed.step = .acceptQuote h signature ∧
    ((acceptQuote h signature).exec e.deed.surroundings e.before).result = .ok a

lemma Entry.Grants.stored {e : Entry} {h : String} {a : Acceptance} (grants : e.Grants h a) :
    ∃ t : Settlement, e.after.settlements[h]? = some t ∧ a = ⟨t.signature, t.depositAddress⟩ := by
  obtain ⟨signature, step, granted⟩ := grants
  have concluded := Acceptance.accept_concludes h signature e.deed.surroundings (.start e.before)
  have trace := Deed.trace_of_acceptQuote (s := e.before) step
  rw [exec, acceptQuote, resume_mapError] at granted
  rw [after, Deed.after, trace]
  generalize (Acceptance.accept h signature).resume e.deed.surroundings (.start e.before) = o at concluded granted
  cases concluded with
  | @halted halt t' inquired => cases halt <;> cases granted
  | @known t t' found looked =>
    cases granted
    exact ⟨t, by rw [looked.store_eq]; exact found, rfl⟩
  | @entered quote account quoteHash x t t' considered fresh within prepares inquired =>
    cases granted
    refine ⟨t, ?_, rfl⟩
    rw [← prepares.prepared.quoteHash]
    exact Store.lookup_setSettlement_self t'.store t

lemma Entry.Grants.stored_after_all {ds : List Deed} (copies : GivenCopies ds) (apart : HashedApart ds) {e : Entry}
    (he : e ∈ entries .empty ds) {h : String} {a : Acceptance} (grants : e.Grants h a) :
    ∃ t : Settlement, (play .empty ds).settlements[h]? = some t ∧ a = ⟨t.signature, t.depositAddress⟩ := by
  obtain ⟨before, after, hds, hb⟩ := exists_of_mem_entries _ _ he
  obtain ⟨t, ht, rfl⟩ := grants.stored
  have hds : ds = (before ++ [e.deed]) ++ after := by simp [hds]
  have honours := honours_play ds copies apart _ _ hds
  rw [play_concat, ← hb] at honours
  obtain ⟨t', ht', he⟩ := honours.settlements h t ht
  refine ⟨t', ht', ?_⟩
  rw [Settlement.commitment, Settlement.commitment, Settlement.Commitment.mk.injEq] at he
  rw [he.2.1, he.2.2.1]

/-- What is stored lasts: the quotes as they are, and of the settlements what was fixed when they were accepted. So each
acceptance of a quote returns the same, and that it is accepted is told at most once. -/
theorem commitments_last (ds : List Deed) (copies : GivenCopies ds) (apart : HashedApart ds) :
    (∀ before middle after, ds = before ++ middle ++ after →
        (play .empty before).Honours (play .empty (before ++ middle))) ∧
      (∀ e ∈ entries .empty ds, ∀ e' ∈ entries .empty ds, ∀ h a a', e.Grants h a → e'.Grants h a' → a = a') ∧
        ∀ h, acceptances h (entries .empty ds) ≤ 1 := by
  refine ⟨?_, ?_, ?_⟩
  · rintro before middle after rfl
    exact honours_play _ copies.of_append apart.of_append before middle rfl
  · intro e he e' he' h a a' grants grants'
    obtain ⟨t, ht, rfl⟩ := grants.stored_after_all copies apart he
    obtain ⟨t', ht', rfl⟩ := grants'.stored_after_all copies apart he'
    cases ht.symm.trans ht'
    rfl
  · intro h
    rw [acceptances_eq]
    split
    · exact le_rfl
    · exact Nat.zero_le 1

namespace Sample

def onlyQuote : Quote :=
  let terms : Quoting.Terms := {
    destination := Recommendation.zeroAddress
    user := Recommendation.zeroAddress
    callGas := 21000
    gasPrice := .ofUInt64 1
    productFee := 0
    productGas := 0
    federationAddress := "2N5muMepJizJE1gR7FbHJU6CD18V3BpNF9p"
    gasLimit := 21000
    gasFee := .ofUInt64 21000
    callFee := 0
    agreedAt := 0
    bridgeContract := Recommendation.zeroAddress
    nonce := 1 }
  terms.quote request settings

def strictPeers : Peers := { peers with
  answer
    | .hashQuote q => if q = onlyQuote then .ok hash else .error .quoteNotFound
    | q => peers.answer q }

def strictDeed (now : Int) (step : Step) : Deed :=
  ⟨step, ⟨fun _ => strictPeers, now, 1⟩, settings, fun _ => false⟩

def strictAcceptance : List Deed := [strictDeed 0 (.getQuote request), strictDeed 0 (.acceptQuote hash none)]

def strictCopy : Settlement := ((play .empty strictAcceptance).settlements[hash]?).get (by decide +kernel)

lemma strictCopy_stored : (play .empty strictAcceptance).settlements[hash]? = some strictCopy := (Option.some_get _).symm

lemma quoteHash_strictCopy : strictCopy.quoteHash = hash := keyed_play keyed_empty strictAcceptance _ _ strictCopy_stored

def acceptedAgain : List Deed := strictAcceptance ++
  [strictDeed 10000 (.expireQuote strictCopy), strictDeed 0 (.getQuote request), strictDeed 1 (.acceptQuote hash none)]

lemma givenCopies_acceptedAgain : GivenCopies acceptedAgain := by
  have accepted : GivenCopies strictAcceptance := GivenCopies.concat_of_none (.concat_of_none EachAfter.nil rfl) rfl
  have expired : GivenCopies (strictAcceptance ++ [strictDeed 10000 (.expireQuote strictCopy)]) := by
    apply EachAfter.concat accepted
    intro given hg
    have he : (strictDeed 10000 (.expireQuote strictCopy)).step.given? = some strictCopy := rfl
    rw [he, Option.some.injEq] at hg
    subst hg
    exact ⟨strictAcceptance, [], (List.append_nil _).symm, quoteHash_strictCopy ▸ strictCopy_stored⟩
  exact (expired.concat_of_none rfl).concat_of_none rfl

lemma hashedApart_acceptedAgain : HashedApart acceptedAgain := by
  have told {q : Quote} {h : String} (hashed : Hashed acceptedAgain q h) : q = onlyQuote := by
    obtain ⟨d, hd, calls, answered⟩ := hashed
    have peers : d.surroundings.peers calls = strictPeers := by
      simp only [acceptedAgain, strictAcceptance, List.cons_append, List.nil_append, List.mem_cons,
        List.not_mem_nil, or_false] at hd
      rcases hd with rfl | rfl | rfl | rfl | rfl <;> rfl
    have asked : strictPeers.answer (.hashQuote q) = if q = onlyQuote then .ok hash else .error .quoteNotFound := rfl
    by_contra hn
    rw [peers, asked, if_neg hn] at answered
    cases answered
  intro q q' h hq hq'
  rw [told hq, told hq']

end Sample

theorem acceptedAgain_returns_the_same :
    (∀ before middle after, Sample.acceptedAgain = before ++ middle ++ after →
        (play .empty before).Honours (play .empty (before ++ middle))) ∧
      (∀ e ∈ entries .empty Sample.acceptedAgain, ∀ e' ∈ entries .empty Sample.acceptedAgain, ∀ h a a',
        e.Grants h a → e'.Grants h a' → a = a') ∧ ∀ h, acceptances h (entries .empty Sample.acceptedAgain) ≤ 1 :=
  commitments_last Sample.acceptedAgain Sample.givenCopies_acceptedAgain Sample.hashedApart_acceptedAgain

end Flyover
