import Flyover.Proofs.Lifecycle
import Flyover.Proofs.LockingCap

/-! The stores that a provider comes to, by deeds and by inquiries that store nothing. -/

namespace Flyover

open Run Trace

/-- The store is come to after those that are past. What a step is given is a copy of a settlement that is stored under its
hash, or was so at some time before. -/
inductive Reached (accounts : List (Signed TrustedAccount)) : List Store → Store → Prop
  | start : Reached accounts [] (trusting accounts)
  | deed {past : List Store} {s : Store} (d : Deed) (reached : Reached accounts past s)
      (copies : ∀ given, d.step.given? = some given →
        ∃ earlier ∈ s :: past, earlier.settlements[given.quoteHash]? = some given) :
      Reached accounts (s :: past) (d.after s)
  | inquiry {past : List Store} {s : Store} (i : Inquiry) (σ : Surroundings) (reached : Reached accounts past s) :
      Reached accounts (s :: past) (i.run.exec σ s).trace.store

lemma Reached.invariant {accounts : List (Signed TrustedAccount)} {P : Store → Prop} (first : P (trusting accounts))
    (kept : ∀ (d : Deed) (s : Store), P s → (∀ given, d.step.given? = some given →
      ∃ earlier, P earlier ∧ earlier.settlements[given.quoteHash]? = some given) → P (d.after s))
    {past : List Store} {s : Store} (reached : Reached accounts past s) : ∀ s' ∈ s :: past, P s' := by
  induction reached with
  | start => simpa using first
  | deed d reached copies ih =>
    refine List.forall_mem_cons.mpr ⟨kept d _ (ih _ List.mem_cons_self) fun given hg => ?_, ih⟩
    obtain ⟨earlier, he, copied⟩ := copies given hg
    exact ⟨earlier, ih earlier he, copied⟩
  | inquiry i σ reached ih =>
    rw [i.store_run]
    exact List.forall_mem_cons.mpr ⟨ih _ List.mem_cons_self, ih⟩

lemma reached_of_givenCopies {ds : List Deed} (copies : GivenCopies ds) :
    ∃ past, Reached [] past (play .empty ds) ∧
      ∀ before after, ds = before ++ after → play .empty before ∈ play .empty ds :: past := by
  induction ds using List.reverseRecOn with
  | nil =>
    refine ⟨[], .start, fun before after h => ?_⟩
    rw [(List.append_eq_nil_iff.mp h.symm).1]
    exact List.mem_cons_self
  | append_singleton ds d ih =>
    obtain ⟨past, reached, earlier⟩ := ih copies.of_append
    refine ⟨play .empty ds :: past, ?_, fun before after h => ?_⟩
    · rw [play_concat]
      refine reached.deed d fun given hg => ?_
      obtain ⟨before, middle, hds, copied⟩ := copies.last given hg
      exact ⟨play .empty before, earlier before middle hds, copied⟩
    · rcases List.eq_nil_or_concat after with rfl | ⟨after, last, rfl⟩
      · rw [List.append_nil] at h
        rw [← h]
        exact List.mem_cons_self
      · rw [List.concat_eq_append, ← List.append_assoc] at h
        exact List.mem_cons_of_mem _ (earlier before after (List.append_inj' h rfl).1)

end Flyover
