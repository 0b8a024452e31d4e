import Flyover.Proofs.Endings.Update
import Mathlib.Data.String.Basic

/-! What a store answers when it is asked for all that satisfies a condition: just that, each once, in the order of the
hashes. In which order it was written makes no difference. -/

namespace Flyover

def SortedBy {α : Type} (key : α → String) (l : List α) : Prop := l.Pairwise fun a b => key a < key b

namespace SortedBy

variable {α : Type} {key : α → String} {l l' : List α}

lemma nodup_map (h : SortedBy key l) : (l.map key).Nodup := List.pairwise_map.mpr (h.imp ne_of_lt)

lemma nodup (h : SortedBy key l) : l.Nodup := .of_map key h.nodup_map

lemma perm_iff (h : SortedBy key l) (distinct : l'.Nodup) : l'.Perm l ↔ ∀ a, a ∈ l' ↔ a ∈ l :=
  List.perm_ext_iff_of_nodup distinct h.nodup

lemma eq_of_perm (h : SortedBy key l) (sorted : l'.Pairwise fun a b => key a ≤ key b) (perm : l'.Perm l) : l' = l := by
  refine List.Perm.eq_of_pairwise (fun a b ha hb hab hba => ?_) sorted (h.imp le_of_lt) perm
  exact List.inj_on_of_nodup_map h.nodup_map (perm.mem_iff.mp ha) hb (le_antisymm hab hba)

lemma eq_of_mem_iff (h : SortedBy key l) (h' : SortedBy key l') (mem : ∀ a, a ∈ l' ↔ a ∈ l) : l' = l :=
  h.eq_of_perm (h'.imp le_of_lt) ((h.perm_iff h'.nodup).mpr mem)

lemma dedup_mergeSort_eq [DecidableEq α] (h : SortedBy key l) (mem : ∀ a, a ∈ l' ↔ a ∈ l) :
    (l'.mergeSort fun a b => key a ≤ key b).dedup = l := by
  refine h.eq_of_perm (.sublist (List.dedup_sublist _) ?_) ((h.perm_iff (List.nodup_dedup _)).mpr fun a => ?_)
  · refine (List.pairwise_mergeSort ?_ ?_ l').imp of_decide_eq_true
    · intro a b c hab hbc
      exact decide_eq_true ((of_decide_eq_true hab).trans (of_decide_eq_true hbc))
    · intro a b
      rcases le_total (key a) (key b) with hab | hba
      · rw [decide_eq_true hab, Bool.true_or]
      · rw [decide_eq_true hba, Bool.or_true]
  · rw [List.mem_dedup, List.mem_mergeSort, mem]

end SortedBy

def Quote.Within (quote : Quote) (start stop : Instant) : Prop :=
  start.seconds ≤ quote.agreedAt.toNat ∧ (quote.agreedAt.toNat : Int) ≤ stop.seconds

def Quote.AgreedIn (quote : Quote) (start stop : Instant) : Prop :=
  start.nanoseconds ≤ quote.agreedAt.toNat * 1000000000 ∧ (quote.agreedAt.toNat * 1000000000 : Int) ≤ stop.nanoseconds

def Instant.wholeSecond (t : Instant) : Instant := .ofSeconds t.seconds 0

lemma Quote.within_iff {quote : Quote} {start stop : Instant} :
    quote.Within start stop ↔ quote.AgreedIn start.wholeSecond stop := by
  simp only [Within, AgreedIn, Instant.wholeSecond, Instant.ofSeconds, Instant.seconds]
  omega

lemma sortedBy_toList {β : Type} (m : Std.ExtTreeMap String β) : SortedBy Prod.fst m.toList :=
  m.ordered_keys_toList.imp compareOfLessAndEq_eq_lt.mp

lemma filter_toList_eq {β : Type} (m : Std.ExtTreeMap String β) (k : String) :
    (m.toList.filter fun e => e.1 = k) = (m[k]?.map fun b => (k, b)).toList := by
  have sorted : SortedBy Prod.fst (m[k]?.map fun b => (k, b)).toList := by
    cases m[k]? <;> simp [SortedBy]
  refine sorted.eq_of_mem_iff (List.Pairwise.filter _ (sortedBy_toList m)) fun e => ?_
  rw [List.mem_filter, decide_eq_true_eq, Std.ExtTreeMap.mem_toList_iff_getElem?_eq_some, Option.mem_toList,
    Option.map_eq_some_iff]
  constructor
  · rintro ⟨stored, rfl⟩
    exact ⟨e.2, stored, rfl⟩
  · rintro ⟨b, stored, rfl⟩
    exact ⟨stored, rfl⟩

namespace Store

variable {s : Store} {start stop : Instant} {hash : String} {quote : Quote}

lemma sortedBy_settlementsWhere (keyed : s.Keyed) (condition : Settlement → Bool) :
    SortedBy Settlement.quoteHash (s.settlementsWhere condition) := by
  refine (List.pairwise_map.mpr ?_).filter condition
  refine (sortedBy_toList s.settlements).imp_of_mem fun {e f} he hf apart => ?_
  rw [keyed _ _ (Std.ExtTreeMap.mem_toList_iff_getElem?_eq_some.mp he),
    keyed _ _ (Std.ExtTreeMap.mem_toList_iff_getElem?_eq_some.mp hf)]
  exact apart

lemma mem_settlementsWhere_iff (keyed : s.Keyed) {condition : Settlement → Bool} {t : Settlement} :
    t ∈ s.settlementsWhere condition ↔ s.settlements[t.quoteHash]? = some t ∧ condition t := by
  rw [mem_settlementsWhere]
  refine and_congr_left fun _ => ⟨fun ⟨hash, stored⟩ => ?_, fun stored => ⟨_, stored⟩⟩
  rwa [keyed hash t stored]

lemma mem_settlementsIn_iff (keyed : s.Keyed) {states : List Settlement.State} {t : Settlement} :
    t ∈ s.settlementsIn states ↔ s.settlements[t.quoteHash]? = some t ∧ t.state ∈ states := by
  rw [settlementsIn, mem_settlementsWhere_iff keyed, List.contains_iff_mem]

lemma mem_settlementsOf_iff (keyed : s.Keyed) {owner : Address} {states : List Settlement.State} {t : Settlement} :
    t ∈ s.settlementsOf owner states ↔
      s.settlements[t.quoteHash]? = some t ∧ t.owner = some owner ∧ t.state ∈ states := by
  rw [settlementsOf, mem_settlementsWhere_iff keyed, Bool.and_eq_true, decide_eq_true_eq, List.contains_iff_mem]

lemma lookup_foldl_insert (l : List (String × Quote)) (stored : ∀ e ∈ l, s.quotes[e.1]? = some e.2)
    (t : Std.ExtTreeMap String Quote) : (l.foldl (fun t e => t.insert e.1 e.2) t)[hash]? =
      if hash ∈ l.map Prod.fst then s.quotes[hash]? else t[hash]? := by
  induction l generalizing t with
  | nil => simp
  | cons e l ih =>
    rw [List.foldl_cons, ih fun e he => stored e (List.mem_cons_of_mem _ he)]
    simp only [Std.ExtTreeMap.getElem?_insert, Std.compare_eq_iff_eq, List.map_cons, List.mem_cons]
    have := stored e List.mem_cons_self
    grind

lemma mem_toList_foldl_insert {l : List (String × Quote)} (stored : ∀ e ∈ l, s.quotes[e.1]? = some e.2) :
    (hash, quote) ∈ (l.foldl (fun t e => t.insert e.1 e.2) (∅ : Std.ExtTreeMap String Quote)).toList ↔
      (hash, quote) ∈ l := by
  rw [Std.ExtTreeMap.mem_toList_iff_getElem?_eq_some, lookup_foldl_insert l stored, Std.ExtTreeMap.getElem?_empty]
  constructor
  · intro found
    split at found
    · rename_i listed
      obtain ⟨⟨hash, q⟩, mem, rfl⟩ := List.mem_map.mp listed
      cases (stored _ mem).symm.trans found
      exact mem
    · cases found
  · intro mem
    rw [if_pos (List.mem_map_of_mem mem), stored _ mem]

lemma mem_quotesWithin {hashes : List String} : (hash, quote) ∈ s.quotesWithin hashes start stop ↔
    hash ∈ hashes ∧ s.quotes[hash]? = some quote ∧ quote.Within start stop := by
  have mem (e : String × Quote) : (e ∈ hashes.filterMap fun h => do
      let q ← s.quotes[h]?
      guard (start.seconds ≤ q.agreedAt.toNat ∧ (q.agreedAt.toNat : Int) ≤ stop.seconds)
      return (h, q)) ↔ e.1 ∈ hashes ∧ s.quotes[e.1]? = some e.2 ∧ e.2.Within start stop := by
    simp only [List.mem_filterMap, Option.bind_eq_bind, Option.bind_eq_some_iff, Option.guard_eq_some', pure,
      Option.some.injEq, Quote.Within]
    grind
  rw [quotesWithin, mem_toList_foldl_insert fun e he => ((mem e).mp he).2.1]
  exact mem (hash, quote)

lemma sortedBy_quotesWithin (s : Store) (hashes : List String) (start stop : Instant) :
    SortedBy Prod.fst (s.quotesWithin hashes start stop) :=
  sortedBy_toList _

end Store

end Flyover
