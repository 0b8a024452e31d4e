import Flyover.ConfirmationTable
import Mathlib.Tactic

/-! The confirmations for an amount are those of the threshold nearest to it from above, or of the largest threshold. -/

namespace Flyover

section entries

open Std.DTreeMap.Internal

variable {α β : Type}

lemma getLast?_toListModel (t : Impl α fun _ => β) : t.toListModel.getLast? = t.maxEntry? := by
  induction t using Impl.maxEntry?.induct with
  | case1 => simp [Impl.maxEntry?, Impl.toListModel]
  | case2 => simp [Impl.maxEntry?, Impl.toListModel]
  | case3 _ _ _ _ _ _ _ _ _ ih =>
    rw [Impl.maxEntry?, ← ih]
    simp [Impl.toListModel, List.getLast?_cons]

variable [Ord α] [Std.TransOrd α] (m : Std.ExtTreeMap α β)

lemma getEntryGE?_eq_find? (k : α) : m.getEntryGE? k = m.toList.find? fun e => (compare e.1 k).isGE := by
  -- a map is a class of balanced trees, and the search goes down one of them
  obtain ⟨⟨q⟩⟩ := m
  induction q using Quotient.inductionOn with
  | h t =>
    change Impl.Const.getEntryGE? k t.inner = (Impl.Const.toList t.inner).find? _
    rw [Impl.Const.getEntryGE?_eq_map, Impl.getEntryGE?_eq_find? t.wf.ordered, Impl.Const.toList_eq_toListModel_map,
      List.find?_map]
    rfl

lemma maxEntry?_eq_getLast? : m.maxEntry? = m.toList.getLast? := by
  obtain ⟨⟨q⟩⟩ := m
  induction q using Quotient.inductionOn with
  | h t =>
    change Impl.Const.maxEntry? t.inner = (Impl.Const.toList t.inner).getLast?
    rw [Impl.Const.maxEntry?_eq_maxEntry?, ← getLast?_toListModel, Impl.Const.toList_eq_toListModel_map, List.getLast?_map]

lemma values_eq_map_toList : m.values = m.toList.map Prod.snd := by
  obtain ⟨⟨q⟩⟩ := m
  induction q using Quotient.inductionOn with
  | h t =>
    change Impl.values t.inner = (Impl.Const.toList t.inner).map _
    rw [Impl.values_eq_map_snd, Impl.Const.toList_eq_toListModel_map, List.map_map]
    rfl

end entries

instance lawfulOrderMax_uint16 : Std.LawfulOrderMax UInt16 := by
  have eq (a b : UInt16) : max a b = if a ≤ b then b else a := rfl
  refine .of_max_le_iff (fun a b c => ?_) fun a b => ?_
  · rw [eq]
    split <;> simp only [UInt16.le_iff_toNat_le] at * <;> omega
  · rw [eq]
    split <;> simp

namespace ConfirmationTable

variable {entries : List (Wei × UInt16)} {e : Wei × UInt16} {v w t : Wei} {n : UInt16}

/-- Of the entries for the threshold the last one has these confirmations. -/
def Counts (entries : List (Wei × UInt16)) (t : Wei) (n : UInt16) : Prop :=
  ∃ before after, entries = before ++ (t, n) :: after ∧ ∀ e ∈ after, e.1 ≠ t

lemma counts_concat : Counts (entries ++ [e]) t n ↔ if e.1 = t then e.2 = n else Counts entries t n := by
  constructor
  · rintro ⟨before, after, split, last⟩
    rcases after.eq_nil_or_concat with rfl | ⟨after, e', rfl⟩
    · obtain ⟨rfl, same⟩ := List.append_inj' split rfl
      cases List.singleton_inj.mp same
      simp
    · rw [List.concat_eq_append, ← List.cons_append, ← List.append_assoc] at split
      obtain ⟨rfl, same⟩ := List.append_inj' split rfl
      cases List.singleton_inj.mp same
      rw [if_neg (last e (by simp))]
      exact ⟨before, after, rfl, fun e' he' => last e' (by simp [he'])⟩
  · intro h
    split at h
    · rename_i same
      subst same h
      exact ⟨entries, [], rfl, nofun⟩
    · rename_i other
      obtain ⟨before, after, rfl, last⟩ := h
      refine ⟨before, after ++ [e], by simp, fun e' he' => ?_⟩
      rcases List.mem_append.mp he' with he' | he'
      · exact last e' he'
      · rwa [List.mem_singleton.mp he']

lemma counts_iff_getElem? : Counts entries t n ↔ (ofList entries).byThreshold[t]? = some n := by
  induction entries using List.reverseRecOn with
  | nil => simp [ofList, Counts]
  | append_singleton entries e ih =>
    rw [counts_concat, ih, ofList, ofList, List.foldl_append, List.foldl_cons, List.foldl_nil,
      Std.ExtTreeMap.getElem?_insert]
    simp only [Std.compare_eq_iff_eq]
    split <;> simp

lemma exists_counts (h : e ∈ entries) : ∃ n, Counts entries e.1 n := by
  induction entries using List.reverseRecOn with
  | nil => cases h
  | append_singleton entries last ih =>
    simp only [counts_concat]
    split
    · exact ⟨_, rfl⟩
    · rename_i other
      rcases List.mem_append.mp h with h | h
      · exact ih h
      · exact absurd (congrArg Prod.fst (List.mem_singleton.mp h)).symm other

lemma counts_iff_mem_toList : Counts entries t n ↔ (t, n) ∈ (ofList entries).toList :=
  counts_iff_getElem?.trans Std.ExtTreeMap.mem_toList_iff_getElem?_eq_some.symm

lemma ofList_toList (t : ConfirmationTable) : ofList t.toList = t := by
  obtain ⟨entries⟩ := t
  rw [ofList, toList, ← Std.ExtTreeMap.ofList_eq_foldl]
  congr 1
  refine Std.ExtTreeMap.ext_getElem? fun threshold => ?_
  cases h : entries[threshold]? with
  | some n =>
    have mem := Std.ExtTreeMap.mem_toList_iff_getElem?_eq_some.mpr h
    exact Std.ExtTreeMap.getElem?_ofList_of_mem Std.ReflCmp.compare_self Std.ExtTreeMap.distinct_keys_toList mem
  | none =>
    refine Std.ExtTreeMap.getElem?_ofList_of_contains_eq_false ?_
    rw [Std.ExtTreeMap.map_fst_toList_eq_keys]
    simpa using h

lemma sorted_toList (t : ConfirmationTable) : t.toList.Pairwise fun a b => a.1 < b.1 :=
  t.byThreshold.ordered_keys_toList.imp Nat.compare_eq_lt.mp

/-- The threshold is the nearest to the amount from above, or the largest if all of them are below. -/
def Nearest (entries : List (Wei × UInt16)) (v t : Wei) : Prop :=
  v ≤ t ∧ (∀ e ∈ entries, v ≤ e.1 → t ≤ e.1) ∨ ∀ e ∈ entries, e.1 < v ∧ e.1 ≤ t

structure Decides (entries : List (Wei × UInt16)) (v t : Wei) (n : UInt16) : Prop where
  counts : Counts entries t n
  nearest : Nearest entries v t

def Rising (entries : List (Wei × UInt16)) : Prop :=
  ∀ t n t' n', Counts entries t n → Counts entries t' n' → t ≤ t' → n ≤ n'

lemma Counts.mem (h : Counts entries t n) : (t, n) ∈ entries := by
  obtain ⟨before, after, rfl, -⟩ := h
  simp

lemma Counts.unique {n' : UInt16} (h : Counts entries t n) (h' : Counts entries t n') : n = n' := by
  rw [counts_iff_getElem?] at h h'
  exact Option.some.inj (h.symm.trans h')

lemma Decides.mono {t' : Wei} {n' : UInt16} (h : Decides entries v t n) (h' : Decides entries w t' n') (le : v ≤ w) :
    t ≤ t' := by
  have own := h.counts.mem
  have own' := h'.counts.mem
  rcases h.nearest with ⟨above, least⟩ | beyond
  · rcases h'.nearest with ⟨above', -⟩ | beyond'
    · exact least _ own' (Nat.le_trans le above')
    · exact (beyond' _ own).2
  · rcases h'.nearest with ⟨above', -⟩ | beyond'
    · exact absurd (Nat.le_trans le above') (Nat.not_le.mpr (beyond _ own').1)
    · exact (beyond' _ own).2

lemma Decides.unique {t' : Wei} {n' : UInt16} (h : Decides entries v t n) (h' : Decides entries v t' n') : n = n' := by
  have same : t = t' := Wei.ext_toNat (Nat.le_antisymm (h.mono h' (Nat.le_refl _)) (h'.mono h (Nat.le_refl _)))
  exact h.counts.unique (same ▸ h'.counts)

lemma decides_of_mem_toList (mem : e ∈ (ofList entries).toList) (nearest : Nearest (ofList entries).toList v e.1) :
    Decides entries v e.1 e.2 := by
  refine ⟨counts_iff_mem_toList.mpr mem, ?_⟩
  have listed (e : Wei × UInt16) (he : e ∈ entries) : ∃ n, (e.1, n) ∈ (ofList entries).toList := by
    simpa only [counts_iff_mem_toList] using exists_counts he
  rcases nearest with ⟨above, least⟩ | beyond
  · refine .inl ⟨above, fun e' he' reached => ?_⟩
    obtain ⟨n', mem'⟩ := listed e' he'
    exact least (e'.1, n') mem' reached
  · refine .inr fun e' he' => ?_
    obtain ⟨n', mem'⟩ := listed e' he'
    exact beyond (e'.1, n') mem'

section sorted

variable {l : List (Wei × UInt16)} (sorted : l.Pairwise fun a b => a.1 < b.1)

include sorted

lemma nearest_of_find? (found : (l.find? fun e => v ≤ e.1) = some e) : Nearest l v e.1 := by
  obtain ⟨above, before, after, rfl, below⟩ := List.find?_eq_some_iff_append.mp found
  refine .inl ⟨of_decide_eq_true above, fun e' he' reached => ?_⟩
  rcases List.mem_append.mp he' with he' | he'
  · simpa [reached] using below e' he'
  · rcases List.mem_cons.mp he' with rfl | he'
    · exact Nat.le_refl _
    · exact Nat.le_of_lt ((List.pairwise_cons.mp (List.pairwise_append.mp sorted).2.1).1 e' he')

lemma nearest_of_getLast? (none : (l.find? fun e => v ≤ e.1) = none) (last : l.getLast? = some e) : Nearest l v e.1 := by
  obtain ⟨before, rfl⟩ := List.getLast?_eq_some_iff.mp last
  refine .inr fun e' he' => ⟨?_, ?_⟩
  · simpa [Wei.le_iff, Wei.lt_iff] using List.find?_eq_none.mp none e' he'
  · rcases List.mem_append.mp he' with he' | he'
    · exact Nat.le_of_lt ((List.pairwise_append.mp sorted).2.2 e' he' e (by simp))
    · rw [List.mem_singleton.mp he']
      exact Nat.le_refl _

end sorted

lemma forValue_eq (t : ConfirmationTable) (v : Wei) : t.forValue v =
    (((t.toList.find? fun e => v ≤ e.1).or t.toList.getLast?).map Prod.snd).getD 0 := by
  have reached (e : Wei × UInt16) : (compare e.1 v).isGE = decide (v ≤ e.1) := by
    rw [Bool.eq_iff_iff, decide_eq_true_eq]
    exact Nat.isGE_compare
  rw [forValue, getEntryGE?_eq_find?, maxEntry?_eq_getLast?, toList]
  simp only [reached]
  cases t.byThreshold.toList.find? fun e => decide (v ≤ e.1) <;> rfl

lemma toList_ofList_ne_nil (h : entries ≠ []) : (ofList entries).toList ≠ [] := by
  obtain ⟨e, he⟩ := List.exists_mem_of_ne_nil entries h
  obtain ⟨n, counts⟩ := exists_counts he
  exact List.ne_nil_of_mem (counts_iff_mem_toList.mp counts)

lemma exists_decides (h : entries ≠ []) (v : Wei) : ∃ t, Decides entries v t ((ofList entries).forValue v) := by
  have sorted := (ofList entries).sorted_toList
  rw [forValue_eq]
  cases found : (ofList entries).toList.find? fun e => v ≤ e.1 with
  | some e => exact ⟨e.1, decides_of_mem_toList (List.mem_of_find?_eq_some found) (nearest_of_find? sorted found)⟩
  | none =>
    obtain ⟨e, last⟩ := Option.isSome_iff_exists.mp (List.getLast?_isSome.mpr (toList_ofList_ne_nil h))
    rw [last]
    exact ⟨e.1, decides_of_mem_toList (List.mem_of_getLast? last) (nearest_of_getLast? sorted found last)⟩

lemma toList_ofList_nil : (ofList []).toList = [] := Std.ExtTreeMap.toList_eq_nil_iff.mpr rfl

lemma forValue_nil (v : Wei) : (ofList []).forValue v = 0 := by
  simp [forValue_eq, toList_ofList_nil]

lemma forValue_eq_iff :
    (ofList entries).forValue v = n ↔ (∃ t, Decides entries v t n) ∨ entries = [] ∧ n = 0 := by
  by_cases h : entries = []
  · subst h
    have undecided : ¬ ∃ t, Decides [] v t n := fun ⟨_, decided⟩ => nomatch decided.counts.mem
    rw [forValue_nil, eq_comm]
    simp [undecided]
  · obtain ⟨t, decided⟩ := exists_decides h v
    simp only [h, false_and, or_false]
    exact ⟨fun same => ⟨t, same ▸ decided⟩, fun ⟨t', other⟩ => decided.unique other⟩

lemma forValue_decides (t : ConfirmationTable) (v : Wei) :
    (∃ threshold, Decides t.toList v threshold (t.forValue v)) ∨ t.toList = [] ∧ t.forValue v = 0 := by
  apply forValue_eq_iff.mp
  rw [ofList_toList]

lemma max_eq (t : ConfirmationTable) : t.max = (t.toList.map Prod.snd).max?.getD 0 := by
  rw [max, values_eq_map_toList, toList]

lemma max?_eq_some_max {t : ConfirmationTable} (h : t.toList ≠ []) : (t.toList.map Prod.snd).max? = some t.max := by
  have some : (t.toList.map Prod.snd).max? ≠ none := by simpa using h
  obtain ⟨m, largest⟩ := Option.ne_none_iff_exists'.mp some
  rw [max_eq, largest, Option.getD_some]

lemma le_max {t : ConfirmationTable} (mem : e ∈ t.toList) : e.2 ≤ t.max := by
  have largest := max?_eq_some_max (List.ne_nil_of_mem mem)
  exact (List.max?_eq_some_iff.mp largest).2 e.2 (List.mem_map_of_mem mem)

lemma exists_max {t : ConfirmationTable} (h : t.toList ≠ []) : ∃ e ∈ t.toList, e.2 = t.max :=
  List.mem_map.mp (List.max?_eq_some_iff.mp (max?_eq_some_max h)).1

lemma forValue_le_max (v : Wei) : (ofList entries).forValue v ≤ (ofList entries).max := by
  rcases forValue_eq_iff.mp rfl with ⟨t, decided⟩ | ⟨-, none⟩
  · exact le_max (counts_iff_mem_toList.mp decided.counts)
  · rw [none]
    exact UInt16.zero_le

lemma exists_forValue_eq_max (entries : List (Wei × UInt16)) : ∃ v, (ofList entries).forValue v = (ofList entries).max := by
  by_cases h : entries = []
  · subst h
    exact ⟨0, by simp [forValue_nil, max_eq, toList_ofList_nil]⟩
  · obtain ⟨e, mem, largest⟩ := exists_max (toList_ofList_ne_nil h)
    refine ⟨e.1, forValue_eq_iff.mpr (.inl ⟨e.1, counts_iff_mem_toList.mpr (largest ▸ mem), .inl ⟨Nat.le_refl _, ?_⟩⟩)⟩
    exact fun _ _ reached => reached

lemma Rising.forValue_mono (rising : Rising entries) (le : v ≤ w) :
    (ofList entries).forValue v ≤ (ofList entries).forValue w := by
  rcases forValue_eq_iff.mp (rfl : (ofList entries).forValue v = _) with ⟨t, decided⟩ | ⟨-, none⟩
  · rcases forValue_eq_iff.mp (rfl : (ofList entries).forValue w = _) with ⟨t', decided'⟩ | ⟨none, -⟩
    · exact rising _ _ _ _ decided.counts decided'.counts (decided.mono decided' le)
    · subst none
      cases decided.counts.mem
  · rw [none]
    exact UInt16.zero_le

instance (entries : List (Wei × UInt16)) : Decidable (Rising entries) :=
  decidable_of_iff (∀ a ∈ (ofList entries).toList, ∀ b ∈ (ofList entries).toList, a.1 ≤ b.1 → a.2 ≤ b.2) <| by
    simp only [Rising, counts_iff_mem_toList]
    exact ⟨fun h t n t' n' mem mem' => h (t, n) mem (t', n') mem', fun h a ha b hb => h _ _ _ _ ha hb⟩

end ConfirmationTable

open ConfirmationTable in
theorem nearest_threshold_decides (entries : List (Wei × UInt16)) :
    (∀ v n, (ofList entries).forValue v = n ↔ (∃ t, Decides entries v t n) ∨ entries = [] ∧ n = 0) ∧
    (∀ v, (ofList entries).forValue v ≤ (ofList entries).max) ∧
    (∃ v, (ofList entries).forValue v = (ofList entries).max) ∧
    (Rising entries → ∀ v w, v ≤ w → (ofList entries).forValue v ≤ (ofList entries).forValue w) :=
  ⟨fun _ _ => forValue_eq_iff, forValue_le_max, exists_forValue_eq_max entries, fun rising _ _ => rising.forValue_mono⟩

namespace Sample

def steps : List (Wei × UInt16) :=
  [(.ofUInt64 1000, 9), (.ofUInt64 10, 2), (.ofUInt64 500, 6), (.ofUInt64 1000, 20), (.ofUInt64 10, 1)]

end Sample

open ConfirmationTable in
theorem larger_amounts_wait_longer : Rising Sample.steps ∧
    (∃ t, Decides Sample.steps (.ofUInt64 501) t 20) ∧ (∃ t, Decides Sample.steps (.ofUInt64 1001) t 20) ∧
    ∀ v w, v ≤ w → (ofList Sample.steps).forValue v ≤ (ofList Sample.steps).forValue w := by
  have rising : Rising Sample.steps := by decide
  obtain ⟨decided, -, -, mono⟩ := nearest_threshold_decides Sample.steps
  have between := (decided (.ofUInt64 501) 20).mp (by decide)
  have beyond := (decided (.ofUInt64 1001) 20).mp (by rw [forValue_eq]; decide)
  exact ⟨rising, between.resolve_right nofun, beyond.resolve_right nofun, mono rising⟩

end Flyover
