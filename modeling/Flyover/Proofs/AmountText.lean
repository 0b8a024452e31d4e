import Flyover.Wei.Checked
import Flyover.Proofs.DecimalText
import Mathlib.Data.List.DropRight

/-! The texts that are read as amounts, and the amounts they denote. -/

namespace Flyover

namespace Text

lemma trimChars_eq (cs : List Char) : trimChars cs = (cs.dropWhile isBlank).rdropWhile isBlank := rfl

lemma trimChars_append {lead trail : List Char} (blank : ∀ c ∈ lead ++ trail, isBlank c) (cs : List Char) :
    trimChars (lead ++ cs ++ trail) = trimChars cs := by
  have before : ∀ c ∈ lead, isBlank c := fun c hc => blank c (List.mem_append_left _ hc)
  have after : ∀ c ∈ trail, isBlank c := fun c hc => blank c (List.mem_append_right _ hc)
  have cut : ∀ ds : List Char, (ds ++ trail).rdropWhile isBlank = ds.rdropWhile isBlank := by
    intro ds
    rw [List.rdropWhile, List.reverse_append, List.dropWhile_append_of_pos, List.rdropWhile]
    simpa using after
  rw [trimChars_eq, List.append_assoc, List.dropWhile_append_of_pos before, List.dropWhile_append]
  -- what follows is cut off at the front if nothing but white space stands before it, else at the back
  split
  · rename_i empty
    rw [List.dropWhile_eq_nil_iff.mpr after, trimChars_eq, List.isEmpty_iff.mp empty]
  · rw [cut, trimChars_eq]

lemma exists_trimChars (cs : List Char) :
    ∃ lead trail, cs = lead ++ trimChars cs ++ trail ∧ ∀ c ∈ lead ++ trail, isBlank c := by
  refine ⟨cs.takeWhile isBlank, (cs.dropWhile isBlank).rtakeWhile isBlank, ?_, fun c hc => ?_⟩
  · rw [trimChars_eq, List.append_assoc, List.rdropWhile_append_rtakeWhile, List.takeWhile_append_dropWhile]
  · rcases List.mem_append.mp hc with h | h
    · exact List.mem_takeWhile_imp h
    · exact List.mem_rtakeWhile_imp h

lemma trimChars_prepend {c : Char} (solid : isBlank c = false) (k : ℕ) (cs : List Char) :
    trimChars (List.replicate k c ++ trimChars cs) = List.replicate k c ++ trimChars cs := by
  have first : (List.replicate k c ++ trimChars cs).dropWhile isBlank = List.replicate k c ++ trimChars cs := by
    cases k with
    | zero =>
      rw [List.replicate_zero, List.nil_append, List.dropWhile_eq_self_iff]
      intro nonempty
      have front : trimChars cs <+: cs.dropWhile isBlank := List.rdropWhile_prefix _ _
      rw [front.getElem]
      exact List.dropWhile_get_zero_not _ _ _
    | succ k => rw [List.replicate_succ, List.cons_append, List.dropWhile_cons_of_neg (by simp [solid])]
  rw [trimChars_eq, first, List.rdropWhile_eq_self_iff]
  intro nonempty
  by_cases empty : trimChars cs = []
  · simp [empty, solid]
  · rw [List.getLast_append_of_ne_nil nonempty empty]
    exact List.rdropWhile_last_not _ _ empty

lemma digit?_eq_some_iff {c : Char} {d : ℕ} : digit? c = some d ↔ d < 10 ∧ c = Nat.digitChar d := by
  constructor
  · intro h
    have digit : isDigit c := by rw [isDigit, h, Option.isSome_some]
    rw [isDigit_eq] at digit
    obtain ⟨low, high⟩ := toNat_of_isDigit digit
    rw [digit?_of_isDigit digit, Option.some.injEq] at h
    have code : c.toNat = '0'.toNat + d := by
      rw [← h, digitValue]
      exact (Nat.add_sub_of_le low).symm
    have small : d < 10 := by
      rw [code] at high
      exact Nat.lt_succ_of_le (Nat.le_of_add_le_add_left high)
    refine ⟨small, Char.toNat_inj.mp (code.trans ?_)⟩
    interval_cases d <;> rfl
  · rintro ⟨small, rfl⟩
    interval_cases d <;> rfl

end Text

namespace Wei

/-- The characters are decimal digits of the number, the most significant one first, and underscores anywhere. -/
inductive Writes : List Char → ℕ → Prop
  | nothing : Writes [] 0
  | digit {cs : List Char} {n d : ℕ} (rest : Writes cs n) (small : d < 10) : Writes (cs ++ [Nat.digitChar d]) (n * 10 + d)
  | underscore {cs : List Char} {n : ℕ} (rest : Writes cs n) : Writes (cs ++ ['_']) n

def Denotes (s : String) (n : ℕ) : Prop :=
  ∃ lead core trail, s.toList = lead ++ core ++ trail ∧ (∀ c ∈ lead ++ trail, Text.isBlank c) ∧ Writes core n

def written? (cs : List Char) : Option ℕ := ((cs.filter (· ≠ '_')).mapM Text.digit?).map (Text.ofDigits 10)

variable {cs : List Char} {n : ℕ}

lemma ofDigits?_eq (cs : List Char) : ofDigits? cs = (written? cs).bind ofNat? := by
  rw [ofDigits?, written?]
  cases (cs.filter (· ≠ '_')).mapM Text.digit? <;> rfl

lemma written?_concat (cs : List Char) (c : Char) :
    written? (cs ++ [c]) =
      if c = '_' then written? cs else (written? cs).bind fun n => (Text.digit? c).map fun d => n * 10 + d := by
  by_cases gap : c = '_'
  · simp [written?, gap]
  · have kept : (cs ++ [c]).filter (· ≠ '_') = cs.filter (· ≠ '_') ++ [c] := by simp [gap]
    rw [if_neg gap, written?, written?, kept, List.mapM_append]
    cases (cs.filter (· ≠ '_')).mapM Text.digit? with
    | none => rfl
    | some ds => cases h : Text.digit? c <;> simp [h, Text.ofDigits]

lemma writes_iff : Writes cs n ↔ written? cs = some n := by
  constructor
  · intro h
    induction h with
    | nothing => rfl
    | @digit cs n d _ small ih =>
      have plain : Nat.digitChar d ≠ '_' := by interval_cases d <;> decide
      rw [written?_concat, if_neg plain, ih, Text.digit?_eq_some_iff.mpr ⟨small, rfl⟩]
      rfl
    | underscore _ ih => rw [written?_concat, if_pos rfl, ih]
  · intro h
    -- from the last character, which is the last to be written
    induction cs using List.reverseRecOn generalizing n with
    | nil =>
      cases h
      exact .nothing
    | append_singleton cs c ih =>
      rw [written?_concat] at h
      split at h
      · rename_i gap
        rw [gap]
        exact .underscore (ih h)
      · obtain ⟨m, before, last⟩ := Option.bind_eq_some_iff.mp h
        obtain ⟨d, hd, rfl⟩ := Option.map_eq_some_iff.mp last
        obtain ⟨small, rfl⟩ := Text.digit?_eq_some_iff.mp hd
        exact .digit (ih before) small

lemma Writes.not_blank (h : Writes cs n) : ∀ c ∈ cs, Text.isBlank c = false := by
  induction h with
  | nothing => simp
  | @digit cs n d _ small ih =>
    have plain : Text.isBlank (Nat.digitChar d) = false := by interval_cases d <;> decide
    simpa [or_imp, forall_and] using ⟨ih, plain⟩
  | underscore _ ih => simpa [or_imp, forall_and] using ⟨ih, by decide⟩

lemma denotes_iff {s : String} : Denotes s n ↔ written? (Text.trimChars s.toList) = some n := by
  rw [← writes_iff]
  constructor
  · rintro ⟨lead, core, trail, split, blank, writes⟩
    rwa [split, Text.trimChars_append blank, Text.trimChars_of_no_blank writes.not_blank]
  · intro h
    obtain ⟨lead, trail, split, blank⟩ := Text.exists_trimChars s.toList
    exact ⟨lead, _, trail, split, blank, h⟩

lemma Denotes.unique {s : String} {m : ℕ} (h : Denotes s n) (h' : Denotes s m) : n = m :=
  Option.some.inj ((denotes_iff.mp h).symm.trans (denotes_iff.mp h'))

lemma ofText?_eq_some_iff {s : String} {a : Wei} : ofText? s = some a ↔ Denotes s a.toNat := by
  rw [ofText?, ofDigits?_eq, denotes_iff, Option.bind_eq_some_iff]
  simp [ofNat?_eq_some_iff]

lemma ofText?_eq_none_iff {s : String} : ofText? s = none ↔ ∀ n, Denotes s n → bound ≤ n := by
  rw [Option.eq_none_iff_forall_ne_some]
  constructor
  · intro h n denotes
    by_contra small
    exact h ⟨n, Nat.lt_of_not_le small⟩ (ofText?_eq_some_iff.mpr denotes)
  · intro h a read
    exact Nat.not_le.mpr a.toNat_lt (h a.toNat (ofText?_eq_some_iff.mp read))

lemma written?_zeros (k : ℕ) (cs : List Char) : written? (List.replicate k '0' ++ cs) = written? cs := by
  induction cs using List.reverseRecOn with
  | nil =>
    induction k with
    | zero => rfl
    | succ k ih =>
      rw [List.append_nil] at ih ⊢
      rw [List.replicate_succ', written?_concat, ih]
      rfl
  | append_singleton cs c ih => rw [← List.append_assoc, written?_concat, written?_concat, ih]

lemma denotes_zeros {s : String} (k : ℕ) :
    Denotes (String.ofList (List.replicate k '0' ++ Text.trimChars s.toList)) n ↔ Denotes s n := by
  rw [denotes_iff, denotes_iff, String.toList_ofList, Text.trimChars_prepend (by decide), written?_zeros]

lemma parse_eq_ok_iff {s : String} {a : Wei} : parse s = .ok a ↔ Denotes s a.toNat := by
  rw [← ofText?_eq_some_iff, parse]
  cases ofText? s <;> simp

lemma parse_eq_error_iff {s : String} {e : Error} :
    parse s = .error e ↔ e = .malformedWei s ∧ ∀ n, Denotes s n → bound ≤ n := by
  rw [← ofText?_eq_none_iff, parse]
  cases ofText? s <;> simp [eq_comm]

lemma toOption_parse (s : String) : (parse s).toOption = ofText? s := by
  rw [parse]
  cases ofText? s <;> rfl

theorem parse_reads_what_is_written :
    (∀ s a, parse s = .ok a ↔ Denotes s a.toNat) ∧
      (∀ s e, parse s = .error e ↔ e = .malformedWei s ∧ ∀ n, Denotes s n → bound ≤ n) ∧
      (∀ s a n, parse s = .ok a → Denotes s n → n = a.toNat) ∧
      (∀ a, parse a.text = .ok a) ∧
      ∀ s k, (parse (String.ofList (List.replicate k '0' ++ Text.trimChars s.toList))).toOption = (parse s).toOption := by
  refine ⟨fun s a => parse_eq_ok_iff, fun s e => parse_eq_error_iff, fun s a n read denotes => ?_, fun a => ?_,
    fun s k => ?_⟩
  · exact denotes.unique (parse_eq_ok_iff.mp read)
  · rw [parse, ofText?_text]
  · rw [toOption_parse, toOption_parse]
    apply Option.ext
    intro a
    rw [ofText?_eq_some_iff, ofText?_eq_some_iff, denotes_zeros]

end Wei

end Flyover
