import Flyover.Proofs.RealWords
import Flyover.Proofs.WeiSum
import Flyover.Settings.Load

/-! What holds of settings that are accepted. All that quoting relies on is checked, but a fee percentage that is no number
passes for one that is not below zero. -/

namespace Flyover.Settings

variable {s : Settings} {file : Option Document} {environment : List (String × String)} {root v : Value} {x : Binary64}

section Validation

/-- What quoting relies on, with what is known of the fee percentage. -/
structure Sound (fee : Binary64 → Prop) (s : Settings) : Prop where
  feeScale : 0 < s.feeScale.toNat ∧ 100 ∣ s.feeScale.toNat
  bitcoinAddress : Bitcoin.isAddress s.bitcoinAddress s.network
  range : s.minValue ≤ s.maxValue
  feePercentage : fee s.feePercentage
  confirmations : s.confirmations.toList ≠ []

lemma sound_congr {P Q : Binary64 → Prop} (h : P s.feePercentage ↔ Q s.feePercentage) : s.Sound P ↔ s.Sound Q where
  mp sound := { sound with feePercentage := h.mp sound.feePercentage }
  mpr sound := { sound with feePercentage := h.mpr sound.feePercentage }

lemma feeScale_iff {n : UInt64} : ¬ (n = 0 ∨ n % 100 ≠ 0) ↔ 0 < n.toNat ∧ 100 ∣ n.toNat := by
  rw [not_or, not_ne_iff, Nat.dvd_iff_mod_eq_zero, Nat.pos_iff_ne_zero]
  exact and_congr UInt64.toNat_inj.not.symm UInt64.toNat_inj.symm

lemma isEmpty_iff {t : ConfirmationTable} : t.isEmpty ↔ t.toList = [] := by
  rw [ConfirmationTable.isEmpty, ConfirmationTable.toList, Std.ExtTreeMap.isEmpty_iff, Std.ExtTreeMap.toList_eq_nil_iff]

lemma refuse_eq_ok_iff {ε : Type} {p : Prop} [Decidable p] {e : ε} {rest : Unit → Except ε Unit} :
    (if p then throw e >>= rest else rest ()) = .ok () ↔ ¬ p ∧ rest () = .ok () := by
  split_ifs with h
  · exact iff_of_false nofun fun accepted => accepted.1 h
  · exact (and_iff_right h).symm

lemma refuse_last_eq_ok_iff {ε : Type} {p : Prop} [Decidable p] {e : ε} :
    (if p then throw e else pure () : Except ε Unit) = .ok () ↔ ¬ p := by
  split_ifs with h
  · exact iff_of_false nofun (not_not_intro h)
  · exact iff_of_true rfl h

lemma validate_eq_ok_iff : s.validate = .ok () ↔ s.Sound fun x => x.reading = .nan ∨ x.AtLeastZero := by
  simp only [validate, refuse_eq_ok_iff, refuse_last_eq_ok_iff, not_not, feeScale_iff, isEmpty_iff]
  rw [Bool.not_eq_true, Binary64.isNegative_eq_false_iff, Wei.lt_iff, not_lt, ← Wei.le_iff]
  exact ⟨fun ⟨scale, address, range, fee, table⟩ => ⟨scale, address, range, fee, table⟩,
    fun h => ⟨h.feeScale, h.bitcoinAddress, h.range, h.feePercentage, h.confirmations⟩⟩

lemma scaledFeePercentage_eq_zero (h : s.feePercentage.reading = .nan) (scale : UInt64) :
    s.scaledFeePercentage scale = 0 := by
  rw [scaledFeePercentage, Binary64.div_of_nan h, Binary64.mul_of_nan rfl]
  rfl

end Validation

section Reading

lemma load_eq_ok_iff : load file environment = .ok s ↔
    ∃ root, configuration file environment = .ok root ∧ ofValue root = .ok s ∧ s.validate = .ok () := by
  simp only [load, bind_eq_ok_iff]
  constructor
  · rintro ⟨root, configured, s', read, ⟨⟩, valid, same⟩
    cases same
    exact ⟨root, configured, read, valid⟩
  · rintro ⟨root, configured, read, valid⟩
    exact ⟨root, configured, s, read, (), valid, rfl⟩

def feeValue (root : Value) : Except Fault Value :=
  rootSection.field root (fun v => quotingSection.field v .ok "fee_percentage") "pegin"

lemma mapError_eq_ok_iff {ε ε' α : Type} {f : ε → ε'} {x : Except ε α} {a : α} :
    x.mapError f = .ok a ↔ x = .ok a := by
  cases x with
  | error e => exact iff_of_false nofun nofun
  | ok b => exact (Except.ok.injEq b a ▸ Iff.rfl : _ ↔ b = a).trans (Except.ok.injEq b a ▸ Iff.rfl)

lemma Section.field_eq_ok_iff {α : Type} {t : Section} {read : Value → Except Fault α} {name : String} {a : α} :
    t.field v read name = .ok a ↔ ∃ value, t.field v .ok name = .ok value ∧ read value = .ok a := by
  simp only [Section.field, bind_eq_ok_iff]
  constructor
  · rintro ⟨fields, held, h⟩
    split at h
    · rename_i step field found
      refine ⟨field, ⟨fields, held, ?_⟩, mapError_eq_ok_iff.mp h⟩
      rw [found]
      rfl
    · split at h <;> cases h
  · rintro ⟨value, ⟨fields, held, h⟩, read⟩
    refine ⟨fields, held, ?_⟩
    split at h
    · cases h
      exact mapError_eq_ok_iff.mpr read
    · split at h <;> cases h

lemma exists_feeValue (h : ofValue root = .ok s) : ∃ v, feeValue root = .ok v ∧ v.toReal = .ok s.feePercentage := by
  have real : rootSection.field root (fun v => quotingSection.field v Value.toReal "fee_percentage") "pegin" =
      .ok s.feePercentage := by
    simp only [ofValue, bind_eq_ok_iff] at h
    obtain ⟨_, -, _, -, _, -, _, -, _, -, _, -, _, -, _, -, _, -, _, -, x, read, _, -, _, -, _, -, same⟩ := h
    cases same
    exact read
  obtain ⟨quoting, held, real⟩ := Section.field_eq_ok_iff.mp real
  obtain ⟨v, found, real⟩ := Section.field_eq_ok_iff.mp real
  exact ⟨v, Section.field_eq_ok_iff.mpr ⟨quoting, held, found⟩, real⟩

lemma truthWord?_of_namesNaN {w : String} (h : Binary64.NamesNaN w) : truthWord? w = none := by
  rw [truthWord?]
  have spelt := h.lower_mem
  rw [List.mem_cons, List.mem_cons, List.mem_singleton] at spelt
  rcases spelt with spelt | spelt | spelt
  all_goals
    rw [spelt]
    rfl

def Value.NamesNaN : Value → Prop
  | scalar _ (.real x) => x.reading = .nan
  | scalar _ (.text s) => Binary64.NamesNaN s
  | _ => False

lemma reading_eq_nan_iff_of_toReal (h : v.toReal = .ok x) : x.reading = .nan ↔ v.NamesNaN := by
  cases v with
  | table => cases h
  | list => cases h
  | scalar origin value =>
    cases value with
    | nil => cases h
    | bool b =>
      cases h
      exact iff_of_false Binary64.reading_nearest_ne_nan id
    | int i =>
      cases h
      exact iff_of_false Binary64.reading_nearest_ne_nan id
    | word n =>
      cases h
      exact iff_of_false Binary64.reading_nearest_ne_nan id
    | real y =>
      cases h
      exact Iff.rfl
    | text w =>
      simp only [Value.toReal] at h
      split at h
      · rename_i b truth
        cases h
        refine iff_of_false Binary64.reading_nearest_ne_nan fun named => ?_
        rw [truthWord?_of_namesNaN named] at truth
        cases truth
      · cases h
        exact Binary64.reading_eq_nan_iff_namesNaN ‹_›
      · cases h

lemma namesNaN_variableScalar {origin : Option String} {text : String} :
    (Value.scalar origin (variableScalar text)).NamesNaN ↔ Binary64.NamesNaN text := by
  rw [variableScalar]
  split_ifs with isTrue isFalse
  · refine iff_of_false id fun named => ?_
    have spelt := named.lower_mem
    rw [isTrue] at spelt
    exact absurd spelt (by decide)
  · refine iff_of_false id fun named => ?_
    have spelt := named.lower_mem
    rw [isFalse] at spelt
    exact absurd spelt (by decide)
  · split
    · rename_i i whole
      refine iff_of_false id fun named => ?_
      rw [Binary64.integer?_of_namesNaN named] at whole
      cases whole
    · rename_i x _ real
      exact Binary64.reading_eq_nan_iff_namesNaN real
    · exact Iff.rfl

end Reading

/-- Settings are valid when they are sound, with a fee percentage that is not below zero or is no number. Those that are
loaded have a number for it unless the configuration names none, which a variable of the environment does by one word. In
bits, what is not below zero is a word up to that for infinity or the zero with a sign. -/
theorem accepted_iff_sound_but_for_nan (file : Option Document) (environment : List (String × String)) (s : Settings) :
    (s.validate = .ok () ↔ s.Sound fun x => x.reading = .nan ∨ x.AtLeastZero) ∧
      (load file environment = .ok s ↔
        ∃ root v, configuration file environment = .ok root ∧ ofValue root = .ok s ∧ feeValue root = .ok v ∧
          s.Sound fun x => (v.NamesNaN ∧ x.reading = .nan) ∨ (¬ v.NamesNaN ∧ x.AtLeastZero)) ∧
      (∀ origin text, (Value.scalar origin (variableScalar text)).NamesNaN ↔ Binary64.NamesNaN text) ∧
      ∀ x : Binary64, x.AtLeastZero ↔
        x.bits.toNat ≤ Binary64.infinityMagnitude ∨ x.bits.toNat = Binary64.signBit := by
  refine ⟨validate_eq_ok_iff, load_eq_ok_iff.trans ?_, fun _ _ => namesNaN_variableScalar,
    fun x => Binary64.atLeastZero_iff_bits⟩
  have fee {v : Value} (real : v.toReal = .ok s.feePercentage) :
      (s.feePercentage.reading = .nan ∨ s.feePercentage.AtLeastZero) ↔
        (v.NamesNaN ∧ s.feePercentage.reading = .nan) ∨ (¬ v.NamesNaN ∧ s.feePercentage.AtLeastZero) := by
    rw [← reading_eq_nan_iff_of_toReal real, and_self]
    exact or_congr_right' fun number => (and_iff_right number).symm
  constructor
  · rintro ⟨root, configured, read, valid⟩
    obtain ⟨v, found, real⟩ := exists_feeValue read
    exact ⟨root, v, configured, read, found, (sound_congr (fee real)).mp (validate_eq_ok_iff.mp valid)⟩
  · rintro ⟨root, v, configured, read, found, sound⟩
    obtain ⟨v', found', real⟩ := exists_feeValue read
    cases found.symm.trans found'
    exact ⟨root, configured, read, validate_eq_ok_iff.mpr ((sound_congr (fee real)).mpr sound)⟩

def wordlyEnvironment : List (String × String) :=
  [("LPS_GENERAL__BTC_CONFIRMATIONS__100", "4"),
    ("LPS_LPS__BTC_ADDRESS", "2N5muMepJizJE1gR7FbHJU6CD18V3BpNF9p"),
    ("LPS_LPS__CHAIN_ID", "33"),
    ("LPS_LPS__FEE_COLLECTOR_ADDRESS", "0x1111111111111111111111111111111111111111"),
    ("LPS_LPS__NETWORK", "regtest"),
    ("LPS_LPS__PRIVATE_KEY", "41634762d89dfa09133a4a8e9c1378d0161d29cd0a9433b51f1e3d32947a73dc"),
    ("LPS_PEGIN__FEE_PERCENTAGE", "nan"),
    ("LPS_PEGIN__FIXED_FEE", "6"),
    ("LPS_PEGIN__MAX_VALUE", "2"),
    ("LPS_PEGIN__MIN_VALUE", "1"),
    ("LPS_PEGIN__PENALTY_FEE", "5")]

theorem nan_passes_for_percentage : ∃ s, load none wordlyEnvironment = .ok s ∧ s.feePercentage.reading = .nan ∧
    ¬ s.Sound Binary64.AtLeastZero ∧ ∀ scale, s.scaledFeePercentage scale = 0 := by
  have loaded : ((load none wordlyEnvironment).toOption.map fun s => s.feePercentage.reading) = some .nan := by
    decide +kernel
  cases accepted : load none wordlyEnvironment with
  | error e =>
    rw [accepted] at loaded
    cases loaded
  | ok s =>
    rw [accepted] at loaded
    have number : s.feePercentage.reading = .nan := Option.some_inj.mp loaded
    refine ⟨s, rfl, number, fun sound => ?_, scaledFeePercentage_eq_zero number⟩
    have percentage := sound.feePercentage
    rw [Binary64.AtLeastZero, number] at percentage
    exact percentage

end Flyover.Settings
