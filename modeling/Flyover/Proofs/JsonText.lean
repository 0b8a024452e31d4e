import Flyover.Json.Parser
import Flyover.Json.Printer
import Flyover.Proofs.DecimalText

/-! JSON text: a value that is printed is read back from its text. -/

namespace Flyover.Json

open Text

lemma hexDigits?_control {n : Nat} (h : n < 0x20) :
    hexDigits? ['0', '0', Nat.digitChar (n / 16), Nat.digitChar (n % 16)] = some n := by
  revert n
  decide

lemma stringBody_controlEscape {c : Char} (h : c.toNat < 0x20) (cs : List Char) :
    stringBody none (controlEscape c.toNat ++ cs) = consChar c (stringBody none cs) := by
  -- a control character is neither half of a surrogate pair
  have lead : (0xD800 ≤ c.toNat && c.toNat ≤ 0xDBFF) = false := by simp; omega
  have trail : (0xDC00 ≤ c.toNat && c.toNat ≤ 0xDFFF) = false := by simp; omega
  simp [controlEscape, stringBody, hexDigits?_control h, lead, trail]

lemma stringBody_letter {letter c : Char} (other : letter ≠ 'u') (h : escaped? letter = some c) (cs : List Char) :
    stringBody none (['\\', letter] ++ cs) = consChar c (stringBody none cs) := by
  simp [stringBody, other, h]

lemma stringBody_plain {c : Char} (mark : c ≠ '"') (back : c ≠ '\\') (visible : ¬c.toNat < 0x20) (cs : List Char) :
    stringBody none (c :: cs) = consChar c (stringBody none cs) := by
  rw [stringBody.eq_def]
  split <;> simp_all

lemma stringBody_escapeChar (c : Char) (cs : List Char) :
    stringBody none (escapeChar c ++ cs) = consChar c (stringBody none cs) := by
  unfold escapeChar
  split_ifs with h1 h2 h3 h4 h5 h6 h7 h8
  · exact stringBody_letter (by decide : '"' ≠ 'u') (by rw [h1]; rfl) cs
  · exact stringBody_letter (by decide : '\\' ≠ 'u') (by rw [h2]; rfl) cs
  · exact stringBody_letter (by decide : 'b' ≠ 'u') (congrArg some (Char.toNat_inj.mp h3.symm)) cs
  · exact stringBody_letter (by decide : 'f' ≠ 'u') (congrArg some (Char.toNat_inj.mp h4.symm)) cs
  · exact stringBody_letter (by decide : 'n' ≠ 'u') (by rw [h5]; rfl) cs
  · exact stringBody_letter (by decide : 'r' ≠ 'u') (by rw [h6]; rfl) cs
  · exact stringBody_letter (by decide : 't' ≠ 'u') (by rw [h7]; rfl) cs
  · exact stringBody_controlEscape h8 cs
  · exact stringBody_plain h1 h2 h8 cs

lemma stringBody_flatMap (cs rest : List Char) :
    stringBody none (cs.flatMap escapeChar ++ '"' :: rest) = some (cs, rest) := by
  induction cs with
  | nil => simp [stringBody]
  | cons c cs ih => rw [List.flatMap_cons, List.append_assoc, stringBody_escapeChar, ih, consChar, Option.map_some]

lemma string?_stringChars (s : String) (rest : List Char) : string? (stringChars s ++ rest) = some (s, rest) := by
  simp only [stringChars, List.cons_append, List.append_assoc, List.nil_append, string?, stringBody_flatMap,
    Option.map_some, String.ofList_toList]

def Delimited (rest : List Char) : Prop := ∀ c ∈ rest.head?, c ∈ [',', ']', '\x7d']

lemma Delimited.mark {c : Char} {rest : List Char} (h : Delimited (c :: rest)) : c = ',' ∨ c = ']' ∨ c = '\x7d' := by
  simpa using h c rfl

lemma takeDigits_append {cs rest : List Char} (digits : ∀ c ∈ cs, c.isDigit) (h : Delimited rest) :
    takeDigits (cs ++ rest) = (cs.map digitValue, rest) := by
  have all : ∀ c ∈ cs, isDigit c := fun c hc => by rw [isDigit_eq, digits c hc]
  have stop : rest.takeWhile isDigit = [] ∧ rest.dropWhile isDigit = rest := by
    cases rest with
    | nil => exact ⟨rfl, rfl⟩
    | cons c rest =>
      have other : isDigit c = false := by rcases h.mark with rfl | rfl | rfl <;> decide
      simp [other]
  have values : cs.filterMap digit? = cs.map digitValue := by
    rw [← List.filterMap_eq_map]
    exact List.filterMap_congr fun c hc => digit?_of_isDigit (digits c hc)
  rw [takeDigits, List.takeWhile_append_of_pos all, List.dropWhile_append_of_pos all, stop.1, stop.2, List.append_nil,
    values]

lemma le_foldl_digits (ds : List Nat) (s : Nat) : s ≤ ds.foldl (fun n d => n * 10 + d) s := by
  induction ds generalizing s with
  | nil => exact le_refl s
  | cons d ds ih => exact le_trans (by omega) (ih (s * 10 + d))

lemma takeWord_of_lt {ds : List Nat} {s : Nat} (h : ds.foldl (fun n d => n * 10 + d) s < UInt64.size) :
    takeWord s ds = (ds.foldl (fun n d => n * 10 + d) s, []) := by
  induction ds generalizing s with
  | nil => rfl
  | cons d ds ih => rw [takeWord, if_pos (lt_of_le_of_lt (le_foldl_digits ds _) h), ih h, List.foldl_cons]

lemma exponent?_of_delimited {rest : List Char} (h : Delimited rest) : exponent? rest = some (0, rest) := by
  cases rest with
  | nil => rfl
  | cons c rest => rcases h.mark with rfl | rfl | rfl <;> rfl

lemma unsigned?_numeral {n : Nat} (h : n < UInt64.size) (negative : Bool) {rest : List Char} (hr : Delimited rest)
    (fits : negative → 0 < n ∧ fitsInt64 (-(n : Int))) :
    unsigned? negative ((numeral n).toList ++ rest) = some (int (if negative then -(n : Int) else n), rest) := by
  have word : takeWord 0 ((numeral n).toList.map digitValue) = (n, []) := by
    have whole := ofDigits_numeral n
    rw [ofDigits] at whole
    rw [takeWord_of_lt (by rwa [whole]), whole]
  have point : ∀ rest', rest ≠ '.' :: rest' := by
    rintro rest' rfl
    exact absurd (hr '.' rfl) (by decide)
  have admitted : (!((numeral n).toList.map digitValue).isEmpty && (((numeral n).toList.map digitValue).length = 1 ||
      ((numeral n).toList.map digitValue).head? ≠ some 0)) = true := by
    have lead := no_leading_zero n
    simpa [toList_numeral, Nat.toDigits_ne_nil] using lead
  have digits := takeDigits_append (fun c hc => isDigit_of_mem_numeral n hc) hr
  simp only [unsigned?, digits, admitted, word, guard, if_true]
  cases negative with
  | false => simp [takeWord, exponent?_of_delimited hr]
  | true =>
    obtain ⟨positive, narrow⟩ := fits rfl
    simp [takeWord, exponent?_of_delimited hr, positive, narrow]

lemma number?_numeral {n : Nat} (h : n < UInt64.size) {rest : List Char} (hr : Delimited rest) :
    number? ((numeral n).toList ++ rest) = some (int n, rest) := by
  have read := unsigned?_numeral h false hr nofun
  obtain ⟨c, cs, hc, digit⟩ := numeral_eq_cons n
  rw [hc] at read ⊢
  rw [number?.eq_def]
  split
  · rename_i eq
    obtain ⟨rfl, -⟩ := List.cons.inj eq
    exact absurd digit (by decide)
  · exact read

lemma number?_signedNumeral {i : Int} (low : -0x8000000000000000 ≤ i) (high : i ≤ 0xFFFFFFFFFFFFFFFF)
    {rest : List Char} (hr : Delimited rest) : number? ((signedNumeral i).toList ++ rest) = some (int i, rest) := by
  have fits : i.natAbs < UInt64.size := by simp only [UInt64.size]; omega
  rw [signedNumeral_chars]
  split
  · rename_i below
    have narrow : -(i.natAbs : Int) = i := by omega
    have read := unsigned?_numeral fits true hr fun _ => ⟨by omega, by rw [narrow, fitsInt64]; simp; omega⟩
    rwa [if_pos rfl, narrow] at read
  · rename_i above
    have same : (i.natAbs : Int) = i := by omega
    have read := number?_numeral fits hr
    rwa [same] at read

lemma value?_int {i : Int} (low : -0x8000000000000000 ≤ i) (high : i ≤ 0xFFFFFFFFFFFFFFFF) (fuel depth : Nat)
    {rest : List Char} (hr : Delimited rest) :
    value? (fuel + 1) depth ((signedNumeral i).toList ++ rest) = some (int i, rest) := by
  have read := number?_signedNumeral low high hr
  obtain ⟨c, cs, hc, first⟩ := signedNumeral_eq_cons i
  rw [hc, List.cons_append] at read ⊢
  rw [value?]
  · exact read
  -- the first character of a number tells it from every other value
  all_goals
    intro rest' eq
    obtain ⟨rfl, -⟩ := List.cons.inj eq
    exact absurd first (by decide)

inductive Plain : (depth : Nat) → Json → Prop
  | null {depth : Nat} : Plain depth null
  | bool {depth : Nat} (b : Bool) : Plain depth (bool b)
  | int {depth : Nat} {i : Int} (low : -0x8000000000000000 ≤ i) (high : i ≤ 0xFFFFFFFFFFFFFFFF) : Plain depth (int i)
  | string {depth : Nat} (s : String) : Plain depth (string s)
  | array {depth : Nat} {items : List Json} (each : ∀ j ∈ items, Plain depth j) : Plain (depth + 1) (array items)
  | object {depth : Nat} {members : List (String × Json)} (distinct : (members.map Prod.fst).Nodup)
      (each : ∀ m ∈ members, Plain depth m.2) : Plain (depth + 1) (object members)

def Reads (depth : Nat) (j : Json) : Prop :=
  ∀ (fuel : Nat) {rest : List Char}, (chars j).length ≤ fuel → Delimited rest →
    value? (fuel + 1) depth (chars j ++ rest) = some (j, rest)

def Opens (cs : List Char) : Prop := ∃ c ∈ cs.head?, isSpace c = false ∧ c ≠ ']' ∧ c ≠ '\x7d'

lemma Opens.append {cs : List Char} (h : Opens cs) (rest : List Char) : Opens (cs ++ rest) := by
  obtain ⟨c, hc, first⟩ := h
  exact ⟨c, by rw [Option.mem_def.mp (List.mem_head?_append_of_mem_head? hc)]; rfl, first⟩

lemma Opens.skipSpace {cs : List Char} (h : Opens cs) : skipSpace cs = cs := by
  obtain ⟨c, hc, space, -⟩ := h
  cases cs with
  | nil => cases hc
  | cons d cs =>
    obtain rfl := Option.some.inj hc
    simp [Json.skipSpace, space]

lemma opens_stringChars (s : String) : Opens (stringChars s) := ⟨'"', rfl, by decide⟩

lemma opens_signedNumeral (i : Int) : Opens (signedNumeral i).toList := by
  obtain ⟨c, cs, hc, first⟩ := signedNumeral_eq_cons i
  refine ⟨c, by rw [hc]; rfl, ?_, ?_, ?_⟩
  · rw [Bool.eq_false_iff]
    intro space
    simp only [isSpace, Bool.or_eq_true, decide_eq_true_eq] at space
    rcases space with ((rfl | rfl) | rfl) | rfl <;> exact absurd first (by decide)
  · rintro rfl
    exact absurd first (by decide)
  · rintro rfl
    exact absurd first (by decide)

lemma Plain.opens {depth : Nat} {j : Json} (h : Plain depth j) : Opens (chars j) := by
  cases h with
  | null => exact ⟨'n', rfl, by decide⟩
  | bool b => cases b <;> [exact ⟨'f', rfl, by decide⟩; exact ⟨'t', rfl, by decide⟩]
  | int low high => rw [chars]; exact opens_signedNumeral _
  | string s => rw [chars]; exact opens_stringChars s
  | @array _ items each => cases items <;> exact ⟨'[', by simp [chars], by decide⟩
  | @object _ members distinct each => cases members <;> exact ⟨'\x7b', by simp [chars], by decide⟩

lemma delimited_itemChars (items : List Json) (rest : List Char) : Delimited (itemChars items ++ ']' :: rest) := by
  cases items <;> simp [Delimited, itemChars]

lemma delimited_memberChars (members : List (String × Json)) (rest : List Char) :
    Delimited (memberChars members ++ '\x7d' :: rest) := by
  cases members <;> simp [Delimited, memberChars]

lemma skipSpace_mark {c : Char} (h : isSpace c = false) (rest : List Char) : skipSpace (c :: rest) = c :: rest := by
  simp [skipSpace, h]

section steps

variable {fuel depth : Nat} {cs rest rest' : List Char}

lemma items?_last {item : Json} (h : value? fuel depth cs = some (item, ']' :: rest)) :
    items? (fuel + 1) depth cs = some ([item], rest) := by
  rw [items?, h]
  simp [skipSpace_mark, isSpace]

lemma items?_next {item : Json} {items : List Json} (h : value? fuel depth cs = some (item, ',' :: rest))
    (others : items? fuel depth (skipSpace rest) = some (items, rest')) :
    items? (fuel + 1) depth cs = some (item :: items, rest') := by
  rw [items?, h]
  simp [skipSpace_mark, isSpace, others]

lemma members?_last {before : List (String × Json)} {k : String} {v : Json}
    (h : value? fuel depth (skipSpace rest) = some (v, '\x7d' :: rest')) :
    members? (fuel + 1) depth before (stringChars k ++ ':' :: rest) = some (insertMember k v before, rest') := by
  rw [members?, string?_stringChars]
  simp [skipSpace_mark, isSpace, h]

lemma members?_next {before : List (String × Json)} {k : String} {v : Json}
    (h : value? fuel depth (skipSpace rest) = some (v, ',' :: rest')) :
    members? (fuel + 1) depth before (stringChars k ++ ':' :: rest) =
      members? fuel depth (insertMember k v before) (skipSpace rest') := by
  rw [members?, string?_stringChars]
  simp [skipSpace_mark, isSpace, h]

lemma value?_items {items : List Json} (h : Opens cs) (read : items? fuel depth cs = some (items, rest)) :
    value? (fuel + 1) (depth + 1) ('[' :: cs) = some (array items, rest) := by
  rw [value?, if_neg (Nat.succ_ne_zero depth), h.skipSpace]
  obtain ⟨c, hc, -, other, -⟩ := h
  split
  · exact absurd (Option.some.inj hc) (Ne.symm other)
  · rw [Nat.add_sub_cancel, read, Option.map_some]

lemma value?_members {members : List (String × Json)} (h : Opens cs)
    (read : members? fuel depth [] cs = some (members, rest)) :
    value? (fuel + 1) (depth + 1) ('\x7b' :: cs) = some (object members, rest) := by
  rw [value?, if_neg (Nat.succ_ne_zero depth), h.skipSpace]
  obtain ⟨c, hc, -, -, other⟩ := h
  split
  · exact absurd (Option.some.inj hc) (Ne.symm other)
  · rw [Nat.add_sub_cancel, read, Option.map_some]

end steps

lemma items?_itemChars {depth : Nat} {item : Json} {items : List Json} (h : ∀ j ∈ item :: items, Reads depth j)
    (opens : ∀ j ∈ items, Opens (chars j)) (fuel : Nat)
    (enough : (chars item).length + (itemChars items).length + 1 ≤ fuel) (rest : List Char) :
    items? (fuel + 1) depth (chars item ++ (itemChars items ++ ']' :: rest)) = some (item :: items, rest) := by
  -- on the items after the first; each takes one step of fuel, and its text has a comma at least
  induction items generalizing item fuel with
  | nil =>
    obtain _ | fuel := fuel
    · omega
    exact items?_last (h item (by simp) fuel (by omega) (delimited_itemChars [] rest))
  | cons next items ih =>
    obtain _ | fuel := fuel
    · omega
    have first := h item (by simp) fuel (by omega) (delimited_itemChars (next :: items) rest)
    simp only [itemChars, List.cons_append, List.length_cons, List.length_append, List.append_assoc] at first enough ⊢
    refine items?_next first ?_
    rw [((opens next (by simp)).append _).skipSpace]
    exact ih (fun j hj => h j (List.mem_cons_of_mem _ hj)) (fun j hj => opens j (List.mem_cons_of_mem _ hj)) fuel (by omega)

lemma insertMember_of_new {name : String} {before : List (String × Json)} (h : name ∉ before.map Prod.fst) (v : Json) :
    insertMember name v before = before ++ [(name, v)] := by
  induction before with
  | nil => rfl
  | cons m before ih =>
    rw [List.map_cons, List.mem_cons, not_or] at h
    rw [insertMember, if_neg (Ne.symm h.1), ih h.2, List.cons_append]

lemma new_of_distinct {before members : List (String × Json)} {k : String} {v : Json}
    (distinct : ((before ++ (k, v) :: members).map Prod.fst).Nodup) : k ∉ before.map Prod.fst := by
  rw [List.map_append] at distinct
  exact fun hk => List.disjoint_of_nodup_append distinct hk (by simp)

lemma members?_memberChars {depth : Nat} {before members : List (String × Json)} {k : String} {v : Json}
    (h : ∀ m ∈ (k, v) :: members, Reads depth m.2) (opens : ∀ m ∈ (k, v) :: members, Opens (chars m.2))
    (distinct : ((before ++ (k, v) :: members).map Prod.fst).Nodup) (fuel : Nat)
    (enough : (chars v).length + (memberChars members).length + 1 ≤ fuel) (rest : List Char) :
    members? (fuel + 1) depth before (stringChars k ++ ':' :: (chars v ++ (memberChars members ++ '\x7d' :: rest))) =
      some (before ++ (k, v) :: members, rest) := by
  -- on the members after the first; those already read stand before it, and none of them has its name
  induction members generalizing before k v fuel with
  | nil =>
    obtain _ | fuel := fuel
    · omega
    have value : Reads depth v := h (k, v) (by simp)
    have first := value fuel (by omega) (delimited_memberChars [] rest)
    rw [← ((opens (k, v) (by simp)).append _).skipSpace] at first
    rw [members?_last first, insertMember_of_new (new_of_distinct distinct)]
  | cons next members ih =>
    obtain _ | fuel := fuel
    · omega
    obtain ⟨k', v'⟩ := next
    have value : Reads depth v := h (k, v) (by simp)
    have first := value fuel (by omega) (delimited_memberChars ((k', v') :: members) rest)
    rw [← ((opens (k, v) (by simp)).append _).skipSpace] at first
    simp only [memberChars, List.cons_append, List.length_cons, List.length_append, List.append_assoc] at first enough ⊢
    rw [members?_next first, insertMember_of_new (new_of_distinct distinct), ((opens_stringChars k').append _).skipSpace]
    have order : (before ++ [(k, v)]) ++ (k', v') :: members = before ++ (k, v) :: (k', v') :: members := by simp
    rw [← order] at distinct ⊢
    exact ih (fun m hm => h m (List.mem_cons_of_mem _ hm)) (fun m hm => opens m (List.mem_cons_of_mem _ hm)) distinct fuel
      (by omega)

lemma Plain.reads {depth : Nat} {j : Json} (h : Plain depth j) : Reads depth j := by
  induction h with
  | null =>
    intro fuel rest enough hr
    simp [chars, value?, afterWord?]
  | bool b =>
    intro fuel rest enough hr
    cases b <;> simp [chars, value?, afterWord?]
  | int low high =>
    intro fuel rest enough hr
    simpa [chars] using value?_int low high fuel _ hr
  | string s =>
    intro fuel rest enough hr
    have read := string?_stringChars s rest
    rw [chars]
    rw [stringChars] at read ⊢
    simp only [List.cons_append] at read ⊢
    simp only [value?, read, Option.map_some]
  | @array depth items each ih =>
    intro fuel rest enough hr
    cases items with
    | nil => simp [chars, value?, skipSpace_mark, isSpace]
    | cons item items =>
      simp only [chars, List.cons_append, List.length_cons, List.length_append, List.append_assoc] at enough ⊢
      obtain _ | fuel := fuel
      · omega
      refine value?_items ((each item (by simp)).opens.append _) ?_
      exact items?_itemChars ih (fun j hj => (each j (by simp [hj])).opens) fuel (by omega) rest
  | @object depth members distinct each ih =>
    intro fuel rest enough hr
    cases members with
    | nil => simp [chars, value?, skipSpace_mark, isSpace]
    | cons m members =>
      obtain ⟨k, v⟩ := m
      simp only [chars, List.cons_append, List.length_cons, List.length_append, List.append_assoc] at enough ⊢
      obtain _ | fuel := fuel
      · omega
      refine value?_members ((opens_stringChars k).append _) ?_
      exact members?_memberChars ih (fun m hm => (each m hm).opens) distinct fuel (by omega) rest

theorem parse?_text {j : Json} (h : Plain 127 j) : parse? (text j) = some j := by
  have stop : Delimited [] := nofun
  have read := h.reads (2 * (chars j).length) (by omega) stop
  rw [List.append_nil] at read
  simp only [parse?, text, String.toList_ofList, h.opens.skipSpace, read]
  rfl

end Flyover.Json
