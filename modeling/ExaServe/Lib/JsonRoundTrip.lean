import ExaServe.Lib.JsonParse
import Mathlib.Data.List.TakeWhile
import Mathlib.Tactic.Tauto

namespace Lib.Json

theorem induction {P : Json → Prop} (null : P .null) (bool : ∀ value, P (.bool value))
    (int : ∀ value, P (.int value)) (float : ∀ value, P (.float value)) (str : ∀ value, P (.str value))
    (arr : ∀ items, (∀ item ∈ items, P item) → P (.arr items))
    (obj : ∀ fields, (∀ field ∈ fields, P field.2) → P (.obj fields)) (value : Json) : P value := by
  refine @Json.rec P (fun items => ∀ item ∈ items, P item) (fun fields => ∀ field ∈ fields, P field.2)
    (fun field => P field.2) null bool int float str arr obj ?_ ?_ ?_ ?_ ?_ value
  · intro item member
    cases member
  · intro head tail first rest item member
    rcases List.mem_cons.mp member with rfl | later
    · exact first
    · exact rest item later
  · intro field member
    cases member
  · intro head tail first rest field member
    rcases List.mem_cons.mp member with rfl | later
    · exact first
    · exact rest field later
  · intro key value held
    exact held

mutual

/-- The value with the fields of every object in key order. -/
def canonical : Json → Json
  | .arr items => .arr (canonicalItems items)
  | .obj fields => .obj (sortFields (canonicalFields fields))
  | value => value

def canonicalItems : List Json → List Json
  | [] => []
  | item :: rest => canonical item :: canonicalItems rest

def canonicalFields : List (String × Json) → List (String × Json)
  | [] => []
  | (key, value) :: rest => (key, canonical value) :: canonicalFields rest

end

theorem canonicalItems_eq_map (items : List Json) : canonicalItems items = items.map canonical := by
  induction items with
  | nil => rfl
  | cons item rest ih => simp [canonicalItems, ih]

theorem canonicalFields_eq_map (fields : List (String × Json)) :
    canonicalFields fields = fields.map fun field => (field.1, canonical field.2) := by
  induction fields with
  | nil => rfl
  | cons field rest ih => simp [canonicalFields, ih]

mutual

/-- No object of the value has a key twice. -/
def wellKeyed : Json → Bool
  | .arr items => wellKeyedItems items
  | .obj fields => decide (fieldNames fields).Nodup && wellKeyedFields fields
  | _ => true

def wellKeyedItems : List Json → Bool
  | [] => true
  | item :: rest => wellKeyed item && wellKeyedItems rest

def wellKeyedFields : List (String × Json) → Bool
  | [] => true
  | (_, value) :: rest => wellKeyed value && wellKeyedFields rest

end

theorem wellKeyedItems_iff (items : List Json) :
    wellKeyedItems items = true ↔ ∀ item ∈ items, wellKeyed item = true := by
  induction items with
  | nil => simp [wellKeyedItems]
  | cons item rest ih => simp [wellKeyedItems, ih]

theorem wellKeyedFields_iff (fields : List (String × Json)) :
    wellKeyedFields fields = true ↔ ∀ field ∈ fields, wellKeyed field.2 = true := by
  induction fields with
  | nil => simp [wellKeyedFields]
  | cons field rest ih => simp [wellKeyedFields, ih]

theorem sortFields_map {β γ : Type} (f : β → γ) (fields : List (String × β)) :
    sortFields (fields.map fun field => (field.1, f field.2)) =
      (sortFields fields).map fun field => (field.1, f field.2) := by
  unfold sortFields
  rw [List.map_insertionSort (fun left right : String × β => left.1 ≤ right.1)
    fun left right : String × γ => left.1 ≤ right.1]
  intro left _ right _
  rfl

theorem mem_sortFields {β : Type} {fields : List (String × β)} {field : String × β} :
    field ∈ sortFields fields ↔ field ∈ fields := List.mem_insertionSort _

theorem fieldNames_sortFields (fields : List (String × Json)) :
    (fieldNames (sortFields fields)).Perm (fieldNames fields) :=
  (List.perm_insertionSort _ fields).map _

theorem hexValue_hexDigit : ∀ n < 16, hexValue? (hexDigit n) = some n := by decide

theorem parseHex4_hex4 {n : Nat} (small : n < 65536) (rest : List Char) :
    parseHex4 (hex4 n ++ rest) = some (n, rest) := by
  simp only [hex4, List.cons_append, List.nil_append, parseHex4,
    hexValue_hexDigit (n / 4096 % 16) (Nat.mod_lt _ (by decide)),
    hexValue_hexDigit (n / 256 % 16) (Nat.mod_lt _ (by decide)),
    hexValue_hexDigit (n / 16 % 16) (Nat.mod_lt _ (by decide)),
    hexValue_hexDigit (n % 16) (Nat.mod_lt _ (by decide)), Option.bind_eq_bind, Option.bind_some,
    Option.some.injEq, Prod.mk.injEq, and_true]
  omega

theorem toNat_valid (c : Char) : c.toNat < 55296 ∨ (57343 < c.toNat ∧ c.toNat < 1114112) := c.valid

theorem parseUnicode_basic {n : Nat} (small : n < 65536) (whole : n < 55296 ∨ 57343 < n) (rest : List Char) :
    parseUnicode (hex4 n ++ rest) = some (Char.ofNat n, rest) := by
  unfold parseUnicode
  rw [parseHex4_hex4 small]
  simp only [Option.bind_eq_bind, Option.bind_some]
  rw [if_neg (by omega), if_neg (by omega)]

theorem parseUnicode_pair {high low : Nat} (first : 55296 ≤ high ∧ high < 56320)
    (second : 56320 ≤ low ∧ low < 57344) (rest : List Char) :
    parseUnicode (hex4 high ++ (unicodeEscape low ++ rest)) =
      some (Char.ofNat (65536 + (high - 55296) * 1024 + (low - 56320)), rest) := by
  have high_small : high < 65536 := by omega
  have low_small : low < 65536 := by omega
  unfold parseUnicode
  rw [parseHex4_hex4 high_small]
  simp only [Option.bind_eq_bind, Option.bind_some, unicodeEscape, List.cons_append, expect, if_true]
  rw [if_pos first, parseHex4_hex4 low_small]
  simp only [Option.bind_some]
  rw [if_pos second]

theorem parseChars_escape {text rest : List Char} {c : Char} (decoded : parseEscape text = some (c, rest))
    (fuel : Nat) :
    parseChars (fuel + 1) ('\\' :: text) =
      (parseChars fuel rest).map fun result => (c :: result.1, result.2) := by
  rw [parseChars, if_neg (by decide), if_pos rfl, decoded]

/-- An escaped character is read back, whatever follows. -/
theorem parseChars_escapeChar (fuel : Nat) (c : Char) (rest : List Char) :
    parseChars (fuel + 1) (escapeChar c ++ rest) =
      (parseChars fuel rest).map fun result => (c :: result.1, result.2) := by
  have valid := toNat_valid c
  have known : ∀ n, c.toNat = n → c = Char.ofNat n := fun n same => by rw [← same, Char.ofNat_toNat]
  unfold escapeChar
  by_cases quote : c = '"'
  · subst quote
    exact parseChars_escape rfl fuel
  by_cases backslash : c = '\\'
  · subst backslash
    exact parseChars_escape rfl fuel
  rw [if_neg quote, if_neg backslash]
  by_cases newline : c = '\n'
  · subst newline
    exact parseChars_escape rfl fuel
  by_cases carriage : c = '\r'
  · subst carriage
    exact parseChars_escape rfl fuel
  by_cases tab : c = '\t'
  · subst tab
    exact parseChars_escape rfl fuel
  rw [if_neg newline, if_neg carriage, if_neg tab]
  by_cases feed : c.toNat = 12
  · rw [if_pos feed, known 12 feed]
    exact parseChars_escape rfl fuel
  by_cases back : c.toNat = 8
  · rw [if_neg feed, if_pos back, known 8 back]
    exact parseChars_escape rfl fuel
  rw [if_neg feed, if_neg back]
  by_cases printable : 32 ≤ c.toNat ∧ c.toNat ≤ 126
  · rw [if_pos printable, List.singleton_append, parseChars, if_neg quote, if_neg backslash,
      if_neg (by omega)]
  rw [if_neg printable]
  by_cases basic : c.toNat < 65536
  · rw [if_pos basic]
    have decoded : parseEscape ('u' :: (hex4 c.toNat ++ rest)) = some (c, rest) := by
      rw [parseEscape, parseUnicode_basic basic (by omega), Char.ofNat_toNat]
    exact parseChars_escape decoded fuel
  · rw [if_neg basic, List.append_assoc]
    have decoded : parseEscape ('u' :: (hex4 (55296 + (c.toNat - 65536) / 1024) ++
        (unicodeEscape (56320 + (c.toNat - 65536) % 1024) ++ rest))) = some (c, rest) := by
      have whole : 65536 + (55296 + (c.toNat - 65536) / 1024 - 55296) * 1024 +
          (56320 + (c.toNat - 65536) % 1024 - 56320) = c.toNat := by omega
      rw [parseEscape, parseUnicode_pair (by omega) (by omega), whole, Char.ofNat_toNat]
    exact parseChars_escape decoded fuel

/-- What a character is written as: itself, a letter behind a backslash, or one or two units. -/
inductive EscapeShape (c : Char) : List Char → Prop where
  | plain (printable : 32 ≤ c.toNat ∧ c.toNat ≤ 126) : EscapeShape c [c]
  | quoted (same : c = '"') : EscapeShape c ['\\', '"']
  | letter (d : Char) (listed : d ∈ ['\\', 'n', 'r', 't', 'f', 'b']) : EscapeShape c ['\\', d]
  | unit (n : Nat) : EscapeShape c (unicodeEscape n)
  | pair (high low : Nat) : EscapeShape c (unicodeEscape high ++ unicodeEscape low)

theorem escapeChar_shape (c : Char) : EscapeShape c (escapeChar c) := by
  unfold escapeChar
  apply iteInduction .quoted fun _ => ?_
  apply iteInduction (fun _ => .letter '\\' (by decide)) fun _ => ?_
  apply iteInduction (fun _ => .letter 'n' (by decide)) fun _ => ?_
  apply iteInduction (fun _ => .letter 'r' (by decide)) fun _ => ?_
  apply iteInduction (fun _ => .letter 't' (by decide)) fun _ => ?_
  apply iteInduction (fun _ => .letter 'f' (by decide)) fun _ => ?_
  apply iteInduction (fun _ => .letter 'b' (by decide)) fun _ => ?_
  exact iteInduction .plain fun _ => iteInduction (fun _ => .unit _) fun _ => .pair _ _

theorem escapeChar_nonempty (c : Char) : 0 < (escapeChar c).length := by
  have shape := escapeChar_shape c
  generalize escapeChar c = text at shape ⊢
  cases shape <;> exact Nat.succ_pos _

theorem parseChars_quoted (chars : List Char) (rest : List Char) {fuel : Nat} (enough : chars.length < fuel) :
    parseChars fuel (chars.flatMap escapeChar ++ '"' :: rest) = some (chars, rest) := by
  induction chars generalizing fuel with
  | nil =>
    obtain ⟨fuel, rfl⟩ : ∃ less, fuel = less + 1 := ⟨fuel - 1, by simp at enough; omega⟩
    simp [parseChars]
  | cons c chars ih =>
    rw [List.length_cons] at enough
    obtain ⟨fuel, rfl⟩ : ∃ less, fuel = less + 1 := ⟨fuel - 1, by omega⟩
    rw [List.flatMap_cons, List.append_assoc, parseChars_escapeChar, ih (by omega)]
    rfl

theorem length_le_flatMap_escape (chars : List Char) : chars.length ≤ (chars.flatMap escapeChar).length := by
  induction chars with
  | nil => simp
  | cons c chars ih =>
    have := escapeChar_nonempty c
    simp only [List.length_cons, List.flatMap_cons, List.length_append]
    omega

/-- A quoted string is read back after its opening quote. -/
theorem parseChars_quote (text : String) (rest : List Char) :
    let after := text.toList.flatMap escapeChar ++ '"' :: rest
    parseChars (after.length + 1) after = some (text.toList, rest) := by
  apply parseChars_quoted
  have := length_le_flatMap_escape text.toList
  rw [List.length_append]
  omega

/-- What follows a number is not part of it. -/
def stops (rest : List Char) : Prop := ∀ c ∈ rest.head?, isNumberChar c = false

theorem takeWhile_stops {token rest : List Char} (all : ∀ c ∈ token, isNumberChar c = true)
    (stop : stops rest) : (token ++ rest).takeWhile isNumberChar = token ∧
      (token ++ rest).dropWhile isNumberChar = rest := by
  rw [List.takeWhile_append_of_pos all, List.dropWhile_append_of_pos all]
  cases rest with
  | nil => simp
  | cons c rest =>
    have no := stop c rfl
    simp [no]

theorem toDigits_head {n : Nat} (positive : 0 < n) : (Nat.toDigits 10 n).head? ≠ some '0' := by
  induction n using Nat.strongRecOn with
  | ind n ih =>
    by_cases small : n < 10
    · rw [Nat.toDigits_of_lt_base small]
      simp
      omega
    · rw [Nat.toDigits_of_base_le (by decide) (by omega)]
      have smaller := ih (n / 10) (by omega) (by omega)
      rw [List.head?_append_of_ne_nil _ Nat.toDigits_ne_nil]
      exact smaller

theorem digits_isDigit {n : Nat} : ∀ c ∈ Nat.toDigits 10 n, c.isDigit = true :=
  fun _ member => Nat.isDigit_of_mem_toDigits (by decide) (by decide) member

theorem splitWhole_toDigits (negative : Bool) (n : Nat) :
    splitWhole negative (Nat.toDigits 10 n) =
      some { negative, whole := Nat.toDigits 10 n, fraction := [], exponent := 0 } := by
  have taken : (Nat.toDigits 10 n).takeWhile Char.isDigit = Nat.toDigits 10 n :=
    List.takeWhile_eq_self_iff.mpr digits_isDigit
  have dropped : (Nat.toDigits 10 n).dropWhile Char.isDigit = [] :=
    List.dropWhile_eq_nil_iff.mpr digits_isDigit
  have plain : ¬ (Nat.toDigits 10 n = [] ∨
      (1 < (Nat.toDigits 10 n).length ∧ (Nat.toDigits 10 n).head? = some '0')) := by
    rintro (empty | ⟨long, zero⟩)
    · exact Nat.toDigits_ne_nil empty
    · by_cases positive : 0 < n
      · exact toDigits_head positive zero
      · have none_left : n = 0 := by omega
        simp [none_left] at long
  unfold splitWhole
  simp only [taken, dropped]
  rw [if_neg plain]
  rfl

theorem digit_isNumberChar {c : Char} (digit : c.isDigit = true) : isNumberChar c = true := by
  simp [isNumberChar, digit]

theorem digit_plain {c : Char} (digit : c.isDigit = true) : c ≠ '-' ∧ c ≠ '.' ∧ c ≠ 'e' ∧ c ≠ 'E' := by
  refine ⟨?_, ?_, ?_, ?_⟩ <;> (rintro rfl; revert digit; decide)

theorem intText_chars (n : Int) : ∀ c ∈ intText n, isNumberChar c = true ∧ c ≠ '.' ∧ c ≠ 'e' ∧ c ≠ 'E' := by
  intro c member
  have digits : c ∈ Nat.toDigits 10 n.natAbs → isNumberChar c = true ∧ c ≠ '.' ∧ c ≠ 'e' ∧ c ≠ 'E' :=
    fun inside => ⟨digit_isNumberChar (digits_isDigit c inside), (digit_plain (digits_isDigit c inside)).2⟩
  unfold intText at member
  split at member
  · rcases List.mem_cons.mp member with rfl | inside
    · decide
    · exact digits inside
  · exact digits member

theorem intText_nonempty (n : Int) : intText n ≠ [] := by
  unfold intText
  split
  · exact List.cons_ne_nil _ _
  · exact Nat.toDigits_ne_nil

theorem splitDecimal_digits (n : Nat) : splitDecimal (Nat.toDigits 10 n) =
    splitWhole false (Nat.toDigits 10 n) := by
  unfold splitDecimal
  split
  · rename_i rest same
    have dash : '-' ∈ Nat.toDigits 10 n := by
      rw [same]
      exact List.mem_cons_self
    exact absurd rfl (digit_plain (digits_isDigit _ dash)).1
  · rfl

theorem parseNumber_intText (n : Int) : parseNumber (intText n) = some (.int n) := by
  have chars := intText_chars n
  have whole : isFloatText (intText n) ≠ true := by
    intro valid
    simp only [isFloatText, Bool.and_eq_true, List.any_eq_true, Bool.or_eq_true,
      decide_eq_true_eq] at valid
    obtain ⟨⟨_, c, member, mark⟩, _⟩ := valid
    have plain := chars c member
    tauto
  unfold parseNumber
  rw [dif_neg whole]
  unfold intText
  split
  · rw [splitDecimal, splitWhole_toDigits]
    simp only [Option.map_some, Nat.ofDigitChars_ten_toDigits, if_true, Option.some.injEq, int.injEq]
    rename_i negative
    rw [Int.ofNat_natAbs_of_nonpos negative.le, Int.neg_neg]
  · rw [splitDecimal_digits, splitWhole_toDigits]
    simp only [Option.map_some, Nat.ofDigitChars_ten_toDigits, Bool.false_eq_true, if_false,
      Option.some.injEq, int.injEq]
    rename_i nonnegative
    exact Int.natAbs_of_nonneg (not_lt.mp nonnegative)

theorem parseNumber_float (value : FloatText) : parseNumber value.text = some (.float value) := by
  unfold parseNumber
  rw [dif_pos value.valid]

theorem float_chars (value : FloatText) : ∀ c ∈ value.text, isNumberChar c = true := by
  have valid := value.valid
  simp only [isFloatText, Bool.and_eq_true, List.all_eq_true] at valid
  exact valid.1.1

theorem float_nonempty (value : FloatText) : value.text ≠ [] := by
  intro empty
  have valid := value.valid
  rw [empty] at valid
  cases valid

theorem isNumberChar_plain {c : Char} (number : isNumberChar c = true) :
    c ≠ '"' ∧ c ≠ '[' ∧ c ≠ '{' ∧ c ≠ 'n' ∧ c ≠ 't' ∧ c ≠ 'f' ∧ c ≠ ']' ∧ c ≠ '}' ∧
      c ≠ ' ' ∧ c ≠ '\t' ∧ c ≠ '\n' ∧ c ≠ '\r' := by
  refine ⟨?_, ?_, ?_, ?_, ?_, ?_, ?_, ?_, ?_, ?_, ?_, ?_⟩ <;> (rintro rfl; revert number; decide)

theorem parseValue_number {token rest : List Char} {value : Json} (fuel : Nat)
    (chars : ∀ c ∈ token, isNumberChar c = true) (nonempty : token ≠ [])
    (parsed : parseNumber token = some value) (stop : stops rest) :
    parseValue (fuel + 1) (token ++ rest) = some (value, rest) := by
  obtain ⟨taken, dropped⟩ := takeWhile_stops chars stop
  cases token with
  | nil => exact absurd rfl nonempty
  | cons c token =>
    have plain := isNumberChar_plain (chars c List.mem_cons_self)
    rw [List.cons_append] at taken dropped ⊢
    rw [parseValue, if_neg plain.1, if_neg plain.2.1, if_neg plain.2.2.1, if_neg plain.2.2.2.1,
      if_neg plain.2.2.2.2.1, if_neg plain.2.2.2.2.2.1, taken, dropped, parsed]
    rfl

/-- The text starts with a character that is neither blank nor a closing bracket. -/
def opens (text : List Char) : Prop :=
  ∃ c rest, text = c :: rest ∧ c ≠ ']' ∧ c ≠ '}' ∧ c ≠ ' ' ∧ c ≠ '\t' ∧ c ≠ '\n' ∧ c ≠ '\r'

theorem opens_append {text : List Char} (open_ : opens text) (rest : List Char) : opens (text ++ rest) := by
  obtain ⟨c, tail, rfl, plain⟩ := open_
  exact ⟨c, tail ++ rest, rfl, plain⟩

theorem opens_number {token : List Char} (chars : ∀ c ∈ token, isNumberChar c = true) (nonempty : token ≠ []) :
    opens token := by
  cases token with
  | nil => exact absurd rfl nonempty
  | cons c token =>
    have plain := isNumberChar_plain (chars c List.mem_cons_self)
    exact ⟨c, token, rfl, by tauto⟩

theorem opens_dumps (value : Json) : opens (dumps value) := by
  cases value with
  | null => exact ⟨'n', _, rfl, by decide⟩
  | bool value => cases value
                  · exact ⟨'f', _, rfl, by decide⟩
                  · exact ⟨'t', _, rfl, by decide⟩
  | int value => exact opens_number (fun c member => (intText_chars value c member).1) (intText_nonempty value)
  | float value => exact opens_number (float_chars value) (float_nonempty value)
  | str value => exact ⟨'"', _, rfl, by decide⟩
  | arr items => exact ⟨'[', _, rfl, by decide⟩
  | obj fields => exact ⟨'\x7b', _, rfl, by decide⟩

theorem skipSpace_opens {text : List Char} (open_ : opens text) : skipSpace text = text := by
  obtain ⟨c, rest, rfl, plain⟩ := open_
  rw [skipSpace, if_neg (by tauto)]

theorem expect_other {c d : Char} (rest : List Char) (other : d ≠ c) : expect c (d :: rest) = none := by
  rw [expect, if_neg other]

theorem expect_same (c : Char) (rest : List Char) : expect c (c :: rest) = some rest := by
  rw [expect, if_pos rfl]

theorem skipSpace_mark {c : Char} (rest : List Char)
    (mark : c ≠ ' ' ∧ c ≠ '\t' ∧ c ≠ '\n' ∧ c ≠ '\r') : skipSpace (c :: rest) = c :: rest := by
  rw [skipSpace, if_neg (by tauto)]

/-- The text of the value is read back as the canonical value. -/
def Reads (value : Json) : Prop :=
  ∀ rest fuel, stops rest → 2 * (dumps value).length ≤ fuel →
    parseValue fuel (dumps value ++ rest) = some (canonical value, rest)

theorem dumps_length_pos (value : Json) : 0 < (dumps value).length := by
  obtain ⟨c, rest, same, _⟩ := opens_dumps value
  rw [same]
  exact Nat.succ_pos _

theorem stops_mark {c : Char} (rest : List Char) (mark : isNumberChar c = false) : stops (c :: rest) := by
  intro d head
  cases head
  exact mark

theorem opens_joinComma {text : List Char} (open_ : opens text) (rest : List (List Char)) :
    opens (joinComma (text :: rest)) := by
  cases rest with
  | nil => exact open_
  | cons next rest => exact opens_append open_ _

theorem parseItems_reads {items : List Json} (nonempty : items ≠ []) (reads : ∀ item ∈ items, Reads item)
    (rest : List Char) {fuel : Nat} (enough : 2 * (joinComma (items.map dumps)).length + 1 ≤ fuel) :
    parseItems fuel (joinComma (items.map dumps) ++ ']' :: rest) = some (items.map canonical, rest) := by
  induction items generalizing fuel with
  | nil => exact absurd rfl nonempty
  | cons item items ih =>
    obtain ⟨fuel, rfl⟩ : ∃ less, fuel = less + 1 := ⟨fuel - 1, by omega⟩
    have first := reads item List.mem_cons_self
    cases items with
    | nil =>
      simp only [List.map_cons, List.map_nil, joinComma] at enough ⊢
      rw [parseItems, first (']' :: rest) fuel (stops_mark _ (by decide)) (by omega)]
      simp only [Option.bind_eq_bind, Option.bind_some, skipSpace_mark rest (c := ']') (by decide),
        expect_other rest (show ']' ≠ ',' by decide), expect_same]
    | cons next items =>
      have tail := fun enough => @ih (List.cons_ne_nil _ _)
        (fun other member => reads other (List.mem_cons_of_mem _ member)) fuel enough
      have open_ := opens_append (opens_joinComma (opens_dumps next) (items.map dumps)) (']' :: rest)
      simp only [List.map_cons, joinComma, List.length_append, List.length_cons] at enough tail ⊢
      rw [parseItems, List.append_assoc, List.cons_append,
        first _ fuel (stops_mark _ (by decide)) (by omega)]
      simp only [Option.bind_eq_bind, Option.bind_some, skipSpace_mark _ (c := ',') (by decide), expect_same,
        skipSpace_opens open_, tail (by omega)]

theorem parseFields_reads {fields : List (String × Json)} (nonempty : fields ≠ [])
    (reads : ∀ field ∈ fields, Reads field.2) (rest : List Char) {fuel : Nat}
    (enough : 2 * (joinComma (fields.map fun field => quote field.1 ++ ':' :: dumps field.2)).length + 1 ≤ fuel) :
    parseFields fuel (joinComma (fields.map fun field => quote field.1 ++ ':' :: dumps field.2) ++
        '\x7d' :: rest) = some (fields.map fun field => (field.1, canonical field.2), rest) := by
  induction fields generalizing fuel with
  | nil => exact absurd rfl nonempty
  | cons field fields ih =>
    obtain ⟨fuel, rfl⟩ : ∃ less, fuel = less + 1 := ⟨fuel - 1, by omega⟩
    have first := reads field List.mem_cons_self
    have key_text : ∀ after, quote field.1 ++ after =
        '"' :: (field.1.toList.flatMap escapeChar ++ '"' :: after) := by
      intro after
      simp [quote]
    cases fields with
    | nil =>
      simp only [List.map_cons, List.map_nil, joinComma, List.length_append, List.length_cons] at enough ⊢
      rw [parseFields, List.append_assoc, List.cons_append, key_text]
      simp only [Option.bind_eq_bind, expect_same, Option.bind_some, parseChars_quote,
        skipSpace_mark _ (c := ':') (by decide), skipSpace_opens (opens_append (opens_dumps field.2) _)]
      rw [first _ fuel (stops_mark _ (by decide)) (by omega)]
      simp only [Option.bind_some, skipSpace_mark _ (c := '\x7d') (by decide),
        expect_other rest (show '\x7d' ≠ ',' by decide), expect_same, String.ofList_toList]
    | cons next fields =>
      have tail := fun enough => @ih (List.cons_ne_nil _ _)
        (fun other member => reads other (List.mem_cons_of_mem _ member)) fuel enough
      have next_open : opens (quote next.1 ++ ':' :: dumps next.2) := ⟨'"', _, rfl, by decide⟩
      have open_ := opens_append (opens_joinComma next_open
        (fields.map fun field => quote field.1 ++ ':' :: dumps field.2)) ('\x7d' :: rest)
      simp only [List.map_cons, joinComma, List.length_append, List.length_cons] at enough tail ⊢
      rw [parseFields, List.append_assoc, List.append_assoc, List.cons_append, List.cons_append, key_text]
      simp only [Option.bind_eq_bind, expect_same, Option.bind_some, parseChars_quote,
        skipSpace_mark _ (c := ':') (by decide), skipSpace_opens (opens_append (opens_dumps field.2) _)]
      rw [first _ fuel (stops_mark _ (by decide)) (by omega)]
      simp only [Option.bind_some, skipSpace_mark _ (c := ',') (by decide), expect_same,
        skipSpace_opens open_, tail (by omega), String.ofList_toList]

theorem literal_reads (expected : List Char) (value : Json) (rest : List Char) :
    literal expected value (expected ++ rest) = some (value, rest) := by
  unfold literal
  rw [if_pos (by simp), List.drop_left]

theorem reads_number {value : Json} (chars : ∀ c ∈ dumps value, isNumberChar c = true)
    (parsed : parseNumber (dumps value) = some (canonical value)) : Reads value := by
  intro rest fuel stop enough
  have some_char := dumps_length_pos value
  obtain ⟨fuel, rfl⟩ : ∃ less, fuel = less + 1 := ⟨fuel - 1, by omega⟩
  exact parseValue_number fuel chars (List.length_pos_iff.mp some_char) parsed stop

theorem reads_arr {items : List Json} (reads : ∀ item ∈ items, Reads item) : Reads (.arr items) := by
  intro rest fuel _ enough
  have text : dumps (.arr items) ++ rest = '[' :: (joinComma (items.map dumps) ++ ']' :: rest) := by
    simp [dumps]
  have width : (dumps (.arr items)).length = (joinComma (items.map dumps)).length + 2 := by
    simp [dumps]
  obtain ⟨fuel, rfl⟩ : ∃ less, fuel = less + 1 := ⟨fuel - 1, by omega⟩
  rw [text, parseValue, if_neg (by decide), if_pos rfl, canonical, canonicalItems_eq_map]
  cases items with
  | nil =>
    simp only [List.map_nil, joinComma, List.nil_append, skipSpace_mark rest (c := ']') (by decide),
      expect_same]
  | cons item items =>
    have open_ := opens_append (opens_joinComma (opens_dumps item) (items.map dumps)) (']' :: rest)
    have parsed := @parseItems_reads _ (List.cons_ne_nil _ _) reads rest fuel (by omega)
    rw [List.map_cons] at parsed ⊢
    rw [skipSpace_opens open_, parsed]
    obtain ⟨c, tail, same, plain⟩ := open_
    rw [same, expect_other tail plain.1]
    rfl

theorem reads_obj {fields : List (String × Json)} (nodup : (fieldNames fields).Nodup)
    (reads : ∀ field ∈ fields, Reads field.2) : Reads (.obj fields) := by
  intro rest fuel _ enough
  have sorted : (sortFields (dumpsFields fields)).map fieldText =
      (sortFields fields).map fun field => quote field.1 ++ ':' :: dumps field.2 := by
    rw [dumpsFields_eq_map, sortFields_map, List.map_map]
    rfl
  have text : dumps (.obj fields) ++ rest = '\x7b' :: (joinComma ((sortFields fields).map
      fun field => quote field.1 ++ ':' :: dumps field.2) ++ '\x7d' :: rest) := by
    rw [dumps, sorted]
    simp
  have width : (dumps (.obj fields)).length = (joinComma ((sortFields fields).map
      fun field => quote field.1 ++ ':' :: dumps field.2)).length + 2 := by
    rw [dumps, sorted]
    simp
  have result : canonical (.obj fields) =
      .obj ((sortFields fields).map fun field => (field.1, canonical field.2)) := by
    rw [canonical, canonicalFields_eq_map, sortFields_map]
  have sorted_reads : ∀ field ∈ sortFields fields, Reads field.2 :=
    fun field member => reads field (mem_sortFields.mp member)
  have unique : (fieldNames ((sortFields fields).map fun field => (field.1, canonical field.2))).Nodup := by
    have names : fieldNames ((sortFields fields).map fun field => (field.1, canonical field.2)) =
        fieldNames (sortFields fields) := by simp [fieldNames, Function.comp_def]
    rw [names]
    exact (fieldNames_sortFields fields).nodup_iff.mpr nodup
  obtain ⟨fuel, rfl⟩ : ∃ less, fuel = less + 1 := ⟨fuel - 1, by omega⟩
  rw [text, parseValue, if_neg (by decide), if_neg (by decide), if_pos rfl, result]
  generalize sortFields fields = ordered at width sorted_reads unique
  cases ordered with
  | nil =>
    simp only [List.map_nil, joinComma, List.nil_append, skipSpace_mark rest (c := '\x7d') (by decide),
      expect_same]
  | cons field ordered =>
    have key_open : opens (quote field.1 ++ ':' :: dumps field.2) := ⟨'"', _, rfl, by decide⟩
    have open_ := opens_append (opens_joinComma key_open
      (ordered.map fun field => quote field.1 ++ ':' :: dumps field.2)) ('\x7d' :: rest)
    have parsed := @parseFields_reads _ (List.cons_ne_nil _ _) sorted_reads rest fuel (by omega)
    rw [List.map_cons] at parsed ⊢
    rw [skipSpace_opens open_, parsed]
    obtain ⟨c, tail, same, plain⟩ := open_
    rw [same, expect_other tail plain.2.1]
    simp only [Option.bind_eq_bind, Option.bind_some]
    rw [if_pos unique]

/-- Every value whose objects have no repeated key is read back, its objects in
    key order. -/
theorem reads_wellKeyed (value : Json) : wellKeyed value = true → Reads value := by
  induction value using Json.induction with
  | null =>
    intro _ rest fuel _ enough
    obtain ⟨fuel, rfl⟩ : ∃ less, fuel = less + 1 := ⟨fuel - 1, by simp [dumps] at enough; omega⟩
    exact literal_reads "null".toList .null rest
  | bool value =>
    intro _ rest fuel _ enough
    cases value with
    | false =>
      obtain ⟨fuel, rfl⟩ : ∃ less, fuel = less + 1 := ⟨fuel - 1, by simp [dumps] at enough; omega⟩
      exact literal_reads "false".toList (.bool false) rest
    | true =>
      obtain ⟨fuel, rfl⟩ : ∃ less, fuel = less + 1 := ⟨fuel - 1, by simp [dumps] at enough; omega⟩
      exact literal_reads "true".toList (.bool true) rest
  | int value =>
    intro _
    exact reads_number (fun c member => (intText_chars value c member).1) (parseNumber_intText value)
  | float value =>
    intro _
    exact reads_number (float_chars value) (parseNumber_float value)
  | str value =>
    intro _ rest fuel _ enough
    obtain ⟨fuel, rfl⟩ : ∃ less, fuel = less + 1 := ⟨fuel - 1, by simp [dumps, quote] at enough; omega⟩
    have text : dumps (.str value) ++ rest = '"' :: (value.toList.flatMap escapeChar ++ '"' :: rest) := by
      simp [dumps, quote]
    rw [text, parseValue, if_pos rfl, parseChars_quote]
    simp [canonical]
  | arr items ih =>
    intro keyed
    rw [wellKeyed, wellKeyedItems_iff] at keyed
    exact reads_arr fun item member => ih item member (keyed item member)
  | obj fields ih =>
    intro keyed
    rw [wellKeyed, Bool.and_eq_true, decide_eq_true_eq, wellKeyedFields_iff] at keyed
    exact reads_obj keyed.1 fun field member => ih field member (keyed.2 field member)

def Ascii (text : List Char) : Prop := ∀ c ∈ text, c.toNat < 128

theorem Ascii.append {left right : List Char} (first : Ascii left) (second : Ascii right) :
    Ascii (left ++ right) := by
  intro c member
  rcases List.mem_append.mp member with inside | inside
  · exact first c inside
  · exact second c inside

theorem Ascii.cons {c : Char} {text : List Char} (head : c.toNat < 128) (tail : Ascii text) :
    Ascii (c :: text) := by
  intro d member
  rcases List.mem_cons.mp member with rfl | inside
  · exact head
  · exact tail d inside

theorem ascii_nil : Ascii [] := fun _ member => by cases member

theorem ascii_of_all {text : List Char} (small : text.all (fun c => decide (c.toNat < 128)) = true) :
    Ascii text := by
  intro c member
  exact of_decide_eq_true (List.all_eq_true.mp small c member)

theorem hexDigit_ascii : ∀ n < 16, (hexDigit n).toNat < 128 := by decide

theorem unicodeEscape_ascii (n : Nat) : Ascii (unicodeEscape n) := by
  have digit : ∀ m, (hexDigit (m % 16)).toNat < 128 := fun m => hexDigit_ascii _ (Nat.mod_lt _ (by decide))
  exact .cons (by decide) (.cons (by decide) (.cons (digit _) (.cons (digit _) (.cons (digit _)
    (.cons (digit _) ascii_nil)))))

theorem escapeChar_ascii (c : Char) : Ascii (escapeChar c) := by
  have shape := escapeChar_shape c
  generalize escapeChar c = text at shape ⊢
  cases shape with
  | plain printable => exact .cons (by omega) ascii_nil
  | quoted => exact ascii_of_all (by decide)
  | letter d listed =>
    have small : ['\\', 'n', 'r', 't', 'f', 'b'].all (fun d => decide (d.toNat < 128)) = true := by decide
    exact .cons (by decide) (.cons (of_decide_eq_true (List.all_eq_true.mp small d listed)) ascii_nil)
  | unit n => exact unicodeEscape_ascii n
  | pair high low => exact (unicodeEscape_ascii high).append (unicodeEscape_ascii low)

theorem quote_ascii (text : String) : Ascii (quote text) := by
  refine .cons (by decide) (.append ?_ (.cons (by decide) ascii_nil))
  intro c member
  obtain ⟨source, _, inside⟩ := List.mem_flatMap.mp member
  exact escapeChar_ascii source c inside

theorem isNumberChar_ascii {c : Char} (number : isNumberChar c = true) : c.toNat < 128 := by
  simp only [isNumberChar, Bool.or_eq_true, decide_eq_true_eq] at number
  rcases number with ((((digit | rfl) | rfl) | rfl) | rfl) | rfl
  · exact (Char.isDigit_iff_toNat.mp digit).2.trans_lt (by decide)
  all_goals decide

theorem joinComma_ascii {texts : List (List Char)} (all : ∀ text ∈ texts, Ascii text) :
    Ascii (joinComma texts) := by
  induction texts with
  | nil => exact ascii_nil
  | cons text texts ih =>
    have first := all text List.mem_cons_self
    cases texts with
    | nil => exact first
    | cons next texts =>
      exact first.append (.cons (by decide) (ih fun other member => all other (List.mem_cons_of_mem _ member)))

theorem dumps_ascii (value : Json) : Ascii (dumps value) := by
  induction value using Json.induction with
  | null => exact ascii_of_all (by decide)
  | bool value => cases value <;> exact ascii_of_all (by decide)
  | int value => exact fun c member => isNumberChar_ascii (intText_chars value c member).1
  | float value => exact fun c member => isNumberChar_ascii (float_chars value c member)
  | str value => exact quote_ascii value
  | arr items ih =>
    refine .cons (by decide) (.append (joinComma_ascii ?_) (.cons (by decide) ascii_nil))
    intro text member
    rw [dumpsItems_eq_map] at member
    obtain ⟨item, inside, rfl⟩ := List.mem_map.mp member
    exact ih item inside
  | obj fields ih =>
    refine .cons (by decide) (.append (joinComma_ascii ?_) (.cons (by decide) ascii_nil))
    intro text member
    rw [dumpsFields_eq_map, sortFields_map, List.map_map] at member
    obtain ⟨field, inside, rfl⟩ := List.mem_map.mp member
    exact (quote_ascii field.1).append (.cons (by decide) (ih field (mem_sortFields.mp inside)))

theorem loads_dumps {value : Json} (keyed : wellKeyed value = true) :
    loads (dumps value) = some (canonical value) := by
  have parsed := reads_wellKeyed value keyed [] (2 * (dumps value).length + 2) (by simp [stops]) (by omega)
  rw [List.append_nil] at parsed
  unfold loads
  rw [skipSpace_opens (opens_dumps value), parsed]
  rfl

end Lib.Json
