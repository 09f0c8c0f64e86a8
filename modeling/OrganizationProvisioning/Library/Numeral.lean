/-
**Numerals as text, and back.**

* `parseInt` — the optional sign and the decimal digits of an integer; `parseInt_toString` — reading
  back what `toString` prints. `parseBounded` — the same inside a machine range.
* `positiveDecimal` — a decimal text without leading zeros; `positiveDecimal_toString` — that of a
  positive integer is one.
* `hexDigits`, `readHex` — a fixed number of hexadecimal digits, most significant first.
* `hyphenated`, `readHyphenated` — hexadecimal digits in groups separated by hyphens;
  `readHyphenated_hyphenated` — reading them back.
-/
import Mathlib.Tactic.Ring
import Mathlib.Data.Nat.Basic

namespace Numeral

/-! ### Decimal integers -/

/-- A nonempty run of decimal digits. -/
def parseDigits (digits : List Char) : Option Nat :=
  if digits ≠ [] ∧ digits.all Char.isDigit then some (Nat.ofDigitChars 10 digits 0) else none

/-- An integer with an optional sign. -/
def parseInt (text : String) : Option Int :=
  match text.toList with
  | '-' :: digits => (parseDigits digits).map fun value => -Int.ofNat value
  | '+' :: digits => (parseDigits digits).map Int.ofNat
  | digits => (parseDigits digits).map Int.ofNat

/-- An integer of a machine range. -/
def parseBounded (least greatest : Int) (text : String) : Option Int :=
  (parseInt text).filter fun value => least ≤ value ∧ value ≤ greatest

theorem parseDigits_toDigits (value : Nat) : parseDigits (Nat.toDigits 10 value) = some value := by
  unfold parseDigits
  rw [if_pos, Nat.ofDigitChars_ten_toDigits]
  refine ⟨Nat.toDigits_ne_nil, List.all_eq_true.mpr fun digit member => ?_⟩
  exact Nat.isDigit_of_mem_toDigits (by omega) (by omega) member

theorem parseInt_natCast (value : Nat) : parseInt (toString value) = some (value : Int) := by
  have digits : (toString value).toList = Nat.toDigits 10 value := Nat.toList_repr
  have first : ∀ digit ∈ Nat.toDigits 10 value, digit.isDigit := fun digit member =>
    Nat.isDigit_of_mem_toDigits (by omega) (by omega) member
  unfold parseInt
  rw [digits]
  split
  · rename_i rest shape
    have impossible := first '-' (by rw [shape]; exact List.mem_cons_self)
    exact absurd impossible (by decide)
  · rename_i rest shape
    have impossible := first '+' (by rw [shape]; exact List.mem_cons_self)
    exact absurd impossible (by decide)
  · rw [parseDigits_toDigits, Option.map_some]
    rfl

/-- **An integer is read back from its decimal text.** -/
theorem parseInt_toString (value : Int) : parseInt (toString value) = some value := by
  cases value with
  | ofNat value => exact parseInt_natCast value
  | negSucc value =>
    have text : (toString (Int.negSucc value)).toList = '-' :: Nat.toDigits 10 (value + 1) := by
      show ("-" ++ Nat.repr (value + 1)).toList = _
      rw [String.toList_append, Nat.toList_repr]
      rfl
    unfold parseInt
    rw [text]
    show (parseDigits (Nat.toDigits 10 (value + 1))).map _ = _
    rw [parseDigits_toDigits, Option.map_some]
    rfl

theorem parseBounded_toString {least greatest value : Int} (low : least ≤ value)
    (high : value ≤ greatest) : parseBounded least greatest (toString value) = some value := by
  unfold parseBounded
  rw [parseInt_toString, Option.filter_some, if_pos]
  simp [low, high]

/-- A number read in a range is in the range. -/
theorem parseBounded_range {least greatest value : Int} {text : String}
    (parsed : parseBounded least greatest text = some value) : least ≤ value ∧ value ≤ greatest :=
  of_decide_eq_true (Option.filter_eq_some_iff.mp parsed).2

/-- `^[1-9][0-9]*$`. -/
def positiveDecimal : List Char → Bool
  | [] => false
  | first :: rest => first.isDigit && first ≠ '0' && rest.all Char.isDigit

/-- A digit behind a positive decimal leaves it one. -/
theorem positiveDecimal_append {digits : List Char} {digit : Char}
    (positive : positiveDecimal digits = true) (isDigit : digit.isDigit = true) :
    positiveDecimal (digits ++ [digit]) = true := by
  cases digits with
  | nil => cases positive
  | cons first rest =>
    unfold positiveDecimal at positive
    rw [Bool.and_eq_true] at positive
    rw [List.cons_append, positiveDecimal, positive.1, List.all_append, positive.2, List.all_cons,
      isDigit]
    rfl

/-- **The decimal text of a positive number has no leading zero.** -/
theorem positiveDecimal_toDigits (value : Nat) (positive : 0 < value) :
    positiveDecimal (Nat.toDigits 10 value) = true := by
  induction value using Nat.strongRecOn with
  | ind value ih =>
    by_cases small : value < 10
    · rw [Nat.toDigits_of_lt_base small]
      have each : ∀ digit : Fin 10, 0 < digit.val →
          positiveDecimal [digit.val.digitChar] = true := by decide
      exact each ⟨value, small⟩ positive
    · rw [Nat.toDigits_of_base_le (by omega) (by omega)]
      refine positiveDecimal_append (ih (value / 10) (by omega) (by omega)) ?_
      rw [Nat.isDigit_digitChar]
      exact decide_eq_true (Nat.mod_lt value (by omega))

theorem positiveDecimal_toString {value : Int} (positive : 0 < value) :
    positiveDecimal (toString value).toList = true := by
  obtain ⟨value, rfl⟩ := Int.eq_ofNat_of_zero_le positive.le
  have digits : (toString (value : Int)).toList = Nat.toDigits 10 value := Nat.toList_repr
  rw [digits]
  exact positiveDecimal_toDigits value (by omega)

/-! ### Hexadecimal groups -/

/-- The text of one hexadecimal digit. -/
def hexChar (digit : Nat) : Char :=
  if digit < 10 then Char.ofNat (48 + digit) else Char.ofNat (87 + digit)

/-- The value of one hexadecimal digit, in either case. -/
def hexValue (digit : Char) : Option Nat :=
  if '0' ≤ digit ∧ digit ≤ '9' then some (digit.toNat - 48)
  else if 'a' ≤ digit ∧ digit ≤ 'f' then some (digit.toNat - 87)
  else if 'A' ≤ digit ∧ digit ≤ 'F' then some (digit.toNat - 55)
  else none

/-- The low `width` hexadecimal digits of a number, most significant first. -/
def hexDigits : Nat → Nat → List Char
  | 0, _ => []
  | width + 1, value => hexChar (value / 16 ^ width % 16) :: hexDigits width value

/-- Read `width` hexadecimal digits behind the value read so far. -/
def readHex : Nat → Nat → List Char → Option (Nat × List Char)
  | 0, sofar, rest => some (sofar, rest)
  | _ + 1, _, [] => none
  | width + 1, sofar, digit :: rest =>
      (hexValue digit).bind fun value => readHex width (16 * sofar + value) rest

theorem hexValue_hexChar (digit : Nat) (small : digit < 16) :
    hexValue (hexChar digit) = some digit := by
  have each : ∀ digit : Fin 16, hexValue (hexChar digit.val) = some digit.val := by decide
  exact each ⟨digit, small⟩

theorem readHex_hexDigits (width value : Nat) : ∀ (sofar : Nat) (rest : List Char),
    readHex width sofar (hexDigits width value ++ rest) =
      some (16 ^ width * sofar + value % 16 ^ width, rest) := by
  induction width with
  | zero => intro sofar rest; simp [readHex, hexDigits, Nat.mod_one]
  | succ width ih =>
    intro sofar rest
    rw [hexDigits, List.cons_append, readHex, hexValue_hexChar _ (Nat.mod_lt _ (by omega)),
      Option.bind_some, ih]
    congr 2
    rw [pow_succ, Nat.mod_mul]
    ring

/-- Hexadecimal digits in groups of the given widths, separated by hyphens. -/
def hyphenated : List Nat → Nat → List Char
  | [], _ => []
  | [width], value => hexDigits width value
  | width :: next :: widths, value =>
      hexDigits width (value / 16 ^ (next :: widths).sum) ++ '-' :: hyphenated (next :: widths) value

/-- Read hyphen-separated groups; nothing may follow the last one. -/
def readHyphenated : List Nat → Nat → List Char → Option Nat
  | [], sofar, text => if text = [] then some sofar else none
  | [width], sofar, text =>
      (readHex width sofar text).bind fun (value, rest) => if rest = [] then some value else none
  | width :: next :: widths, sofar, text =>
      (readHex width sofar text).bind fun (value, rest) =>
        match rest with
        | '-' :: rest => readHyphenated (next :: widths) value rest
        | _ => none

/-- **Grouped hexadecimal digits are read back.** -/
theorem readHyphenated_hyphenated (widths : List Nat) (value : Nat) : ∀ sofar : Nat,
    readHyphenated widths sofar (hyphenated widths value) =
      some (16 ^ widths.sum * sofar + value % 16 ^ widths.sum) := by
  induction widths with
  | nil => intro sofar; simp [readHyphenated, hyphenated, Nat.mod_one]
  | cons width widths ih =>
    intro sofar
    cases widths with
    | nil =>
      have read := readHex_hexDigits width value sofar []
      rw [List.append_nil] at read
      simp [readHyphenated, hyphenated, read]
    | cons next widths =>
      rw [hyphenated, readHyphenated, readHex_hexDigits, Option.bind_some]
      simp only
      rw [ih]
      congr 1
      rw [show (width :: next :: widths).sum = (next :: widths).sum + width by
        rw [List.sum_cons]; omega]
      generalize (next :: widths).sum = low
      rw [pow_add, Nat.mod_mul]
      ring

end Numeral
