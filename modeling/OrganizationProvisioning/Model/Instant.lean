/-
**Instants read back from their texts.**

* `dayNumber` — the day count of a date; `dayNumber_civilDate` — of the date of a day count.
* `formatTime_isSome` — the instants with a text are those of years 0 to 9999.
* `readTime` — an RFC 3339 text in UTC, as nanoseconds since the epoch; `readTime_formatTime` — the text
  of an instant is read back exactly.
-/
import OrganizationProvisioning.Model.Storage
import Mathlib.Tactic.IntervalCases

namespace OrganizationProvisioning

open Numeral

/-! ### Dates -/

/-- The day count since the epoch of a date. -/
def dayNumber (year : Int) (month day : Nat) : Int :=
  let shifted := if month ≤ 2 then year - 1 else year
  let yearOfEra := (shifted % 400).toNat
  let marchMonth := if month ≤ 2 then month + 9 else month - 3
  let dayOfYear := (153 * marchMonth + 2) / 5 + day - 1
  shifted / 400 * 146097 + (365 * yearOfEra + yearOfEra / 4 - yearOfEra / 100 + dayOfYear : Nat) -
    719468

/-- The year of a day of an era: the leap days before it are those the division discounts, up to the
day it falls on. -/
theorem yearOfEra_bounds {day century cycle leap year fourth hundredth : Nat} (small : day < 146097)
    (centuries : century = day / 36524) (cycles : cycle = day / 146096) (leaps : leap = day / 1460)
    (years : year = (day - leap + century - cycle) / 365) (fourths : fourth = year / 4)
    (hundredths : hundredth = year / 100) :
    365 * year + fourth - hundredth ≤ day ∧ day - (365 * year + fourth - hundredth) ≤ 365 ∧
      year ≤ 399 := by
  have leapsMany : 25 * century ≤ leap := by omega
  have yearsMany : 100 * (century - cycle) ≤ year := by omega
  have yearsFew : year ≤ 399 := by omega
  have cyclesFew : cycle ≤ century := by omega
  have centuriesFew : century ≤ 4 := by omega
  have fourthsFew : fourth ≤ leap := by
    clear hundredths hundredth
    omega
  have leapsFew : leap ≤ fourth + 1 := by
    clear hundredths hundredth
    omega
  have hundredthsMany : century - cycle ≤ hundredth := by omega
  have hundredthsFew : hundredth ≤ century - cycle := by
    clear fourthsFew leapsFew fourths fourth
    interval_cases century <;> omega
  refine ⟨by omega, ?_, yearsFew⟩
  clear centuries cycles hundredths
  omega

/-- Month and day of the year of a date. -/
theorem month_bounds {dayOfYear : Nat} (small : dayOfYear ≤ 365) :
    (5 * dayOfYear + 2) / 153 ≤ 11 ∧
      (153 * ((5 * dayOfYear + 2) / 153) + 2) / 5 ≤ dayOfYear ∧
      dayOfYear - (153 * ((5 * dayOfYear + 2) / 153) + 2) / 5 ≤ 30 := by
  omega

/-- **A day count is that of its date**, whose month and day are in their ranges. -/
theorem dayNumber_civilDate (days : Int) :
    dayNumber (civilDate days).1 (civilDate days).2.1 (civilDate days).2.2 = days ∧
      1 ≤ (civilDate days).2.1 ∧ (civilDate days).2.1 ≤ 12 ∧
      1 ≤ (civilDate days).2.2 ∧ (civilDate days).2.2 ≤ 31 := by
  unfold civilDate
  simp only
  generalize shiftedEq : days + 719468 = shifted
  generalize dayEq : (shifted % 146097).toNat = day
  have small : day < 146097 := by omega
  obtain ⟨begun, rest, few⟩ := yearOfEra_bounds small rfl rfl rfl rfl rfl rfl
  generalize (day - day / 1460 + day / 36524 - day / 146096) / 365 = year at begun rest few ⊢
  generalize ofYear : day - (365 * year + year / 4 - year / 100) = dayOfYear at rest ⊢
  obtain ⟨months, started, short⟩ := month_bounds rest
  generalize (5 * dayOfYear + 2) / 153 = marchMonth at months started short ⊢
  have shiftedMonth : (if marchMonth < 10 then marchMonth + 3 else marchMonth - 9) ≤ 2 ↔
      10 ≤ marchMonth := by
    split <;> omega
  refine ⟨?_, by split <;> omega, by split <;> omega, by omega, by omega⟩
  unfold dayNumber
  simp only [shiftedMonth]
  have era : (if 10 ≤ marchMonth then
      (year : Int) + shifted / 146097 * 400 + (if 10 ≤ marchMonth then 1 else 0) - 1
      else (year : Int) + shifted / 146097 * 400 + if 10 ≤ marchMonth then 1 else 0) =
        (year : Int) + shifted / 146097 * 400 := by
    split <;> omega
  have march : (if 10 ≤ marchMonth then
      (if marchMonth < 10 then marchMonth + 3 else marchMonth - 9) + 9
      else (if marchMonth < 10 then marchMonth + 3 else marchMonth - 9) - 3) = marchMonth := by
    split <;> split <;> omega
  rw [era, march]
  have yearOfEra : (((year : Int) + shifted / 146097 * 400) % 400).toNat = year := by omega
  have eraOf : ((year : Int) + shifted / 146097 * 400) / 400 = shifted / 146097 := by omega
  rw [yearOfEra, eraOf]
  have whole : 365 * year + year / 4 - year / 100 +
      ((153 * marchMonth + 2) / 5 + (dayOfYear - (153 * marchMonth + 2) / 5 + 1) - 1) = day := by
    omega
  rw [whole]
  omega

/-- **The year of a day count has four digits** from the first day of year 0 to the last of year 9999. -/
theorem year_civilDate (days : Int) :
    0 ≤ (civilDate days).1 ∧ (civilDate days).1 ≤ 9999 ↔ -719528 ≤ days ∧ days ≤ 2932896 := by
  unfold civilDate
  simp only
  generalize shiftedEq : days + 719468 = shifted
  generalize dayEq : (shifted % 146097).toNat = day
  generalize eraEq : shifted / 146097 = era
  have small : day < 146097 := by omega
  have whole : days = era * 146097 + day - 719468 := by omega
  obtain ⟨begun, rest, few⟩ := yearOfEra_bounds small rfl rfl rfl rfl rfl rfl
  generalize (day - day / 1460 + day / 36524 - day / 146096) / 365 = year at begun rest few ⊢
  generalize ofYear : day - (365 * year + year / 4 - year / 100) = dayOfYear at rest ⊢
  have january : (if (5 * dayOfYear + 2) / 153 < 10 then (5 * dayOfYear + 2) / 153 + 3
      else (5 * dayOfYear + 2) / 153 - 9) ≤ 2 ↔ 306 ≤ dayOfYear := by
    split <;> omega
  simp only [january]
  clear january shiftedEq dayEq eraEq
  subst whole
  -- the last year of an era is the one that the bounds cut
  rcases (by omega : year ≤ 398 ∨ year = 399) with early | rfl
  · by_cases turned : 306 ≤ dayOfYear
    · rw [if_pos turned]
      omega
    · rw [if_neg turned]
      rcases (by omega : era ≤ -1 ∨ (0 ≤ era ∧ era ≤ 24) ∨ 25 ≤ era) with past | here | future
      · omega
      · omega
      · omega
  · by_cases turned : 306 ≤ dayOfYear
    · rw [if_pos turned]
      omega
    · rw [if_neg turned]
      omega

/-! ### Texts -/

/-- The first instant of year 0. -/
def yearZero : Timestamp := -62167219200000000

theorem days_of_years (micros : Int) :
    (-719528 ≤ micros / 1000000 / 86400 ∧ micros / 1000000 / 86400 ≤ 2932896) ↔
      -62167219200000000 ≤ micros ∧ micros ≤ 253402300799999999 := by
  omega

/-- **The instants with a text are those of years 0 to 9999.** -/
theorem formatTime_isSome {value : Timestamp} :
    (formatTime value).isSome = true ↔ yearZero ≤ value ∧ value ≤ maxInstant := by
  have years := year_civilDate (value / 1000000 / 86400)
  rw [show yearZero ≤ value ∧ value ≤ maxInstant ↔ _ from (days_of_years value).symm, ← years]
  unfold formatTime
  simp only
  split
  · rename_i four
    exact iff_of_true rfl four
  · rename_i other
    exact iff_of_false (by decide) other

/-- A number of so many decimal digits, and what follows it. -/
def readDigits (width : Nat) (text : List Char) : Option (Nat × List Char) :=
  if width ≤ text.length then
    (parseDigits (text.take width)).map fun value => (value, text.drop width)
  else none

/-- What follows a mark. -/
def readMark (mark : Char) (text : List Char) : Option (List Char) :=
  if text.head? = some mark then some text.tail else none

/-- The nanoseconds of an optional fraction of a second, and what follows it. -/
def readFraction (text : List Char) : Option (Nat × List Char) :=
  if text.head? = some '.' then
    let digits := text.tail.takeWhile Char.isDigit
    if digits = [] then none
    else (parseDigits ((digits ++ List.replicate (9 - digits.length) '0').take 9)).map fun nanos =>
      (nanos, text.tail.dropWhile Char.isDigit)
  else some (0, text)

/-- An RFC 3339 text in UTC, as nanoseconds since the epoch. -/
def readTime (text : String) : Option Int :=
  (readDigits 4 text.toList).bind fun year =>
  (readMark '-' year.2).bind fun rest => (readDigits 2 rest).bind fun month =>
  (readMark '-' month.2).bind fun rest => (readDigits 2 rest).bind fun day =>
  (readMark 'T' day.2).bind fun rest => (readDigits 2 rest).bind fun hour =>
  (readMark ':' hour.2).bind fun rest => (readDigits 2 rest).bind fun minute =>
  (readMark ':' minute.2).bind fun rest => (readDigits 2 rest).bind fun second =>
  (readFraction second.2).bind fun nanos => (readMark 'Z' nanos.2).bind fun rest =>
  if rest = [] ∧ 1 ≤ month.1 ∧ month.1 ≤ 12 ∧ 1 ≤ day.1 ∧ day.1 ≤ 31 ∧ hour.1 < 24 ∧
      minute.1 < 60 ∧ second.1 < 60 then
    some ((dayNumber year.1 month.1 day.1 * 86400 + (hour.1 * 3600 + minute.1 * 60 + second.1 : Nat)) *
      1000000000 + nanos.1)
  else none

example : readTime "2024-02-29T12:34:56.12Z" = some 1709210096120000000 := by decide

theorem readMark_cons (mark : Char) (rest : List Char) : readMark mark (mark :: rest) = some rest := by
  unfold readMark
  rw [List.head?_cons, if_pos rfl, List.tail_cons]

section Padded

variable {width value : Nat}

theorem toList_padded : (padded width value).toList =
    List.replicate (width - (Nat.toDigits 10 value).length) '0' ++ Nat.toDigits 10 value := by
  unfold padded
  rw [String.toList_ofList]

theorem length_padded (positive : 0 < width) (small : value < 10 ^ width) :
    (padded width value).toList.length = width := by
  have fits := (Nat.length_toDigits_le_iff (by decide) positive).mpr small
  rw [toList_padded, List.length_append, List.length_replicate]
  omega

theorem isDigit_padded : ∀ digit ∈ (padded width value).toList, digit.isDigit = true := by
  intro digit member
  rw [toList_padded] at member
  rcases List.mem_append.mp member with zero | other
  · rw [List.eq_of_mem_replicate zero]
    decide
  · exact Nat.isDigit_of_mem_toDigits (by omega) (by omega) other

theorem parseDigits_padded : parseDigits (padded width value).toList = some value := by
  unfold parseDigits
  have some : (padded width value).toList ≠ [] := by
    rw [toList_padded]
    exact List.append_ne_nil_of_right_ne_nil _ Nat.toDigits_ne_nil
  rw [if_pos ⟨some, List.all_eq_true.mpr isDigit_padded⟩, toList_padded, Nat.ofDigitChars_append,
    Nat.ofDigitChars_replicate_zero, Nat.mul_zero, Nat.ofDigitChars_ten_toDigits]

/-- **A padded number is read back.** -/
theorem readDigits_padded (positive : 0 < width) (small : value < 10 ^ width) (rest : List Char) :
    readDigits width ((padded width value).toList ++ rest) = some (value, rest) := by
  have size := length_padded positive small
  unfold readDigits
  rw [if_pos (by rw [List.length_append]; omega), List.take_left' size, List.drop_left' size,
    parseDigits_padded]
  rfl

end Padded

/-- A list is what is left without its last zeros, and the zeros. -/
theorem dropped_zeros (digits : List Char) : ∃ zeros, digits =
    (digits.reverse.dropWhile fun digit => decide (digit = '0')).reverse ++
      List.replicate zeros '0' := by
  have split := List.takeWhile_append_dropWhile (p := fun digit => decide (digit = '0'))
    (l := digits.reverse)
  refine ⟨(digits.reverse.takeWhile fun digit => decide (digit = '0')).length, ?_⟩
  have zeros : digits.reverse.takeWhile (fun digit => decide (digit = '0')) =
      List.replicate (digits.reverse.takeWhile fun digit => decide (digit = '0')).length '0' := by
    refine List.eq_replicate_iff.mpr ⟨rfl, fun digit member => ?_⟩
    exact of_decide_eq_true (List.all_eq_true.mp List.all_takeWhile digit member)
  have reversed := congrArg List.reverse split
  rw [List.reverse_append, zeros, List.reverse_replicate, List.reverse_reverse] at reversed
  exact reversed.symm

/-- **A fraction is read back**, in nanoseconds. -/
theorem readFraction_fraction {micros : Nat} (small : micros < 1000000) (rest : List Char) :
    readFraction ((fraction micros).toList ++ 'Z' :: rest) = some (micros * 1000, 'Z' :: rest) := by
  unfold fraction
  split
  · rename_i none
    subst none
    rfl
  · rename_i positive
    obtain ⟨zeros, shape⟩ := dropped_zeros (padded 6 micros).toList
    generalize (((padded 6 micros).toList.reverse.dropWhile fun digit =>
      decide (digit = '0')).reverse) = digits at shape ⊢
    have size := @length_padded 6 micros (by decide) (by omega)
    rw [shape, List.length_append, List.length_replicate] at size
    have isDigit : ∀ digit ∈ digits, digit.isDigit = true := fun digit member =>
      isDigit_padded digit (by rw [shape]; exact List.mem_append_left _ member)
    have some : digits ≠ [] := by
      rintro rfl
      have value := @parseDigits_padded 6 micros
      rw [shape, List.nil_append] at value
      unfold parseDigits at value
      rw [Nat.ofDigitChars_replicate_zero] at value
      split at value
      · exact positive (Option.some.inj value).symm
      · cases value
    have text : ("." ++ String.ofList digits).toList ++ 'Z' :: rest = '.' :: (digits ++ 'Z' :: rest) := by
      simp
    have taken : (digits ++ 'Z' :: rest).takeWhile Char.isDigit = digits := by
      rw [List.takeWhile_append_of_pos isDigit]
      simp
    have dropped : (digits ++ 'Z' :: rest).dropWhile Char.isDigit = 'Z' :: rest := by
      rw [List.dropWhile_append_of_pos isDigit]
      simp
    have nanos : parseDigits ((digits ++ List.replicate (9 - digits.length) '0').take 9) =
        Option.some (micros * 1000) := by
      have filled : digits ++ List.replicate (9 - digits.length) '0' =
          (padded 6 micros).toList ++ List.replicate 3 '0' := by
        rw [shape, List.append_assoc, List.replicate_append_replicate]
        congr 2
        omega
      have value := @parseDigits_padded 6 micros
      have nine : ((padded 6 micros).toList ++ List.replicate 3 '0').length = 9 := by
        rw [List.length_append, length_padded (by decide) (by omega), List.length_replicate]
      rw [filled, List.take_of_length_le nine.le]
      unfold parseDigits at value ⊢
      split at value
      · rename_i digital
        rw [if_pos, Nat.ofDigitChars_append, Option.some.inj value, Nat.ofDigitChars_replicate_zero,
          Nat.mul_comm]
        refine ⟨List.append_ne_nil_of_left_ne_nil digital.1 _, ?_⟩
        rw [List.all_append, digital.2]
        decide
      · cases value
    rw [text]
    unfold readFraction
    rw [List.head?_cons, if_pos rfl, List.tail_cons]
    simp only [taken, dropped, nanos, if_neg some, Option.map_some]

/-- The characters of a text of date, time and fraction. -/
theorem toList_time {year month day hour minute second : Nat} {part : String} :
    (padded 4 year ++ "-" ++ padded 2 month ++ "-" ++ padded 2 day ++ "T" ++ padded 2 hour ++ ":" ++
      padded 2 minute ++ ":" ++ padded 2 second ++ part ++ "Z").toList =
    (padded 4 year).toList ++ '-' :: ((padded 2 month).toList ++ '-' :: ((padded 2 day).toList ++
      'T' :: ((padded 2 hour).toList ++ ':' :: ((padded 2 minute).toList ++
        ':' :: ((padded 2 second).toList ++ (part.toList ++ ['Z'])))))) := by
  simp

/-- **The text of an instant is read back exactly.** -/
theorem readTime_formatTime {value : Timestamp} {text : String}
    (formatted : formatTime value = some text) : readTime text = some (value * 1000) := by
  unfold formatTime at formatted
  simp only at formatted
  generalize daysEq : value / 1000000 / 86400 = days at formatted
  obtain ⟨number, monthMany, monthFew, dayMany, dayFew⟩ := dayNumber_civilDate days
  generalize civilDate days = date at formatted number monthMany monthFew dayMany dayFew
  obtain ⟨year, month, day⟩ := date
  simp only at formatted number monthMany monthFew dayMany dayFew
  split at formatted
  · rename_i four
    rw [← Option.some.inj formatted]
    generalize secondEq : (value / 1000000 % 86400).toNat = second
    have inDay : second < 86400 := by omega
    unfold readTime
    rw [toList_time, readDigits_padded (by decide) (by omega), Option.bind_some, readMark_cons,
      Option.bind_some, readDigits_padded (by decide) (by omega), Option.bind_some, readMark_cons,
      Option.bind_some, readDigits_padded (by decide) (by omega), Option.bind_some, readMark_cons,
      Option.bind_some, readDigits_padded (by decide) (by omega), Option.bind_some, readMark_cons,
      Option.bind_some, readDigits_padded (by decide) (by omega), Option.bind_some, readMark_cons,
      Option.bind_some, readDigits_padded (by decide) (by omega), Option.bind_some,
      readFraction_fraction (by omega), Option.bind_some, readMark_cons, Option.bind_some,
      if_pos (by simp only [true_and]; omega)]
    have whole : (year.toNat : Int) = year := by omega
    simp only [whole, number]
    subst daysEq
    congr 1
    omega
  · cases formatted

end OrganizationProvisioning
