import MessageBoard.Document.Moment
import MessageBoard.Entry
import MessageBoard.Proofs.Calendar.LocalTime
import MessageBoard.Proofs.Pattern.Digits

/-!
# Reading times back

Readers for what time patterns write: years, dates, clocks, offsets and whole local times.  A reader
answers with a value and what remains, and refuses what cannot be a date, a time of day or an
offset.  What is written is read back as it was, whatever comes after it.
-/

namespace MessageBoard
namespace Pattern

open Calendar Document

/-!
# Readers
-/

/-- A run of digits of which there are at least so many. -/
def run? (least : Nat) (cs : List Char) : Option (Nat × List Char) :=
  let count := (cs.takeWhile Char.isDigit).length
  if least ≤ count then fixedDigits? count cs else none

/-- A year has four digits, or a sign and at least four if it is not from 0 to 9999. -/
def year? : List Char → Option (Int × List Char)
  | '-' :: cs => do
      let (size, rest) ← run? 4 cs
      if 0 < size then some (-size, rest) else none
  | '+' :: cs => do
      let (size, rest) ← run? 4 cs
      if 9999 < size then some (size, rest) else none
  | cs => do
      let (size, rest) ← fixedDigits? 4 cs
      some (size, rest)

def date? (cs : List Char) : Option (Date × List Char) := do
  let (year, cs) ← year? cs
  let '-' :: cs := cs | none
  let (month, cs) ← fixedDigits? 2 cs
  let '-' :: cs := cs | none
  let (day, rest) ← fixedDigits? 2 cs
  if 1 ≤ month ∧ month ≤ 12 ∧ 1 ≤ day ∧ day ≤ daysInMonth year month then
    some (⟨year, month, day⟩, rest)
  else none

/-- The seconds that a clock shows since the start of the day. -/
def clock? (cs : List Char) : Option (Nat × List Char) := do
  let (hour, cs) ← fixedDigits? 2 cs
  let ':' :: cs := cs | none
  let (minute, cs) ← fixedDigits? 2 cs
  let ':' :: cs := cs | none
  let (second, rest) ← fixedDigits? 2 cs
  if hour < 24 ∧ minute < 60 ∧ second < 60 then
    some (hour * 3600 + minute * 60 + second, rest)
  else none

def offset? : List Char → Option (Zone × List Char)
  | '-' :: cs => do
      let (size, rest) ← clock? cs
      let zone ← Zone.ahead? (-size)
      some (zone, rest)
  | '+' :: cs => do
      let (size, rest) ← clock? cs
      let zone ← Zone.ahead? size
      some (zone, rest)
  | _ => none

/-- A date, a clock with nine places of the second's fraction, and an offset. -/
def localTime? (cs : List Char) : Option (LocalTime × List Char) := do
  let (date, cs) ← date? cs
  let ' ' :: cs := cs | none
  let (seconds, cs) ← clock? cs
  let '.' :: cs := cs | none
  let (nanos, cs) ← fixedDigits? 9 cs
  let ' ' :: cs := cs | none
  let (zone, rest) ← offset? cs
  if h : nanos < 1000000000 then
    some (⟨⟨date.number * 86400 + seconds - zone.east, ⟨nanos, h⟩⟩, zone⟩, rest)
  else none

/-!
# Years
-/

theorem run?_paddedDecimal {least width n : Nat} (hleast : least ≤ width) {rest : List Char}
    (hrest : ∀ c ∈ rest.head?, c.isDigit = false) :
    run? least (paddedDecimal width n ++ rest) = some (n, rest) := by
  have hdigits : (paddedDecimal width n ++ rest).takeWhile Char.isDigit =
      paddedDecimal width n := by
    rw [List.takeWhile_append_of_pos fun c hc => isDigit_of_mem_paddedDecimal hc]
    cases rest with
    | nil => simp
    | cons c rest =>
        have hc : c.isDigit = false := hrest c rfl
        simp [hc]
  have hle := le_length_paddedDecimal width n
  unfold run?
  rw [hdigits]
  simp only [if_pos (Nat.le_trans hleast hle)]
  exact fixedDigits?_length_paddedDecimal width n rest

theorem write_year (year : Int) :
    Layout.year.write .zero year =
      if 0 ≤ year ∧ year < 10000 then paddedDecimal 4 year.natAbs
      else (if year < 0 then '-' else '+') :: paddedDecimal 4 year.natAbs := by
  unfold Layout.write
  rw [fill_zero, fill_zero_sign]

section Signs

variable {cs rest : List Char} {size : Nat}

theorem year?_of_isDigit {c : Char} (hc : c.isDigit = true)
    (h : fixedDigits? 4 (c :: cs) = some (size, rest)) :
    year? (c :: cs) = some ((size : Int), rest) := by
  have hminus : c ≠ '-' := ne_of_class hc (by decide)
  have hplus : c ≠ '+' := ne_of_class hc (by decide)
  simp [year?, hminus, hplus, h]

theorem year?_minus (h : run? 4 cs = some (size, rest)) (hsize : 0 < size) :
    year? ('-' :: cs) = some (-(size : Int), rest) := by
  simp [year?, h, hsize]

theorem year?_plus (h : run? 4 cs = some (size, rest)) (hsize : 9999 < size) :
    year? ('+' :: cs) = some ((size : Int), rest) := by
  simp [year?, h, hsize]

end Signs

theorem year?_write (year : Int) {rest : List Char}
    (hrest : ∀ c ∈ rest.head?, c.isDigit = false) :
    year? (Layout.year.write .zero year ++ rest) = some (year, rest) := by
  rw [write_year]
  by_cases hplain : 0 ≤ year ∧ year < 10000
  · have hread := fixedDigits?_paddedDecimal (n := year.natAbs) (show 0 < 4 by decide)
      (show year.natAbs < 10000 by omega) rest
    have hyear : (year.natAbs : Int) = year := Int.natAbs_of_nonneg hplain.1
    rw [if_pos hplain]
    cases hdigits : paddedDecimal 4 year.natAbs with
    | nil =>
        have hlength := le_length_paddedDecimal 4 year.natAbs
        rw [hdigits] at hlength
        exact absurd hlength (by decide)
    | cons c cs =>
        have hc : c.isDigit = true := isDigit_of_mem_paddedDecimal (hdigits ▸ List.mem_cons_self)
        rw [hdigits] at hread
        rw [List.cons_append] at hread ⊢
        rw [year?_of_isDigit hc hread, hyear]
  · have hread := run?_paddedDecimal (n := year.natAbs) (Nat.le_refl 4) hrest
    rw [if_neg hplain, List.cons_append]
    by_cases hnegative : year < 0
    · have hsize : 0 < year.natAbs := by omega
      have hyear : -(year.natAbs : Int) = year := by omega
      rw [if_pos hnegative, year?_minus hread hsize, hyear]
    · have hsize : 9999 < year.natAbs := by omega
      have hyear : (year.natAbs : Int) = year := by omega
      rw [if_neg hnegative, year?_plus hread hsize, hyear]

/-!
# Dates
-/

def dateText (date : Date) : List Char :=
  Layout.year.write .zero date.year ++ '-' :: twoDigits date.month ++ '-' :: twoDigits date.day

theorem date?_dateText {date : Date} (h : date.IsValid) (rest : List Char) :
    date? (dateText date ++ rest) = some (date, rest) := by
  have hday : date.day < 100 := Nat.lt_of_le_of_lt h.day_le_31 (by decide)
  have hmonth : date.month < 100 := Nat.lt_of_le_of_lt h.month_le (by decide)
  unfold date? dateText
  simp only [List.append_assoc, List.cons_append]
  rw [year?_write date.year (by simp)]
  simp [fixedDigits?_twoDigits hday, fixedDigits?_twoDigits hmonth, h.one_le_month, h.month_le,
    h.one_le_day, h.day_le]

theorem writeItems_yearMonthDay (t : LocalTime) :
    writeItems t yearMonthDay = dateText t.date := by
  have hvalid : t.date.IsValid := isValid_dateOf t.day
  have hmonth := write_pair (Nat.lt_of_le_of_lt hvalid.month_le (by decide : 12 < 100))
  have hday := write_pair (Nat.lt_of_le_of_lt hvalid.day_le_31 (by decide : 31 < 100))
  simp [writeItems, yearMonthDay, twoPlaces, Item.write, Quantity.layout, Quantity.value, hmonth,
    hday, dateText]

/-!
# Clocks
-/

def clockText (seconds : Nat) : List Char :=
  twoDigits (seconds / 3600) ++ ':' :: twoDigits (seconds / 60 % 60)
    ++ ':' :: twoDigits (seconds % 60)

theorem clock?_clockText {seconds : Nat} (h : seconds < 86400) (rest : List Char) :
    clock? (clockText seconds ++ rest) = some (seconds, rest) := by
  have hhour : seconds / 3600 < 24 := by omega
  have hminute : seconds / 60 % 60 < 60 := Nat.mod_lt _ (by decide)
  have hsecond : seconds % 60 < 60 := Nat.mod_lt _ (by decide)
  have hsum : seconds / 3600 * 3600 + seconds / 60 % 60 * 60 + seconds % 60 = seconds := by omega
  have hread : ∀ n < 60, ∀ cs, fixedDigits? 2 (twoDigits n ++ cs) = some (n, cs) :=
    fun n hn cs => fixedDigits?_twoDigits (Nat.lt_trans hn (by decide)) cs
  unfold clock? clockText
  simp [hread _ (Nat.lt_trans hhour (by decide)), hread _ hminute, hread _ hsecond, hhour,
    hminute, hsecond, hsum]

theorem writeItems_clock (t : LocalTime) : writeItems t clock = clockText t.secondOfDay := by
  have hhour := write_pair (Nat.lt_trans t.hour_lt (by decide : 24 < 100))
  have hminute := write_pair (Nat.lt_trans t.minute_lt (by decide : 60 < 100))
  have hsecond := write_pair (Nat.lt_trans t.second_lt (by decide : 60 < 100))
  have htext : writeItems t clock =
      twoDigits t.hour ++ ':' :: twoDigits t.minute ++ ':' :: twoDigits t.second := by
    simp [writeItems, clock, twoPlaces, Item.write, Quantity.layout, Quantity.value, hhour,
      hminute, hsecond]
  exact htext

/-!
# Offsets
-/

theorem write_seconds (zone : Zone) :
    OffsetStyle.seconds.write zone =
      (if zone.east < 0 then '-' else '+') :: clockText zone.east.natAbs := rfl

theorem ahead?_east (zone : Zone) : Zone.ahead? zone.east = some zone :=
  dif_pos zone.within_day

section Signs

variable {cs rest : List Char} {size : Nat} {zone : Zone}

theorem offset?_minus (h : clock? cs = some (size, rest)) (hzone : zone.east = -(size : Int)) :
    offset? ('-' :: cs) = some (zone, rest) := by
  have hahead := ahead?_east zone
  rw [hzone] at hahead
  simp [offset?, h, hahead]

theorem offset?_plus (h : clock? cs = some (size, rest)) (hzone : zone.east = size) :
    offset? ('+' :: cs) = some (zone, rest) := by
  have hahead := ahead?_east zone
  rw [hzone] at hahead
  simp [offset?, h, hahead]

end Signs

theorem offset?_write (zone : Zone) (rest : List Char) :
    offset? (OffsetStyle.seconds.write zone ++ rest) = some (zone, rest) := by
  have hclock := clock?_clockText zone.within_day rest
  rw [write_seconds, List.cons_append]
  by_cases hwest : zone.east < 0
  · rw [if_pos hwest]
    exact offset?_minus hclock (by omega)
  · rw [if_neg hwest]
    exact offset?_plus hclock (by omega)

/-!
# Local times
-/

def wholeTime : List Item :=
  yearMonthDay ++ [.character ' '] ++ clock ++ [.fraction true 9, .character ' ', .offset .seconds]

theorem writeItems_wholeTime (t : LocalTime) :
    writeItems t wholeTime =
      dateText t.date ++ ' ' :: clockText t.secondOfDay ++ '.' :: paddedDecimal 9 t.instant.nanos
        ++ ' ' :: OffsetStyle.seconds.write t.zone := by
  have hplaces : writePlaces t.instant.nanos.val 9 = paddedDecimal 9 t.instant.nanos.val :=
    congrArg (paddedDecimal 9) (Nat.div_one t.instant.nanos.val)
  unfold wholeTime
  simp only [writeItems_append, writeItems_yearMonthDay, writeItems_clock]
  simp [writeItems, Item.write, hplaces]

theorem localTime?_writeItems (t : LocalTime) (rest : List Char) :
    localTime? (writeItems t wholeTime ++ rest) = some (t, rest) := by
  have hnanos := fixedDigits?_paddedDecimal (show 0 < 9 by decide) t.instant.nanos.isLt
  have hdate := date?_dateText (isValid_dateOf t.day)
  have hday : t.date.number = t.day := number_dateOf t.day
  have hseconds : t.day * 86400 + t.secondOfDay - t.zone.east = t.instant.seconds := by
    rw [t.day_add_secondOfDay]
    unfold LocalTime.seconds
    omega
  rw [writeItems_wholeTime]
  unfold localTime?
  simp only [List.append_assoc, List.cons_append]
  change ∀ rest, date? (dateText t.date ++ rest) = some (t.date, rest) at hdate
  simp [hdate, clock?_clockText t.secondOfDay_lt, hnanos, offset?_write, hday, hseconds]

end Pattern
end MessageBoard
