import TboxFramework.Library.CivilCalendar
import TboxFramework.Library.GeneralReading
import TboxFramework.Log.StandardFormatter

/-!
# Timestamps

The enricher prints the time of day in UTC, and the standard formatter reads it again to
show local time. The calendar stands for `gmtime_r` and `timegm`; the rules of the time
zone stay a parameter.
-/

namespace TboxFramework.Log

open CivilCalendar
open TboxFramework.Decimal
open TboxFramework.GeneralFormat (padded padded_digits padded_length
  value_append value_padded)
open TboxFramework.Store (Bytes cString c_string_eq_self text)

set_option autoImplicit false

/-! ## The clock -/

/-- The seconds from the first day of year one to the first of 1970. -/
def epoch : Int := 719162 * 86400

def BrokenDownTime.ofTime (time : Time) : BrokenDownTime :=
  ⟨time.year - 1900, time.month, time.day, time.hour, time.minute, time.second⟩

/-- `gmtime_r`. -/
def gmtime (seconds : Int) : BrokenDownTime := .ofTime (timeOf (seconds + epoch))

/-- `timegm`, which lets every number run over into the next greater one. -/
def timegm (time : BrokenDownTime) : Int :=
  secondNumber ⟨⟨time.tmYear + 1900 + time.tmMon / 12, time.tmMon % 12, time.tmMday⟩,
    time.tmHour, time.tmMin, time.tmSec⟩ - epoch

theorem timegm_gmtime (seconds : Int) : timegm (gmtime seconds) = seconds := by
  have civil := time_of_valid (seconds + epoch)
  have month := civil.1.date.month
  unfold timegm gmtime BrokenDownTime.ofTime
  generalize timeOf (seconds + epoch) = time at civil month
  obtain ⟨⟨year, month', day⟩, hour, minute, second⟩ := time
  simp only at month
  have within : month' / 12 = 0 ∧ month' % 12 = month' := by omega
  simp only [within.1, within.2, Int.sub_add_cancel, Int.add_zero, civil.2, Int.add_sub_cancel]

/-! ## Numbers of a fixed width -/

theorem value_cons (byte : UInt8) (digits : Bytes) :
    value (byte :: digits) = (byte.toNat - 48) * 10 ^ digits.length + value digits := by
  have front : value [byte] = byte.toNat - 48 := by
    unfold value valueFrom
    rw [List.foldl_cons, List.foldl_nil, Nat.mul_zero, Nat.zero_add]
  rw [← front, ← value_append]
  rfl

theorem value_lt {digits : Bytes} (all : ∀ byte ∈ digits, IsDigit byte) :
    value digits < 10 ^ digits.length := by
  induction digits with
  | nil => decide
  | cons byte digits ih =>
      rw [List.forall_mem_cons] at all
      have high := UInt8.le_iff_toNat_le.mp all.1.2
      have rest := ih all.2
      have few : byte.toNat - 48 ≤ 9 := by
        change byte.toNat ≤ 57 at high
        omega
      rw [value_cons, List.length_cons, Nat.pow_succ]
      have scaled := Nat.mul_le_mul_right (10 ^ digits.length) few
      omega

/-- Digits of one length are sorted by what they denote. -/
theorem digits_lt {digits others : Bytes} (all : ∀ byte ∈ digits, IsDigit byte)
    (otherAll : ∀ byte ∈ others, IsDigit byte) (same : digits.length = others.length) :
    digits < others ↔ value digits < value others := by
  induction digits generalizing others with
  | nil =>
      cases others with
      | nil => decide
      | cons other others => cases same
  | cons byte digits ih =>
      cases others with
      | nil => cases same
      | cons other others =>
          rw [List.forall_mem_cons] at all otherAll
          have lengths : digits.length = others.length := Nat.succ.inj same
          have low := UInt8.le_iff_toNat_le.mp all.1.1
          have otherLow := UInt8.le_iff_toNat_le.mp otherAll.1.1
          change 48 ≤ byte.toNat at low
          change 48 ≤ other.toNat at otherLow
          have less := value_lt all.2
          have otherLess := value_lt otherAll.2
          rw [← lengths] at otherLess
          rw [List.cons_lt_cons_iff, ih all.2 otherAll.2 lengths, value_cons, value_cons,
            ← lengths, UInt8.lt_iff_toNat_lt, ← UInt8.toNat_inj]
          generalize 10 ^ digits.length = scale at less otherLess ⊢
          rcases Nat.lt_trichotomy byte.toNat other.toNat with before | equal | behind
          · have scaled := Nat.mul_le_mul_right scale
              (show byte.toNat - 48 + 1 ≤ other.toNat - 48 by omega)
            rw [Nat.add_mul, Nat.one_mul] at scaled
            omega
          · rw [equal]
            omega
          · have scaled := Nat.mul_le_mul_right scale
              (show other.toNat - 48 + 1 ≤ byte.toNat - 48 by omega)
            rw [Nat.add_mul, Nat.one_mul] at scaled
            omega

theorem padded_ne_nil (width number : Nat) : padded width number ≠ [] := by
  unfold padded
  simp [numeral_ne_nil]

theorem zero_padded_eq (width : Nat) (number : Int) :
    zeroPadded width number = minusText (number < 0) ++
      padded (width - (minusText (number < 0)).length) number.natAbs := by
  unfold zeroPadded padded
  rw [List.append_assoc]

theorem digit_no_sign {byte : UInt8} (isDigit : IsDigit byte) :
    isSpace byte = false ∧ byte ≠ 43 ∧ byte ≠ 45 := by
  obtain ⟨low, high⟩ := isDigit
  rw [UInt8.le_iff_toNat_le] at low high
  unfold isSpace
  simp only [← UInt8.toNat_inj, UInt8.le_iff_toNat_le, ne_eq] at low high ⊢
  simp at low high ⊢
  omega

/-- Digits are read up to where they end. -/
theorem take_digits_padded (width number : Nat) {rest : Bytes}
    (stops : (rest.takeWhile fun byte => decide (IsDigit byte)) = []) :
    ((padded width number ++ rest).takeWhile fun byte => decide (IsDigit byte)) =
      padded width number := by
  rw [List.takeWhile_append_of_pos, stops, List.append_nil]
  intro byte member
  exact decide_eq_true (padded_digits width number byte member)

namespace StandardFormatter

/-- `%d` reads back what `%0<width>d` wrote. -/
theorem scan_zero_padded (width : Nat) (number : Int) {rest : Bytes}
    (stops : (rest.takeWhile fun byte => decide (IsDigit byte)) = []) :
    scanNumber (zeroPadded width number ++ rest) = some (number, rest) := by
  rw [zero_padded_eq, List.append_assoc]
  generalize width - (minusText (number < 0)).length = places
  have digits := take_digits_padded places number.natAbs stops
  have signed : readSign ((minusText (number < 0) ++
      (padded places number.natAbs ++ rest)).dropWhile isSpace) =
        (decide (number < 0), padded places number.natAbs ++ rest) := by
    by_cases negative : number < 0
    · rw [decide_eq_true negative]
      rfl
    · rw [decide_eq_false negative]
      cases shape : padded places number.natAbs with
      | nil => exact absurd shape (padded_ne_nil _ _)
      | cons first more =>
          have isDigit := padded_digits places number.natAbs first (shape ▸ List.mem_cons_self)
          obtain ⟨blank, plus, minus⟩ := digit_no_sign isDigit
          simp only [minusText, Bool.false_eq_true, if_false, List.nil_append, List.cons_append]
          rw [List.dropWhile_cons_of_neg (by simp [blank])]
          simp [readSign, plus, minus]
  unfold scanNumber
  simp only [signed, digits]
  rw [if_neg (padded_ne_nil _ _), value_padded, List.drop_left]
  congr 2
  by_cases negative : number < 0
  · simp only [decide_eq_true negative, if_true]
    omega
  · simp only [decide_eq_false negative, Bool.false_eq_true, if_false]
    omega

/-! ## Reading what was printed -/

theorem print_time_eq (byte : UInt8) (time : BrokenDownTime) (ms : Int) (rest : Bytes) :
    printTime [byte] time ms ++ rest =
      zeroPadded 4 (time.tmYear + 1900) ++ 45 :: (zeroPadded 2 (time.tmMon + 1) ++
        45 :: (zeroPadded 2 time.tmMday ++ byte :: (zeroPadded 2 time.tmHour ++
          58 :: (zeroPadded 2 time.tmMin ++ 58 :: (zeroPadded 2 time.tmSec ++
            46 :: (zeroPadded 3 ms ++ rest)))))) := by
  unfold printTime
  rw [show text "-" = [45] from rfl, show text ":" = [58] from rfl, show text "." = [46] from rfl]
  simp only [List.append_assoc, List.cons_append, List.nil_append]

theorem scan_before (width : Nat) (number : Int) {byte : UInt8} (mark : ¬ IsDigit byte)
    (rest : Bytes) :
    scanNumber (zeroPadded width number ++ byte :: rest) = some (number, byte :: rest) :=
  scan_zero_padded width number (List.takeWhile_cons_of_neg (by simpa using mark))

theorem scan_char_cons (byte : UInt8) (rest : Bytes) : scanChar byte (byte :: rest) = some rest :=
  if_pos rfl

/-- The six numbers are read whatever they are. -/
theorem scan_time_printed (time : BrokenDownTime) (ms : Int) (rest : Bytes) :
    scanTime (printTime (text "T") time ms ++ rest) = some time := by
  rw [show text "T" = [84] from rfl, print_time_eq]
  unfold scanTime
  simp only [scan_before _ _ (show ¬ IsDigit 45 by decide),
    scan_before _ _ (show ¬ IsDigit 84 by decide), scan_before _ _ (show ¬ IsDigit 58 by decide),
    scan_before _ _ (show ¬ IsDigit 46 by decide), scan_char_cons, Option.bind_eq_bind,
    Option.bind_some, Int.add_sub_cancel]

/-! ## The shape of a timestamp -/

/-- Years that `%04d` prints with four characters. -/
def FourWide (year : Int) : Prop := -1000 < year ∧ year < 10000

instance (year : Int) : Decidable (FourWide year) := inferInstanceAs (Decidable (_ ∧ _))

theorem zero_padded_length {width : Nat} {number : Int} (some : 0 < width) (first : 0 ≤ number)
    (last : number < 10 ^ width) : (zeroPadded width number).length = width := by
  rw [zero_padded_eq, decide_eq_false (Int.not_lt.mpr first)]
  apply padded_length some
  zify
  rwa [abs_of_nonneg first]

theorem year_length {year : Int} (four : FourWide year) : (zeroPadded 4 year).length = 4 := by
  by_cases negative : year < 0
  · rw [zero_padded_eq, decide_eq_true negative]
    have digits : (padded 3 year.natAbs).length = 3 := by
      apply padded_length (by decide)
      have := four.1
      omega
    exact congrArg (· + 1) digits
  · exact zero_padded_length (by decide) (Int.not_lt.mp negative) four.2

theorem numeral_longer {places number : Nat} (large : 10 ^ places ≤ number) :
    places < (numeral number).length := by
  by_contra short
  have bound := value_lt (numeral_digits number)
  rw [value_numeral] at bound
  have power := Nat.pow_le_pow_right (show 0 < 10 by decide) (Nat.le_of_not_lt short)
  omega

theorem long_year {year : Int} (wide : ¬ FourWide year) : 5 ≤ (zeroPadded 4 year).length := by
  unfold FourWide at wide
  rw [zero_padded_eq, List.length_append]
  unfold padded
  rw [List.length_append]
  by_cases negative : year < 0
  · have digits := @numeral_longer 3 year.natAbs (by omega)
    rw [decide_eq_true negative]
    change 5 ≤ 1 + _
    omega
  · have digits := @numeral_longer 4 year.natAbs (by omega)
    omega

/-- What stands before the T. -/
def datePart (time : BrokenDownTime) : Bytes :=
  zeroPadded 4 (time.tmYear + 1900) ++ 45 :: (zeroPadded 2 (time.tmMon + 1) ++
    45 :: zeroPadded 2 time.tmMday)

/-- What stands after it. -/
def clockPart (time : BrokenDownTime) (ms : Int) : Bytes :=
  zeroPadded 2 time.tmHour ++ 58 :: (zeroPadded 2 time.tmMin ++
    58 :: (zeroPadded 2 time.tmSec ++ 46 :: zeroPadded 3 ms))

theorem print_parts (byte : UInt8) (time : BrokenDownTime) (ms : Int) (rest : Bytes) :
    printTime [byte] time ms ++ rest = datePart time ++ byte :: (clockPart time ms ++ rest) := by
  rw [print_time_eq]
  unfold datePart clockPart
  simp only [List.append_assoc, List.cons_append]

/-- The fields that `gmtime_r` fills stay within their ranges. -/
structure InRange (time : BrokenDownTime) : Prop where
  month : 0 ≤ time.tmMon ∧ time.tmMon < 12
  day : 0 ≤ time.tmMday ∧ time.tmMday < 32
  hour : 0 ≤ time.tmHour ∧ time.tmHour < 24
  minute : 0 ≤ time.tmMin ∧ time.tmMin < 60
  second : 0 ≤ time.tmSec ∧ time.tmSec < 60

theorem gmtime_in_range (seconds : Int) : InRange (gmtime seconds) := by
  have valid := (time_of_valid (seconds + epoch)).1
  have day := valid.date.day
  have month := valid.date.month
  have length := month_length (timeOf (seconds + epoch)).year month.1 month.2
  refine ⟨month, ?_, valid.hour, valid.minute, valid.second⟩
  change 0 ≤ (timeOf (seconds + epoch)).day ∧ (timeOf (seconds + epoch)).day < 32
  omega

theorem date_part_length {time : BrokenDownTime} (range : InRange time) :
    (datePart time).length = (zeroPadded 4 (time.tmYear + 1900)).length + 6 := by
  have month := @zero_padded_length 2 (time.tmMon + 1) (by decide) (by have := range.month; omega)
    (by have := range.month; omega)
  have day := @zero_padded_length 2 time.tmMday (by decide) range.day.1
    (by have := range.day; omega)
  unfold datePart
  simp only [List.length_append, List.length_cons, month, day]

theorem clock_part_length {time : BrokenDownTime} {ms : Int} (range : InRange time)
    (first : 0 ≤ ms) (last : ms < 1000) : (clockPart time ms).length = 12 := by
  have hour := @zero_padded_length 2 time.tmHour (by decide) range.hour.1
    (by have := range.hour; omega)
  have minute := @zero_padded_length 2 time.tmMin (by decide) range.minute.1
    (by have := range.minute; omega)
  have second := @zero_padded_length 2 time.tmSec (by decide) range.second.1
    (by have := range.second; omega)
  have fraction := @zero_padded_length 3 ms (by decide) first last
  unfold clockPart
  simp only [List.length_append, List.length_cons, hour, minute, second, fraction]

theorem date_part_plain (time : BrokenDownTime) : (84 : UInt8) ∉ datePart time := by
  have number : ∀ (width : Nat) (number : Int), (84 : UInt8) ∉ zeroPadded width number := by
    intro width number member
    rw [zero_padded_eq, List.mem_append] at member
    rcases member with sign | digit
    · unfold minusText at sign
      split at sign <;> simp at sign
    · exact absurd (padded_digits _ _ 84 digit) (by decide)
  unfold datePart
  simp [number]

/-! ## The timestamp as local time -/

/-- `gettimeofday` at this second. -/
structure ReadsClock (moment : Moment) (seconds : Int) : Prop where
  utc : moment.utc = gmtime seconds
  microseconds : 0 ≤ moment.microseconds ∧ moment.microseconds < 1000000

variable {moment : Moment} {seconds : Int}

theorem ReadsClock.milliseconds (reads : ReadsClock moment seconds) :
    0 ≤ moment.microseconds.tdiv 1000 ∧ moment.microseconds.tdiv 1000 < 1000 := by
  have bounds := reads.microseconds
  rw [Int.tdiv_eq_ediv_of_nonneg bounds.1]
  omega

/-- The timestamp with the place where the formatter looks for its T. -/
theorem timestamp_parts (moment : Moment) :
    Enricher.getTimestampUTC moment =
      (datePart moment.utc ++ 84 :: (clockPart moment.utc (moment.microseconds.tdiv 1000) ++
        [90])).take 63 := by
  unfold Enricher.getTimestampUTC
  rw [show text "T" = [84] from rfl, show text "Z" = [90] from rfl, print_parts]

theorem timestamp_whole (reads : ReadsClock moment seconds)
    (four : FourWide (moment.utc.tmYear + 1900)) :
    (datePart moment.utc).length = 10 ∧
      Enricher.getTimestampUTC moment =
        datePart moment.utc ++ 84 :: (clockPart moment.utc (moment.microseconds.tdiv 1000) ++
          [90]) ∧
      (Enricher.getTimestampUTC moment).length = 24 := by
  have range : InRange moment.utc := reads.utc ▸ gmtime_in_range seconds
  have date := date_part_length range
  rw [year_length four] at date
  have ms := reads.milliseconds
  have clock := clock_part_length range ms.1 ms.2
  have length : (datePart moment.utc ++ 84 :: (clockPart moment.utc
      (moment.microseconds.tdiv 1000) ++ [90])).length = 24 := by
    simp only [List.length_append, List.length_cons, List.length_nil, date, clock]
  have whole := timestamp_parts moment
  rw [List.take_of_length_le (by rw [length]; decide)] at whole
  exact ⟨date, whole, by rw [whole, length]⟩

theorem timestamp_printed (reads : ReadsClock moment seconds)
    (four : FourWide (moment.utc.tmYear + 1900)) :
    Enricher.getTimestampUTC moment =
      printTime (text "T") moment.utc (moment.microseconds.tdiv 1000) ++ [90] := by
  rw [(timestamp_whole reads four).2.1, show text "T" = [84] from rfl, print_parts]

theorem timestamp_milliseconds (reads : ReadsClock moment seconds)
    (four : FourWide (moment.utc.tmYear + 1900)) :
    milliseconds (Enricher.getTimestampUTC moment) = moment.microseconds.tdiv 1000 := by
  have range : InRange moment.utc := reads.utc ▸ gmtime_in_range seconds
  have ms := reads.milliseconds
  obtain ⟨date, whole, length⟩ := timestamp_whole reads four
  generalize moment.microseconds.tdiv 1000 = number at ms whole ⊢
  have hour := @zero_padded_length 2 moment.utc.tmHour (by decide) range.hour.1
    (by have := range.hour; omega)
  have minute := @zero_padded_length 2 moment.utc.tmMin (by decide) range.minute.1
    (by have := range.minute; omega)
  have second := @zero_padded_length 2 moment.utc.tmSec (by decide) range.second.1
    (by have := range.second; omega)
  have fraction := @zero_padded_length 3 number (by decide) ms.1 ms.2
  obtain ⟨front, nineteen, split⟩ : ∃ front : Bytes, front.length = 19 ∧
      Enricher.getTimestampUTC moment = front ++ 46 :: (zeroPadded 3 number ++ [90]) := by
    refine ⟨datePart moment.utc ++ 84 :: (zeroPadded 2 moment.utc.tmHour ++
      58 :: (zeroPadded 2 moment.utc.tmMin ++ 58 :: zeroPadded 2 moment.utc.tmSec)), ?_, ?_⟩
    · simp only [List.length_append, List.length_cons, date, hour, minute, second]
    · rw [whole]
      unfold clockPart
      simp only [List.append_assoc, List.cons_append]
  have point : (Enricher.getTimestampUTC moment).drop 19 = 46 :: (zeroPadded 3 number ++ [90]) := by
    rw [split]
    exact List.drop_left' nineteen
  have digits : ((Enricher.getTimestampUTC moment).drop (19 + 0 + 1)).take 3 =
      zeroPadded 3 number := by
    rw [← List.drop_drop, Nat.add_zero, point, List.drop_one, List.tail_cons]
    exact List.take_left' fraction
  have found : find [46] (46 :: (zeroPadded 3 number ++ [90])) = some 0 := rfl
  unfold milliseconds
  rw [point, found]
  simp only
  rw [if_pos (by rw [length]; decide), digits]
  have read := @scan_zero_padded 3 number [] rfl
  rw [List.append_nil] at read
  unfold atoi
  rw [read]
  rfl

/-- The standard line shows the time of the record in the local zone, to the millisecond,
exactly while the year has four characters; other timestamps stay as they are. -/
theorem local_time_of_timestamp (localtime : Int → BrokenDownTime) (moment : Moment)
    (seconds : Int) (reads : ReadsClock moment seconds) :
    (FourWide (moment.utc.tmYear + 1900) →
      utcToLocalFormat (fun time => localtime (timegm time)) (Enricher.getTimestampUTC moment) =
        printLocal (localtime seconds) (moment.microseconds.tdiv 1000)) ∧
    (¬ FourWide (moment.utc.tmYear + 1900) →
      utcToLocalFormat (fun time => localtime (timegm time)) (Enricher.getTimestampUTC moment) =
        Enricher.getTimestampUTC moment) := by
  have range : InRange moment.utc := reads.utc ▸ gmtime_in_range seconds
  have date := date_part_length range
  constructor
  · intro four
    obtain ⟨ten, whole, length⟩ := timestamp_whole reads four
    have marked : (Enricher.getTimestampUTC moment)[10]? = some 84 := by
      rw [whole, List.getElem?_append_right (by omega), ten]
      rfl
    have clean : 0 ∉ Enricher.getTimestampUTC moment := fun member =>
      absurd (Enricher.timestamp_printable moment 0 member) (by decide)
    unfold utcToLocalFormat
    rw [if_neg (by rw [marked, length]; decide), timestamp_milliseconds reads four,
      c_string_eq_self clean, timestamp_printed reads four, scan_time_printed]
    simp only [reads.utc, timegm_gmtime]
  · intro wide
    have long := long_year wide
    have unmarked : (Enricher.getTimestampUTC moment)[10]? ≠ some 84 := by
      rw [timestamp_parts, List.getElem?_take_of_lt (by decide),
        List.getElem?_append_left (by omega)]
      intro marked
      exact date_part_plain moment.utc (List.mem_of_getElem? marked)
    unfold utcToLocalFormat
    rw [if_pos (.inr unmarked)]

/-- A millisecond before the year 2020 in UTC, seen eight hours further east. -/
theorem last_millisecond_as_local_time :
    let moment : Moment := ⟨gmtime 1577836799, 999123, 1577836799, 0, 1, 1⟩
    utcToLocalFormat (fun time => gmtime (timegm time + 28800))
        (Enricher.getTimestampUTC moment) = printLocal (gmtime 1577865599) 999 ∧
      printLocal (gmtime 1577865599) 999 = text "2020-01-01 07:59:59.999" :=
  ⟨(local_time_of_timestamp (fun seconds => gmtime (seconds + 28800)) _ 1577836799
    ⟨rfl, by decide⟩).1 (by decide), by decide⟩

/-! ## The order of timestamps -/

theorem append_lt_append {Item : Type} [LT Item] {front other : List Item}
    (same : front.length = other.length) (back rest : List Item) :
    front ++ back < other ++ rest ↔ front < other ∨ front = other ∧ back < rest := by
  induction front generalizing other with
  | nil =>
      cases other with
      | nil => simp
      | cons byte other => cases same
  | cons byte front ih =>
      cases other with
      | nil => cases same
      | cons first other =>
          rw [List.cons_append, List.cons_append, List.cons_lt_cons_iff, List.cons_lt_cons_iff,
            ih (Nat.succ.inj same), List.cons.injEq]
          tauto

/-- A number in a field of its own width. -/
def Fits (width : Nat) (number : Int) : Prop := 0 ≤ number ∧ number < 10 ^ width

theorem zero_padded_lt {width : Nat} {number other : Int} (some : 0 < width)
    (fits : Fits width number) (otherFits : Fits width other) (back rest : Bytes) :
    zeroPadded width number ++ back < zeroPadded width other ++ rest ↔
      number < other ∨ number = other ∧ back < rest := by
  have length := zero_padded_length some fits.1 fits.2
  have otherLength := zero_padded_length some otherFits.1 otherFits.2
  rw [append_lt_append (length.trans otherLength.symm)]
  have plain : ∀ {number : Int}, 0 ≤ number →
      zeroPadded width number = padded width number.natAbs := by
    intro number first
    rw [zero_padded_eq, decide_eq_false (Int.not_lt.mpr first)]
    rfl
  rw [plain fits.1] at length ⊢
  rw [plain otherFits.1] at otherLength ⊢
  have less : padded width number.natAbs < padded width other.natAbs ↔ number < other := by
    rw [digits_lt (padded_digits _ _) (padded_digits _ _) (length.trans otherLength.symm),
      value_padded, value_padded]
    have := fits.1
    have := otherFits.1
    omega
  have equal : padded width number.natAbs = padded width other.natAbs ↔ number = other := by
    constructor
    · intro same
      have values := congrArg value same
      rw [value_padded, value_padded] at values
      have := fits.1
      have := otherFits.1
      omega
    · intro same
      rw [same]
  rw [less, equal]

theorem mark_lt (byte : UInt8) (back rest : Bytes) :
    byte :: back < byte :: rest ↔ back < rest := by
  rw [List.cons_lt_cons_iff]
  simp

/-- The numbers of a broken down time, the greatest unit first. -/
def BrokenDownTime.numbers (time : BrokenDownTime) : List Int :=
  [time.tmYear + 1900, time.tmMon + 1, time.tmMday, time.tmHour, time.tmMin, time.tmSec]

theorem gmtime_lt_iff (seconds later : Int) :
    BrokenDownTime.numbers (gmtime seconds) < BrokenDownTime.numbers (gmtime later) ↔
      seconds < later := by
  have order := time_of_lt_iff (seconds + epoch) (later + epoch)
  unfold Time.numbers at order
  unfold BrokenDownTime.numbers gmtime BrokenDownTime.ofTime
  simp only [List.cons_lt_cons_iff, Int.sub_add_cancel, Int.add_lt_add_iff_right,
    add_left_inj] at order ⊢
  exact order

/-- Two printed times compare as the lists of their numbers do, the milliseconds last. -/
theorem print_time_lt {time later : BrokenDownTime} {ms laterMs : Int} (range : InRange time)
    (laterRange : InRange later) (year : Fits 4 (time.tmYear + 1900))
    (laterYear : Fits 4 (later.tmYear + 1900)) (fits : Fits 3 ms) (laterFits : Fits 3 laterMs) :
    printTime (text "T") time ms ++ [90] < printTime (text "T") later laterMs ++ [90] ↔
      BrokenDownTime.numbers time ++ [ms] < BrokenDownTime.numbers later ++ [laterMs] := by
  have two : ∀ {number : Int}, 0 ≤ number ∧ number < 100 → Fits 2 number := id
  have month : Fits 2 (time.tmMon + 1) := two (by have := range.month; omega)
  have laterMonth : Fits 2 (later.tmMon + 1) := two (by have := laterRange.month; omega)
  have day : Fits 2 time.tmMday := two (by have := range.day; omega)
  have laterDay : Fits 2 later.tmMday := two (by have := laterRange.day; omega)
  have hour : Fits 2 time.tmHour := two (by have := range.hour; omega)
  have laterHour : Fits 2 later.tmHour := two (by have := laterRange.hour; omega)
  have minute : Fits 2 time.tmMin := two (by have := range.minute; omega)
  have laterMinute : Fits 2 later.tmMin := two (by have := laterRange.minute; omega)
  have second : Fits 2 time.tmSec := two (by have := range.second; omega)
  have laterSecond : Fits 2 later.tmSec := two (by have := laterRange.second; omega)
  unfold BrokenDownTime.numbers
  rw [show text "T" = [84] from rfl, print_time_eq, print_time_eq,
    zero_padded_lt (by decide) year laterYear, mark_lt,
    zero_padded_lt (by decide) month laterMonth, mark_lt,
    zero_padded_lt (by decide) day laterDay, mark_lt,
    zero_padded_lt (by decide) hour laterHour, mark_lt,
    zero_padded_lt (by decide) minute laterMinute, mark_lt,
    zero_padded_lt (by decide) second laterSecond, mark_lt,
    zero_padded_lt (by decide) fits laterFits]
  simp [List.cons_lt_cons_iff]

/-- Timestamps of the years 0 to 9999 are sorted as their moments are. -/
theorem timestamps_sort_by_time (earlier later : Moment) (seconds laterSeconds : Int)
    (reads : ReadsClock earlier seconds) (laterReads : ReadsClock later laterSeconds)
    (year : 0 ≤ earlier.utc.tmYear + 1900 ∧ earlier.utc.tmYear + 1900 < 10000)
    (laterYear : 0 ≤ later.utc.tmYear + 1900 ∧ later.utc.tmYear + 1900 < 10000) :
    Enricher.getTimestampUTC earlier < Enricher.getTimestampUTC later ↔
      seconds < laterSeconds ∨ seconds = laterSeconds ∧
        earlier.microseconds.tdiv 1000 < later.microseconds.tdiv 1000 := by
  have ms := reads.milliseconds
  have laterMs := laterReads.milliseconds
  rw [timestamp_printed reads ⟨by omega, year.2⟩,
    timestamp_printed laterReads ⟨by omega, laterYear.2⟩]
  generalize earlier.microseconds.tdiv 1000 = number at ms ⊢
  generalize later.microseconds.tdiv 1000 = laterNumber at laterMs ⊢
  rw [reads.utc] at year ⊢
  rw [laterReads.utc] at laterYear ⊢
  have equal : BrokenDownTime.numbers (gmtime seconds) =
      BrokenDownTime.numbers (gmtime laterSeconds) ↔ seconds = laterSeconds := by
    constructor
    · intro same
      have here := gmtime_lt_iff seconds laterSeconds
      have there := gmtime_lt_iff laterSeconds seconds
      rw [same] at here there
      simp only [List.lt_irrefl, false_iff] at here there
      omega
    · intro same
      rw [same]
  rw [print_time_lt (gmtime_in_range _) (gmtime_in_range _) year laterYear ms laterMs,
    append_lt_append (show (BrokenDownTime.numbers (gmtime seconds)).length =
      (BrokenDownTime.numbers (gmtime laterSeconds)).length from rfl),
    gmtime_lt_iff, equal, List.cons_lt_cons_iff]
  simp

/-- The two sides of a new year. -/
theorem new_year_sorts :
    let before : Moment := ⟨gmtime 1577836799, 999123, 1577836799, 0, 1, 1⟩
    let after : Moment := ⟨gmtime 1577836800, 0, 1577836800, 1, 1, 1⟩
    Enricher.getTimestampUTC before < Enricher.getTimestampUTC after :=
  (timestamps_sort_by_time _ _ 1577836799 1577836800 ⟨rfl, by decide⟩ ⟨rfl, by decide⟩
    (by decide) (by decide)).mpr (.inl (by decide))

end StandardFormatter

end TboxFramework.Log
