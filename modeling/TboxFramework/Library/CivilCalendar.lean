import Mathlib.Tactic.SplitIfs

/-!
# The civil calendar

Dates of the proleptic Gregorian calendar against the count of days, and times of day
against the count of seconds, both ways. Months and days of the year count from zero, days
of the month from one, and day zero is the first day of year one.
-/

namespace CivilCalendar

set_option autoImplicit false

def IsLeap (year : Int) : Prop := year % 4 = 0 ∧ (year % 100 ≠ 0 ∨ year % 400 = 0)

instance (year : Int) : Decidable (IsLeap year) := inferInstanceAs (Decidable (_ ∧ _))

/-- The days before a year. -/
def yearStart (year : Int) : Int :=
  365 * (year - 1) + (year - 1) / 4 - (year - 1) / 100 + (year - 1) / 400

/-- The extra day of a year. -/
def leapDay (year : Int) : Int := if IsLeap year then 1 else 0

theorem leap_day_cases (year : Int) : leapDay year = 0 ∨ leapDay year = 1 := by
  unfold leapDay
  split_ifs
  · exact .inr rfl
  · exact .inl rfl

theorem year_start_succ (year : Int) :
    yearStart (year + 1) = yearStart year + 365 + leapDay year := by
  unfold yearStart leapDay IsLeap
  split_ifs <;> omega

/-- The year of a day: a guess by the mean length of a year is at most two years early. -/
def yearOf (day : Int) : Int :=
  let guess := day * 400 / 146097
  if day < yearStart (guess + 1) then guess
  else if day < yearStart (guess + 2) then guess + 1 else guess + 2

theorem year_of_spec (day : Int) :
    yearStart (yearOf day) ≤ day ∧ day < yearStart (yearOf day + 1) := by
  unfold yearOf
  simp only
  split_ifs with first second
  · refine ⟨?_, first⟩
    unfold yearStart
    omega
  · refine ⟨Int.not_lt.mp first, ?_⟩
    rwa [show day * 400 / 146097 + 1 + 1 = day * 400 / 146097 + 2 from by omega]
  · have after := Int.not_lt.mp second
    unfold yearStart at after ⊢
    omega

theorem year_start_lt {year later : Int} (before : year < later) :
    yearStart year + 365 ≤ yearStart later := by
  unfold yearStart
  omega

/-! ## Months -/

/-- The days of the year before a month: February has 30 days first, then the months after
it lose the days that are too many. -/
def monthStart (year month : Int) : Int :=
  (367 * month + 5) / 12 - if month < 2 then 0 else 2 - leapDay year

def monthOf (year dayOfYear : Int) : Int :=
  (12 * (dayOfYear + if dayOfYear < 59 + leapDay year then 0 else 2 - leapDay year) + 6) / 367

theorem month_of_spec {year dayOfYear : Int} (first : 0 ≤ dayOfYear)
    (last : dayOfYear < 365 + leapDay year) :
    0 ≤ monthOf year dayOfYear ∧ monthOf year dayOfYear < 12 ∧
      monthStart year (monthOf year dayOfYear) ≤ dayOfYear ∧
      dayOfYear < monthStart year (monthOf year dayOfYear + 1) := by
  unfold monthOf monthStart
  rcases leap_day_cases year with common | leap
  · rw [common] at last ⊢
    split_ifs <;> omega
  · rw [leap] at last ⊢
    split_ifs <;> omega

theorem month_start_le {year month later : Int} (first : 0 ≤ month) (before : month < later)
    (last : later ≤ 12) :
    monthStart year (month + 1) ≤ monthStart year later ∧
      monthStart year later ≤ 365 + leapDay year := by
  unfold monthStart
  rcases leap_day_cases year with common | leap
  · rw [common]
    split_ifs <;> omega
  · rw [leap]
    split_ifs <;> omega

theorem month_length (year : Int) {month : Int} (first : 0 ≤ month) (last : month < 12) :
    monthStart year (month + 1) - monthStart year month ≤ 31 := by
  unfold monthStart
  rcases leap_day_cases year with common | leap
  · rw [common]
    split_ifs <;> omega
  · rw [leap]
    split_ifs <;> omega

/-! ## Dates -/

@[ext]
structure Date where
  year : Int
  month : Int
  day : Int
  deriving DecidableEq

structure Date.Valid (date : Date) : Prop where
  month : 0 ≤ date.month ∧ date.month < 12
  day : 1 ≤ date.day ∧
    date.day ≤ monthStart date.year (date.month + 1) - monthStart date.year date.month

def dayNumber (date : Date) : Int :=
  yearStart date.year + monthStart date.year date.month + (date.day - 1)

def dateOf (day : Int) : Date :=
  let year := yearOf day
  let dayOfYear := day - yearStart year
  let month := monthOf year dayOfYear
  ⟨year, month, dayOfYear - monthStart year month + 1⟩

theorem date_of_valid (day : Int) : (dateOf day).Valid ∧ dayNumber (dateOf day) = day := by
  obtain ⟨from', until'⟩ := year_of_spec day
  rw [year_start_succ] at until'
  have month := @month_of_spec (yearOf day) (day - yearStart (yearOf day)) (by omega) (by omega)
  unfold dayNumber dateOf
  refine ⟨⟨⟨month.1, month.2.1⟩, ?_⟩, ?_⟩
  · simp only
    omega
  · simp only
    omega

/-- The months of a year end with it. -/
theorem month_start_twelve (year : Int) : monthStart year 12 = 365 + leapDay year := by
  unfold monthStart
  rw [if_neg (by decide)]
  omega

theorem Date.Valid.in_month {date : Date} (valid : date.Valid) :
    0 ≤ monthStart date.year date.month ∧
      dayNumber date < yearStart date.year + monthStart date.year (date.month + 1) ∧
      monthStart date.year (date.month + 1) ≤ 365 + leapDay date.year := by
  obtain ⟨first, last⟩ := valid.day
  have within := @month_start_le date.year date.month 12 valid.month.1 valid.month.2 (Int.le_refl _)
  rw [month_start_twelve] at within
  refine ⟨?_, ?_, within.1⟩
  · unfold monthStart
    rcases leap_day_cases date.year with common | leap
    · rw [common]
      have := valid.month.1
      split_ifs <;> omega
    · rw [leap]
      have := valid.month.1
      split_ifs <;> omega
  · unfold dayNumber
    omega

/-- Dates follow each other by year, month and day. -/
theorem day_number_lt {date later : Date} (valid : date.Valid) (laterValid : later.Valid)
    (before : date.year < later.year ∨ date.year = later.year ∧
      (date.month < later.month ∨ date.month = later.month ∧ date.day < later.day)) :
    dayNumber date < dayNumber later := by
  have here := valid.in_month
  have there := laterValid.in_month
  have first := laterValid.day.1
  have start : yearStart later.year + monthStart later.year later.month ≤ dayNumber later := by
    unfold dayNumber
    omega
  rcases before with year | ⟨year, month | ⟨month, day⟩⟩
  · have years : yearStart (date.year + 1) ≤ yearStart later.year := by
      rcases Int.lt_or_eq_of_le (show date.year + 1 ≤ later.year from year) with far | next
      · have := year_start_lt far
        omega
      · exact Int.le_of_eq (congrArg yearStart next)
    rw [year_start_succ] at years
    omega
  · have months := @month_start_le date.year date.month later.month valid.month.1 month
      (Int.le_of_lt laterValid.month.2)
    rw [← year] at start
    omega
  · unfold dayNumber
    rw [← year, ← month]
    omega

/-! ## Times of day -/

structure Time extends Date where
  hour : Int
  minute : Int
  second : Int
  deriving DecidableEq

structure Time.Valid (time : Time) : Prop where
  date : time.toDate.Valid
  hour : 0 ≤ time.hour ∧ time.hour < 24
  minute : 0 ≤ time.minute ∧ time.minute < 60
  second : 0 ≤ time.second ∧ time.second < 60

def secondNumber (time : Time) : Int :=
  dayNumber time.toDate * 86400 + time.hour * 3600 + time.minute * 60 + time.second

def timeOf (second : Int) : Time :=
  let ofDay := second % 86400
  ⟨dateOf (second / 86400), ofDay / 3600, ofDay % 3600 / 60, ofDay % 60⟩

theorem time_of_valid (second : Int) :
    (timeOf second).Valid ∧ secondNumber (timeOf second) = second := by
  have day := date_of_valid (second / 86400)
  constructor
  · refine ⟨day.1, ?_, ?_, ?_⟩
    · simp only [timeOf]
      omega
    · simp only [timeOf]
      omega
    · simp only [timeOf]
      omega
  · simp only [secondNumber, timeOf, day.2]
    omega

/-- The numbers of a time, the greatest unit first. -/
def Time.numbers (time : Time) : List Int :=
  [time.year, time.month, time.day, time.hour, time.minute, time.second]

theorem date_or_later {time later : Time} (valid : time.Valid) (laterValid : later.Valid)
    (before : time.numbers < later.numbers) :
    dayNumber time.toDate < dayNumber later.toDate ∨ time.toDate = later.toDate ∧
      (time.hour < later.hour ∨ time.hour = later.hour ∧
        (time.minute < later.minute ∨ time.minute = later.minute ∧
          time.second < later.second)) := by
  simp only [Time.numbers, List.cons_lt_cons_iff, List.lt_irrefl, and_false, or_false] at before
  have earlier := fun order => day_number_lt valid.date laterValid.date order
  rcases before with year | ⟨year, month | ⟨month, day | ⟨day, rest⟩⟩⟩
  · exact .inl (earlier (.inl year))
  · exact .inl (earlier (.inr ⟨year, .inl month⟩))
  · exact .inl (earlier (.inr ⟨year, .inr ⟨month, day⟩⟩))
  · refine .inr ⟨?_, rest⟩
    cases time
    cases later
    simp only at year month day
    exact Date.ext year month day

/-- Times follow each other as the lists of their numbers do. -/
theorem second_number_lt {time later : Time} (valid : time.Valid) (laterValid : later.Valid)
    (before : time.numbers < later.numbers) : secondNumber time < secondNumber later := by
  have hour := valid.hour
  have minute := valid.minute
  have second := valid.second
  have laterHour := laterValid.hour
  have laterMinute := laterValid.minute
  have laterSecond := laterValid.second
  unfold secondNumber
  rcases date_or_later valid laterValid before with day | ⟨date, rest⟩
  · omega
  · rw [date]
    omega

theorem numbers_inj {time other : Time} (same : time.numbers = other.numbers) : time = other := by
  cases time with
  | mk date hour minute second =>
      cases other with
      | mk otherDate otherHour otherMinute otherSecond =>
          simp only [Time.numbers, List.cons.injEq, and_true] at same
          obtain ⟨year, month, day, rfl, rfl, rfl⟩ := same
          rw [Date.ext year month day]

theorem time_of_lt_iff (second later : Int) :
    (timeOf second).numbers < (timeOf later).numbers ↔ second < later := by
  have here := time_of_valid second
  have there := time_of_valid later
  constructor
  · intro before
    have order := second_number_lt here.1 there.1 before
    omega
  · intro before
    apply Decidable.byContradiction
    intro behind
    by_cases after : (timeOf later).numbers < (timeOf second).numbers
    · have order := second_number_lt there.1 here.1 after
      omega
    · have same := numbers_inj (List.le_antisymm after behind)
      rw [same] at here
      omega

end CivilCalendar
