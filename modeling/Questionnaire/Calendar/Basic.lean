namespace Questionnaire.Calendar

def isLeapYear (year : Int) : Bool :=
  year % 4 = 0 && (year % 100 ≠ 0 || year % 400 = 0)

/-- The length of a month; 0 for a number that is no month. -/
def daysInMonth (year : Int) (month : Nat) : Nat :=
  match month with
  | 1 | 3 | 5 | 7 | 8 | 10 | 12 => 31
  | 4 | 6 | 9 | 11 => 30
  | 2 => if isLeapYear year then 29 else 28
  | _ => 0

/-- A date of the Gregorian calendar, extended to the years -9999 to 9999. -/
structure Date where
  year : Int
  month : Nat
  day : Nat
  year_inRange : -9999 ≤ year ∧ year ≤ 9999
  day_inMonth : 1 ≤ day ∧ day ≤ daysInMonth year month
  deriving DecidableEq

def Date.of? (year : Int) (month day : Nat) : Option Date :=
  if h : (-9999 ≤ year ∧ year ≤ 9999) ∧ (1 ≤ day ∧ day ≤ daysInMonth year month) then
    some ⟨year, month, day, h.1, h.2⟩
  else none

theorem Date.month_inRange (d : Date) : 1 ≤ d.month ∧ d.month ≤ 12 := by
  have h := d.day_inMonth
  unfold daysInMonth at h
  split at h <;> omega

theorem Date.of?_self (d : Date) : Date.of? d.year d.month d.day = some d := by
  unfold of?
  rw [dif_pos ⟨d.year_inRange, d.day_inMonth⟩]

structure TimeOfDay where
  hour : Nat
  minute : Nat
  second : Nat
  nanosecond : Nat
  hour_lt : hour < 24
  minute_lt : minute < 60
  second_lt : second < 60
  nanosecond_lt : nanosecond < 1000000000
  deriving DecidableEq

def TimeOfDay.of? (hour minute second nanosecond : Nat) : Option TimeOfDay :=
  if h : hour < 24 ∧ minute < 60 ∧ second < 60 ∧ nanosecond < 1000000000 then
    some ⟨hour, minute, second, nanosecond, h.1, h.2.1, h.2.2.1, h.2.2.2⟩
  else none

theorem TimeOfDay.of?_self (t : TimeOfDay) :
    TimeOfDay.of? t.hour t.minute t.second t.nanosecond = some t := by
  unfold of?
  rw [dif_pos ⟨t.hour_lt, t.minute_lt, t.second_lt, t.nanosecond_lt⟩]

def TimeOfDay.midnight : TimeOfDay :=
  ⟨0, 0, 0, 0, by decide, by decide, by decide, by decide⟩

/-- The distance of a local clock from UTC, to the east; less than 26 hours. -/
structure Offset where
  seconds : Int
  inRange : seconds.natAbs < 93600
  deriving DecidableEq

def Offset.of? (seconds : Int) : Option Offset :=
  if h : seconds.natAbs < 93600 then some ⟨seconds, h⟩ else none

def Offset.utc : Offset := ⟨0, by decide⟩

/-- A local clock together with its distance from UTC. -/
structure Moment where
  date : Date
  time : TimeOfDay
  offset : Offset
  deriving DecidableEq

instance : Inhabited Date := ⟨⟨0, 1, 1, by decide, by decide⟩⟩
instance : Inhabited TimeOfDay := ⟨.midnight⟩
instance : Inhabited Offset := ⟨.utc⟩
instance : Inhabited Moment := ⟨⟨default, default, default⟩⟩

-- The empty sum is the literal zero.
attribute [local instance (20000)] Zero.ofOfNat0

/-- Days of the year before a month. -/
def daysBeforeMonth (year : Int) (month : Nat) : Nat :=
  ((List.range (month - 1)).map fun m => daysInMonth year (m + 1)).sum

/-- The number of a date in a count of days; divisions round down. -/
def Date.dayNumber (d : Date) : Int :=
  let y := d.year - 1
  365 * y + y / 4 - y / 100 + y / 400 + daysBeforeMonth d.year d.month + d.day

/-- The second of the day. -/
def TimeOfDay.secondNumber (t : TimeOfDay) : Nat :=
  (t.hour * 60 + t.minute) * 60 + t.second

/-- The nanosecond of a moment on the one clock that all moments share. -/
def Moment.instant (m : Moment) : Int :=
  (m.date.dayNumber * 86400 + m.time.secondNumber - m.offset.seconds) * 1000000000 +
    m.time.nanosecond

/-- Whether two moments are the same instant, whatever their local clocks show. -/
def Moment.sameInstant (a b : Moment) : Bool :=
  a.instant == b.instant

/-- Whether the minute of a moment is the last one of a month on the UTC clock. -/
def Moment.inLastMinuteOfMonth (m : Moment) : Bool :=
  -- offsets with seconds do not occur here, so whole minutes suffice
  let minute : Int := m.time.hour * 60 + m.time.minute - m.offset.seconds / 60
  let length := daysInMonth m.date.year m.date.month
  minute % 1440 == 1439 &&
    -- the UTC date is the local one, the day before it or the day after it
    (match minute / 1440 with
    | -1 => m.date.day == 1
    | 0 => m.date.day == length
    | 1 => m.date.day + 1 == length
    | _ => false)

end Questionnaire.Calendar
