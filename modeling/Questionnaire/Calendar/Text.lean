import Questionnaire.Calendar.Basic
import Questionnaire.Number.Digits

namespace Questionnaire.Calendar

open Questionnaire.Number (isDigit natOfDigits paddedDigits)

def Date.chars (d : Date) : List Char :=
  (if d.year < 0 then ['-'] else []) ++ paddedDigits 4 d.year.natAbs ++
    '-' :: paddedDigits 2 d.month ++ '-' :: paddedDigits 2 d.day

def Date.text (d : Date) : String :=
  String.ofList d.chars

def TimeOfDay.chars (t : TimeOfDay) : List Char :=
  paddedDigits 2 t.hour ++ ':' :: paddedDigits 2 t.minute ++ ':' :: paddedDigits 2 t.second

/-- The time to the second. -/
def TimeOfDay.text (t : TimeOfDay) : String :=
  String.ofList t.chars

/-- The digits of the nanoseconds, without zeros at the end. -/
def TimeOfDay.fractionDigits (t : TimeOfDay) : List Char :=
  ((paddedDigits 9 t.nanosecond).reverse.dropWhile (· = '0')).reverse

/-- `Z` for UTC, else the sign, hours and minutes. -/
def Offset.chars (o : Offset) : List Char :=
  if o.seconds = 0 then ['Z']
  else
    (if o.seconds < 0 then '-' else '+') :: paddedDigits 2 (o.seconds.natAbs / 3600) ++
      ':' :: paddedDigits 2 (o.seconds.natAbs / 60 % 60)

/-- What RFC 3339 can hold: a year that is not negative, an offset in whole minutes below a day. -/
def Moment.isRfc3339 (m : Moment) : Bool :=
  0 ≤ m.date.year && m.offset.seconds % 60 = 0 && m.offset.seconds.natAbs < 86400

def Moment.rfc3339Chars (m : Moment) : List Char :=
  let fraction := m.time.fractionDigits
  m.date.chars ++ 'T' :: m.time.chars ++ (if fraction.isEmpty then [] else '.' :: fraction) ++
    m.offset.chars

/-- A longer form for all other moments: the hour is not padded, the fraction has at least one
digit, and the offset has seconds. -/
def Moment.longChars (m : Moment) : List Char :=
  let fraction := m.time.fractionDigits
  m.date.chars ++ ' ' :: Questionnaire.Number.digitsOfNat m.time.hour ++
    ':' :: paddedDigits 2 m.time.minute ++ ':' :: paddedDigits 2 m.time.second ++
    '.' :: (if fraction.isEmpty then ['0'] else fraction) ++
    ' ' :: (if m.offset.seconds < 0 then '-' else '+') ::
      paddedDigits 2 (m.offset.seconds.natAbs / 3600) ++
    ':' :: paddedDigits 2 (m.offset.seconds.natAbs / 60 % 60) ++
    ':' :: paddedDigits 2 (m.offset.seconds.natAbs % 60)

/-- The moment as RFC 3339 where that format can hold it. -/
def Moment.text (m : Moment) : String :=
  String.ofList (if m.isRfc3339 then m.rfc3339Chars else m.longChars)

/-- Exactly `width` digits. -/
def takeNumber? (width : Nat) (cs : List Char) : Option (Nat × List Char) :=
  let digits := cs.take width
  if digits.length = width && digits.all isDigit then some (natOfDigits digits, cs.drop width)
  else none

def takeChar? (c : Char) : List Char → Option (List Char)
  | [] => none
  | x :: rest => if x = c then some rest else none

/-- A year of four digits with an optional sign. -/
def takeYear? (cs : List Char) : Option (Int × List Char) :=
  match cs with
  | '-' :: rest => (takeNumber? 4 rest).map fun (n, rest) => (-(n : Int), rest)
  | '+' :: rest => (takeNumber? 4 rest).map fun (n, rest) => ((n : Int), rest)
  | rest => (takeNumber? 4 rest).map fun (n, rest) => ((n : Int), rest)

/-- Month and day after the year. -/
def takeMonthDay? (year : Int) (cs : List Char) : Option (Date × List Char) := do
  let cs ← takeChar? '-' cs
  let (month, cs) ← takeNumber? 2 cs
  let cs ← takeChar? '-' cs
  let (day, cs) ← takeNumber? 2 cs
  let date ← Date.of? year month day
  return (date, cs)

def takeDate? (cs : List Char) : Option (Date × List Char) := do
  let (year, cs) ← takeYear? cs
  takeMonthDay? year cs

/-- Hour and minute. -/
def takeClock? (cs : List Char) : Option (Nat × Nat × List Char) := do
  let (hour, cs) ← takeNumber? 2 cs
  let cs ← takeChar? ':' cs
  let (minute, cs) ← takeNumber? 2 cs
  return (hour, minute, cs)

/-- Hours, minutes and, if they are there, seconds. They must be all of the text. -/
def timeOf? (cs : List Char) : Option TimeOfDay := do
  let (hour, minute, cs) ← takeClock? cs
  match cs with
  | [] => TimeOfDay.of? hour minute 0 0
  | ':' :: cs =>
    let (second, cs) ← takeNumber? 2 cs
    if cs.isEmpty then TimeOfDay.of? hour minute second 0 else none
  | _ => none

/-- A date alone. -/
def dateOf? (cs : List Char) : Option Date := do
  let (date, cs) ← takeDate? cs
  if cs.isEmpty then some date else none

/-- A date and a time without an offset, with `T` or a space between them. -/
def localOf? (cs : List Char) : Option (Date × TimeOfDay) := do
  let (date, cs) ← takeDate? cs
  match cs with
  | 'T' :: cs | ' ' :: cs => (timeOf? cs).map fun time => (date, time)
  | _ => none

/-- A point and digits; digits after the ninth are dropped. No point is no fraction. -/
def takeNanoseconds? (cs : List Char) : Option (Nat × List Char) :=
  match cs with
  | '.' :: cs =>
    let digits := cs.takeWhile isDigit
    if digits.isEmpty then none
    else some (natOfDigits ((digits ++ List.replicate 9 '0').take 9), cs.dropWhile isDigit)
  | cs => some (0, cs)

/-- An offset at the end of the text: `Z`, or a sign with hours below 24 and minutes below 60. -/
def offsetOf? (cs : List Char) : Option Offset :=
  match cs with
  | ['Z'] | ['z'] => some .utc
  | sign :: cs => do
    let (hours, minutes, cs) ← takeClock? cs
    if cs.isEmpty && hours < 24 && minutes < 60 then
      let seconds : Int := (hours * 60 + minutes) * 60
      if sign = '+' then Offset.of? seconds
      else if sign = '-' then Offset.of? (-seconds)
      else none
    else none
  | [] => none

/-- RFC 3339 with any ASCII character between date and time. Second 60 is read as the last
nanosecond of second 59, and only where a leap second can be: in the last minute of a month. -/
def rfc3339Of? (cs : List Char) : Option Moment := do
  let (year, cs) ← takeNumber? 4 cs
  let (date, cs) ← takeMonthDay? year cs
  let separator ← cs.head?
  if 0x7F < separator.toNat then none
  else
    let (hour, minute, cs) ← takeClock? (cs.drop 1)
    let cs ← takeChar? ':' cs
    let (second, cs) ← takeNumber? 2 cs
    let (nanosecond, cs) ← takeNanoseconds? cs
    let offset ← offsetOf? cs
    if second = 60 then
      let time ← TimeOfDay.of? hour minute 59 999999999
      let moment : Moment := ⟨date, time, offset⟩
      if moment.inLastMinuteOfMonth then some moment else none
    else
      let time ← TimeOfDay.of? hour minute second nanosecond
      return ⟨date, time, offset⟩

/-- A moment: RFC 3339, a local date and time, or a date at midnight; without an offset, UTC. -/
def momentOf? (cs : List Char) : Option Moment :=
  rfc3339Of? cs <|>
  (localOf? cs).map (fun (date, time) => ⟨date, time, .utc⟩) <|>
  (dateOf? cs).map (fun date => ⟨date, .midnight, .utc⟩)

def Moment.ofText? (s : String) : Option Moment :=
  momentOf? s.toList

/-- A date, or the date of a moment. -/
def Date.ofText? (s : String) : Option Date :=
  dateOf? s.toList <|> (momentOf? s.toList).map (·.date)

/-- A time, or the time of a moment. -/
def TimeOfDay.ofText? (s : String) : Option TimeOfDay :=
  timeOf? s.toList <|> (momentOf? s.toList).map (·.time)

end Questionnaire.Calendar
