import SqlTemplate.Number.Digits

/-
  Dates, times of day and moments, in the two forms in which
  they are written: the standard one for SQL literals and the
  one messages show.

  Key definitions include:
    * `Date`
    * `TimeOfDay`
    * `Moment`
    * `Date.iso`
    * `TimeOfDay.iso`
    * `Moment.iso`
    * `Date.shown`
    * `TimeOfDay.shown`
    * `Moment.shown`
-/

------------------------------------------------------------
-- Dates and Times
------------------------------------------------------------

namespace SqlTemplate

/- A day of the calendar. -/
structure Date where
  year : Nat
  month : Nat
  day : Nat
deriving DecidableEq, Repr, Inhabited

/-
  A time of day, with the distance of its clock from universal
  time in seconds if that is known.
-/
structure TimeOfDay where
  hour : Nat
  minute : Nat
  second : Nat
  microsecond : Nat
  offset : Option Int
deriving DecidableEq, Repr, Inhabited

/- A time on a day. -/
structure Moment where
  date : Date
  time : TimeOfDay
deriving DecidableEq, Repr, Inhabited

------------------------------------------------------------
-- Standard Form
------------------------------------------------------------

/- Year, month and day, joined by hyphens. -/
def Date.iso (d : Date) : List Char :=
  Digits.fixed 4 d.year ++ '-' :: Digits.fixed 2 d.month ++
    '-' :: Digits.fixed 2 d.day

/- The offset of a clock: hours and minutes, seconds if any. -/
def isoOffset (offset : Int) : List Char :=
  let n := offset.natAbs
  (if offset < 0 then '-' else '+') ::
    (Digits.fixed 2 (n / 3600) ++
      ':' :: Digits.fixed 2 (n / 60 % 60) ++
        (if n % 60 = 0 then [] else ':' :: Digits.fixed 2 (n % 60)))

/-
  Hour, minute and second, then the fraction of a second and
  the offset if there are any.
-/
def TimeOfDay.iso (t : TimeOfDay) : List Char :=
  Digits.fixed 2 t.hour ++ ':' :: Digits.fixed 2 t.minute ++
    ':' :: Digits.fixed 2 t.second ++
      (if t.microsecond = 0 then
        []
      else
        '.' :: Digits.fixed 6 t.microsecond) ++
        (t.offset.map isoOffset).getD []

/- The date and the time, with a blank between them. -/
def Moment.iso (m : Moment) : List Char :=
  m.date.iso ++ ' ' :: m.time.iso

------------------------------------------------------------
-- Shown Form
------------------------------------------------------------

/- Numbers between brackets after the name of their type. -/
def shownFields
    (name : String)
    (fields : List Nat)
    (zone : String) : String :=
  name ++ "(" ++
    ", ".intercalate (fields.map Digits.text) ++
      zone ++ ")"

/- A clock's offset as the last field of a shown time. -/
def shownZone : Option Int → String
| none => ""
| some offset =>
    if offset = 0 then
      ", tzinfo=datetime.timezone.utc"
    else
      let days := offset.fdiv 86400
      let seconds := offset.fmod 86400
      let parts :=
        (if days = 0 then [] else ["days=" ++ Digits.textInt days]) ++
          (if seconds = 0 then [] else ["seconds=" ++ Digits.textInt seconds])
      ", tzinfo=datetime.timezone(datetime.timedelta(" ++
        ", ".intercalate parts ++ "))"

/-
  The fields of a time; seconds and microseconds are left out
  when nothing but zeros would follow.
-/
def TimeOfDay.fields (t : TimeOfDay) : List Nat :=
  [t.hour, t.minute] ++
    (if t.microsecond ≠ 0 then
      [t.second, t.microsecond]
    else if t.second ≠ 0 then
      [t.second]
    else
      [])

/- The shown form of a date. -/
def Date.shown (d : Date) : String :=
  shownFields "datetime.date" [d.year, d.month, d.day] ""

/- The shown form of a time. -/
def TimeOfDay.shown (t : TimeOfDay) : String :=
  shownFields "datetime.time" t.fields (shownZone t.offset)

/- The shown form of a moment. -/
def Moment.shown (m : Moment) : String :=
  shownFields "datetime.datetime"
    ([m.date.year, m.date.month, m.date.day] ++ m.time.fields)
    (shownZone m.time.offset)

end SqlTemplate
