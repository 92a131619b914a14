import ProtoModules.Data.Decimal

/-! Dates and times of day. A moment is read as it is written, and checked afterwards: the first part
that no calendar or clock has is named. -/

namespace ProtoModules.Data

def isLeapYear (year : Nat) : Bool := year % 4 == 0 && (year % 100 != 0 || year % 400 == 0)

def daysIn (year month : Nat) : Nat :=
  if month == 2 then if isLeapYear year then 29 else 28
  else if [4, 6, 9, 11].contains month then 30 else 31

inductive MomentFault where
  | year (written : Nat)
  | month
  | day
  | hour
  | minute
  | second
  /-- An offset of a day or more, in days and seconds that are not negative. -/
  | offset (days : Int) (seconds : Nat)
  deriving DecidableEq

structure TimeOfDay where
  hour : Nat
  minute : Nat
  second : Nat
  /-- The distance from the time of the prime meridian, in minutes. -/
  offset : Int := 0

structure Moment where
  year : Nat
  month : Nat
  day : Nat
  time : Option TimeOfDay := none

namespace TimeOfDay

def fault? (t : TimeOfDay) : Option MomentFault :=
  if 23 < t.hour then some .hour
  else if 59 < t.minute then some .minute
  else if 59 < t.second then some .second
  else none

def offsetFault? (t : TimeOfDay) : Option MomentFault :=
  if t.offset.natAbs < 1440 then none
  else some (.offset (t.offset / 1440) (60 * (t.offset % 1440).toNat))

end TimeOfDay

namespace Moment

def dateFault? (m : Moment) : Option MomentFault :=
  if m.year = 0 then some (.year m.year)
  else if m.month < 1 || 12 < m.month then some .month
  else if m.day < 1 || daysIn m.year m.month < m.day then some .day
  else none

/-- The offset is looked at first, then the date and last the time. -/
def fault? (m : Moment) : Option MomentFault :=
  (m.time.bind TimeOfDay.offsetFault?).orElse fun _ =>
    m.dateFault?.orElse fun _ => m.time.bind TimeOfDay.fault?

end Moment

namespace MomentFault

def message : MomentFault → String
  | year written => "year " ++ toString written ++ " is out of range"
  | month => "month must be in 1..12"
  | day => "day is out of range for month"
  | hour => "hour must be in 0..23"
  | minute => "minute must be in 0..59"
  | second => "second must be in 0..59"
  | offset days seconds =>
    "offset must be a timedelta strictly between -timedelta(hours=24) and timedelta(hours=24), "
      ++ "not datetime.timedelta(days=" ++ toString days
      ++ (if seconds = 0 then "" else ", seconds=" ++ toString seconds) ++ ")."

end MomentFault

end ProtoModules.Data
