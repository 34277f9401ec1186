namespace ScalarCell

/-! Times of day to the nanosecond, without leap seconds. -/

def nanosecondsPerSecond : Nat := 1000000000

structure TimeOfDay where
  hour : Nat
  minute : Nat
  second : Nat
  nanosecond : Nat
  hour_lt : hour < 24
  minute_lt : minute < 60
  second_lt : second < 60
  nanosecond_lt : nanosecond < nanosecondsPerSecond
deriving DecidableEq, Repr

namespace TimeOfDay

def midnight : TimeOfDay :=
  ⟨0, 0, 0, 0, by decide, by decide, by decide, by decide⟩

instance : Inhabited TimeOfDay := ⟨midnight⟩

def ofParts? (hour minute second nanosecond : Nat) : Option TimeOfDay :=
  if inRange : hour < 24 ∧ minute < 60 ∧ second < 60 ∧
      nanosecond < nanosecondsPerSecond then
    some ⟨hour, minute, second, nanosecond,
      inRange.1, inRange.2.1, inRange.2.2.1, inRange.2.2.2⟩
  else
    none

def seconds (time : TimeOfDay) : Nat :=
  time.hour * 3600 + time.minute * 60 + time.second

def hourOfTwelve (time : TimeOfDay) : Nat :=
  if time.hour % 12 = 0 then 12 else time.hour % 12

end TimeOfDay

end ScalarCell
