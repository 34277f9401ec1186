namespace ScalarCell

/-! Distances of local time from UTC, to the second and below 26 hours either way. -/

structure UtcOffset where
  seconds : Int
  inRange : -93599 ≤ seconds ∧ seconds ≤ 93599
deriving DecidableEq, Repr

namespace UtcOffset

def utc : UtcOffset := ⟨0, by decide⟩

instance : Inhabited UtcOffset := ⟨utc⟩

/-! The three parts of an offset share its sign. -/

def hourPart (offset : UtcOffset) : Int :=
  offset.seconds.tdiv 3600

def minutePart (offset : UtcOffset) : Int :=
  (offset.seconds.tdiv 60).tmod 60

def secondPart (offset : UtcOffset) : Int :=
  offset.seconds.tmod 60

def isNegative (offset : UtcOffset) : Bool :=
  offset.seconds < 0

def withSignOf (sign value : Int) : Int :=
  if 0 < sign then value.natAbs else if sign < 0 then -(value.natAbs : Int) else value

/-- The offset of an hour, a minute and a second. The sign of the greatest part that is
not zero holds for those after it. -/
def ofParts? (hour minute second : Int) : Option UtcOffset :=
  if hour.natAbs ≤ 25 ∧ minute.natAbs ≤ 59 ∧ second.natAbs ≤ 59 then
    let minute := withSignOf hour minute
    let second := withSignOf (if hour = 0 then minute else hour) second
    let seconds := hour * 3600 + minute * 60 + second
    if inRange : -93599 ≤ seconds ∧ seconds ≤ 93599 then some ⟨seconds, inRange⟩ else none
  else
    none

end UtcOffset

end ScalarCell
