import ScalarCell.Calendar.Date
import ScalarCell.Calendar.TimeOfDay
import ScalarCell.Calendar.UtcOffset

namespace ScalarCell

/-! A local date and time together with its offset from UTC. Two timestamps are the same
instant when they agree after the offset is taken away; as values they may still differ. -/

structure Timestamp where
  date : Date
  time : TimeOfDay
  offset : UtcOffset
deriving DecidableEq, Repr

def secondsPerDay : Nat := 86400

def epochDay : Int := 719162

namespace Timestamp

def epoch : Timestamp := ⟨.epoch, .midnight, .utc⟩

instance : Inhabited Timestamp := ⟨epoch⟩

def unixSeconds (timestamp : Timestamp) : Int :=
  (timestamp.date.dayNumber - epochDay) * secondsPerDay + timestamp.time.seconds
    - timestamp.offset.seconds

def unixNanoseconds (timestamp : Timestamp) : Int :=
  timestamp.unixSeconds * nanosecondsPerSecond + timestamp.time.nanosecond

def sameInstant (left right : Timestamp) : Bool :=
  left.unixNanoseconds == right.unixNanoseconds

def InstantInRange (nanoseconds : Int) : Prop :=
  -377705116800 * (nanosecondsPerSecond : Int) ≤ nanoseconds
    ∧ nanoseconds < 253402300800 * (nanosecondsPerSecond : Int)

instance (nanoseconds : Int) : Decidable (InstantInRange nanoseconds) :=
  inferInstanceAs (Decidable (_ ∧ _))

def ofUnixNanoseconds? (nanoseconds : Int) : Option Timestamp :=
  let seconds := nanoseconds / nanosecondsPerSecond
  let inDay := (seconds % secondsPerDay).toNat
  match Date.ofDayNumber? (epochDay + seconds / secondsPerDay),
      TimeOfDay.ofParts? (inDay / 3600) (inDay / 60 % 60) (inDay % 60)
        (nanoseconds % nanosecondsPerSecond).toNat with
  | some date, some time => some ⟨date, time, .utc⟩
  | _, _ => none

end Timestamp

end ScalarCell
