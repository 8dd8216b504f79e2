import RecordGateway.Record.Basic
import RecordGateway.Time.Instant

/-!
# What the Broker Reports

The broker may leave out the offset and the timestamp of a record, or give a
negative number to the same effect. Such a value is left out of the record that
is shown. Zero is a value like any other.

## Main definitions

* `Reported.offset`: an offset as it is shown.
* `Reported.timestamp`: a timestamp as it is shown.
-/

namespace RecordGateway

namespace Reported

/-- A reported offset as it is shown: left out when there is none or when it is
    negative. -/
def offset : Option Int → Slot Int
  | none => .unset
  | some n => if n < 0 then .unset else .value n

/-- A reported timestamp as it is shown: left out when there is none or when it
    is negative. One beyond the calendar cannot be shown. -/
def timestamp : Option Instant → Except RangeError (Slot String)
  | none => .ok .unset
  | some t => if t < 0 then .ok .unset else t.render.map .value

end Reported

end RecordGateway
