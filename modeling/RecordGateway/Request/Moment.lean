import RecordGateway.Failure
import RecordGateway.Time.Notation

/-!
# Moments in a Request

A request may name an instant: where a read begins, or the timestamp of a
record to write. No text names no instant. A text that does not name one is
refused, and the refusal shows the text as it came.

## Main definitions

* `Moment.parse`: the instant that a request names, if it names one.
-/

namespace RecordGateway

namespace Moment

/-- The instant that a request names, if it names one. -/
def parse : Option LooseText → Except Failure (Option Instant)
  | none => .ok none
  | some text =>
    match text.toString?.bind Instant.parse? with
    | some t => .ok (some t)
    | none => .error (.badTimestamp text)

end Moment

end RecordGateway
