import RecordGateway.Client.Exchange

/-!
# Producers

A producer sends records for one publication. Handing it a record is not yet
sending it: the end of the send is signalled later, or at once, or never.

## Main definitions

* `Producer`: the calls that a producer answers.
-/

namespace RecordGateway

/-- The calls of a producer in a world `σ`. -/
structure Producer (σ : Type) where
  /-- Make the producer. -/
  create : Answer σ Unit
  /-- Take on a record to send; the signal, if the send has ended already. -/
  send : Outgoing → Answer σ (Option Signal)
  /-- Close the producer within a time. -/
  close : Number → Answer σ Unit

end RecordGateway
