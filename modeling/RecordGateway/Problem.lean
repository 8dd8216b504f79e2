import RecordGateway.Failure
import RecordGateway.Json.Basic

/-!
# Problem Documents

A failure is reported as a problem document: a type, a title, the status and a
detail. A failure of an operation that has nothing to say leaves the detail
null; the other failures always say their detail, even an empty one.

A document that is sent has one member more, `instance`: a random identifier of
the occurrence, drawn anew for each document. Nothing here depends on it or says
anything of it, and it is left out.

## Main definitions

* `Problem`: the document.
* `Problem.of`: the document of a failure.
* `Problem.toJson`: its JSON form.
-/

namespace RecordGateway

/-- A problem document. -/
structure Problem where
  /-- A short summary of the kind of problem. -/
  title : String
  /-- The HTTP status. -/
  status : Nat
  /-- What happened this time. -/
  detail : Option String
  deriving DecidableEq, Repr

namespace Problem

/-- The type of every problem: none beyond its status. -/
def type : String := "about:blank"

/-- The problem document of a failure. -/
def of (f : Failure) : Problem :=
  { title := f.title
    status := f.status
    detail := if f.standing = .operation ∧ f.message = "" then none else some f.message }

/-- The JSON form of a problem document. -/
def toJson (p : Problem) : Json :=
  .obj
    [("type", .text type), ("title", .text p.title), ("status", .int p.status),
     ("detail", (p.detail.map Json.text).getD .null)]

end Problem

end RecordGateway
