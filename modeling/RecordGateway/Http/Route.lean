import RecordGateway.Http.Message
import RecordGateway.Http.Percent

/-!
# Routes

The service answers at one kind of path, that of the records of a topic. A topic
in a path is not empty and has no slash. A path may end in a line break, which is
not part of it.

A path with slashes too many at its end is sent to the one without them,
whatever the method, if the service answers there. Any other path is unknown,
and a known path knows two methods.

## Main definitions

* `Route.topic?`: the topic whose records a path names.
* `Route`: what a request is for.
* `Route.of`: find the route of a request.
-/

namespace RecordGateway

namespace Http

/-- What a request is for. -/
inductive Route where
  /-- To read records of a topic. -/
  | read (topic : String)
  /-- To write a record to a topic. -/
  | write (topic : String)
  /-- To do something that a known path does not know. -/
  | wrongMethod
  /-- To do something at another address. -/
  | elsewhere (location : String)
  /-- Nothing that is known. -/
  | unknown
  deriving DecidableEq, Repr

namespace Route

/-- The first part of the path of records. -/
def pathBefore : List Char := "/api/v1/topics/".toList

/-- The last part of the path of records. -/
def pathAfter : List Char := "/records".toList

/-- What is left of a list after its beginning. -/
def afterBeginning? (beginning : List Char) (cs : List Char) : Option (List Char) :=
  if beginning.isPrefixOf cs then some (cs.drop beginning.length) else none

/-- A path without one line break at its end. -/
def withoutBreak (cs : List Char) : List Char :=
  if cs.getLast? = some '\n' then cs.dropLast else cs

/-- The topic of a path that is known. -/
def topicOf? (path : List Char) : Option (List Char) := do
  let rest ← afterBeginning? pathBefore path
  let topic ← (afterBeginning? pathAfter.reverse rest.reverse).map List.reverse
  if topic.isEmpty || topic.contains '/' then none else some topic

/-- The topic whose records a path names. -/
def topic? (path : String) : Option String :=
  (topicOf? (withoutBreak path.toList)).map String.ofList

/-- A path without the slashes at its end. -/
def withoutSlashes (path : String) : String :=
  String.ofList (path.toList.reverse.dropWhile (· = '/')).reverse

/-- The full address of a path on a host. -/
def location (host path query : String) : String :=
  "http://" ++ host ++ Percent.encode Percent.mayStandInPath path ++
    if query = "" then "" else "?" ++ Percent.encode Percent.mayStand query

/-- The route of a request. -/
def of (r : Request) : Route :=
  match topic? r.path with
  | some topic =>
    if r.method = "GET" then .read topic
    else if r.method = "POST" then .write topic
    else .wrongMethod
  | none =>
    let shorter := withoutSlashes r.path
    if shorter ≠ r.path ∧ (topic? shorter).isSome then
      .elsewhere (location r.host shorter r.query)
    else .unknown

end Route

end Http

end RecordGateway
