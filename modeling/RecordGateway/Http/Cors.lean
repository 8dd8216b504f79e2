import RecordGateway.Http.Message

/-!
# Cross-Origin Requests

A browser names the origin of the page that calls. The service answers any
origin, but repeats only an allowed one, so that browsers keep the answer from
the others. Credentials are always allowed.

Before some calls a browser asks whether it may make them. Such a question has a
method of its own and names the method of the call. It is answered at any path.
Whoever asks for access to a private network, in whatever words, is refused.

## Main definitions

* `Cors.headers`: what is added to a response.
* `Cors.question?`: whether a request is a question in advance.
* `Cors.preflight`: the answer to one.
-/

namespace RecordGateway

namespace Http

namespace Cors

/-- The methods that may be called. -/
def methods : List String :=
  ["DELETE", "GET", "HEAD", "OPTIONS", "PATCH", "POST", "PUT", "QUERY"]

/-- What is added to a response for an origin. -/
def headersFor (allowed : List LooseText) (origin : String) : List (String × String) :=
  [("access-control-allow-credentials", "true")] ++
    (if allowed.contains ↑origin then [("access-control-allow-origin", origin)] else [])

/-- What is added to the response to a request: nothing if no origin calls. -/
def headers (allowed : List LooseText) (r : Request) : List (String × String) :=
  ((r.header? "origin").map (headersFor allowed)).getD []

/-- The origin and the method of a question in advance. -/
def question? (r : Request) : Option (String × String) := do
  let origin ← r.header? "origin"
  let method ← r.header? "access-control-request-method"
  if r.method = "OPTIONS" then some (origin, method) else none

/-- Whether a question in advance asks for access to a private network. -/
def asksForPrivateNetwork (r : Request) : Bool :=
  (r.header? "access-control-request-private-network").isSome

/-- The answer to a question in advance: what is not allowed, if anything. -/
def preflight (allowed : List LooseText) (r : Request) (origin method : String) : Response :=
  let failures :=
    (if allowed.contains ↑origin then [] else ["origin"]) ++
      (if methods.contains method then [] else ["method"]) ++
      (if asksForPrivateNetwork r then ["private-network"] else [])
  let answer :=
    if failures.isEmpty then Response.text 200 "OK"
    else Response.text 400 ("Disallowed CORS " ++ String.intercalate ", " failures)
  answer.withHeaders (headersFor allowed origin)

end Cors

end Http

end RecordGateway
