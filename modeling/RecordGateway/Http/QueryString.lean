import RecordGateway.Http.Percent
import RecordGateway.Text.Split

/-!
# Query Strings

The part of an address after the question mark holds pairs of a name and a
value. Pairs are separated by `&` alone, and empty ones are skipped. The first
`=` of a pair ends its name; a pair without one has an empty value. A plus sign
stands for a space, and then percent escapes are read.

A query string arrives as bytes, of which each stands for the character with its
number, so that a character beyond ASCII can only be written with escapes.

A name may repeat. A parameter with one value takes the last of them, and a
parameter with many takes all, in order.

## Main definitions

* `QueryString.pairs`: the pairs of a query string.
* `QueryString.last?`: the last value of a name.
* `QueryString.values`: all values of a name.
-/

namespace RecordGateway

namespace QueryString

/-- The characters for which the bytes of a query string stand. -/
def characters (query : String) : List Char :=
  (Text.encode query).map fun b => Char.ofNat b.toNat

/-- Read a name or a value. -/
def component (cs : List Char) : String :=
  String.ofList (Percent.decode (cs.map fun c => if c = '+' then ' ' else c))

/-- The name and the value of a pair. -/
def pair (cs : List Char) : String × String :=
  match Text.splitFirst '=' cs with
  | some (name, value) => (component name, component value)
  | none => (component cs, "")

/-- The pairs of a query string, in order. -/
def pairs (query : String) : List (String × String) :=
  ((Text.splitOn '&' (characters query)).filter fun piece => !piece.isEmpty).map pair

/-- All values of a name, in order. -/
def values (name : String) (ps : List (String × String)) : List String :=
  (ps.filter fun p => p.1 = name).map Prod.snd

/-- The last value of a name. -/
def last? (name : String) (ps : List (String × String)) : Option String :=
  (values name ps).getLast?

end QueryString

end RecordGateway
