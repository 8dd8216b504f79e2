import RecordGateway.Entries
import RecordGateway.Number.Shortest
import RecordGateway.Text.Quoted

/-!
# JSON Values

The values of JSON, with whole numbers of any size kept apart from numbers with
a fraction or an exponent. The members of an object keep the order in which
their names first came; a repeated name keeps its first place and takes its
last value. Strings and names are loose texts, since an escape can name half of
a surrogate pair.

A value also has a displayed form, in which an origin list shows members that
are not strings: `True`, `None`, `[1, 'a']`. It is a form for people, and no
reader takes it back.

## Main definitions

* `Json`: a value.
* `Json.Members`: the members of an object.
* `Json.text`: a string as a value.
* `Json.given`: the member for a value that may have been given.
* `Json.member?`: the value of a member.
* `Json.display`: the displayed form.
* `Json.hasNonFinite`: whether a value holds a number that JSON cannot write.
* `Json.prune`: a value without some members.
-/

namespace RecordGateway

/-- A JSON value. -/
inductive Json where
  /-- The null value. -/
  | null
  /-- A truth value. -/
  | bool (b : Bool)
  /-- A whole number, written without point and exponent. -/
  | int (n : Int)
  /-- A number written with a point or an exponent. -/
  | real (x : Binary64)
  /-- A string. -/
  | str (t : LooseText)
  /-- An array. -/
  | arr (items : List Json)
  /-- An object, its members in order. -/
  | obj (members : List (LooseText × Json))
  deriving Repr

namespace Json

/-- The members of an object, in order. -/
abbrev Members := List (LooseText × Json)

/-- A string as a value. -/
def text (s : String) : Json :=
  .str (.ofString s)

/-- The member for a value that may have been given: none when it was not. -/
def given {α : Type} (key : String) (encode : α → Json) : Option α → Members
  | some a => [(key, encode a)]
  | none => []

/-- The value of a member of an object. -/
def member? (key : String) : Json → Option Json
  | .obj members => Entries.get? (LooseText.ofString key) members
  | _ => none

mutual

/-- Whether a value holds an infinity or not-a-number anywhere. -/
def hasNonFinite : Json → Bool
  | .real x => !x.isFinite
  | .arr items => anyNonFinite items
  | .obj members => anyMemberNonFinite members
  | _ => false

/-- Whether an item of a list holds a number that is not finite. -/
def anyNonFinite : List Json → Bool
  | [] => false
  | v :: rest => v.hasNonFinite || anyNonFinite rest

/-- Whether a member of a list holds a number that is not finite. -/
def anyMemberNonFinite : Members → Bool
  | [] => false
  | (_, v) :: rest => v.hasNonFinite || anyMemberNonFinite rest

end

mutual

/-- A value without the members whose names are to be left out, at any depth. -/
def prune (leaveOut : LooseText → Bool) : Json → Json
  | .arr items => .arr (pruneItems leaveOut items)
  | .obj members => .obj (pruneMembers leaveOut members)
  | v => v

/-- The items of an array, pruned. -/
def pruneItems (leaveOut : LooseText → Bool) : List Json → List Json
  | [] => []
  | v :: rest => v.prune leaveOut :: pruneItems leaveOut rest

/-- The members of an object that are not left out, pruned. -/
def pruneMembers (leaveOut : LooseText → Bool) : Members → Members
  | [] => []
  | (key, v) :: rest =>
    if leaveOut key then pruneMembers leaveOut rest
    else (key, v.prune leaveOut) :: pruneMembers leaveOut rest

end

mutual

/-- The form in which a value stands inside a displayed array or object, where
    strings are quoted. -/
def displayItem : Json → String
  | .null => "None"
  | .bool b => if b then "True" else "False"
  | .int n => toString n
  | .real x => x.text
  | .str t => Text.quoted t
  | .arr items => "[" ++ String.intercalate ", " (displayItems items) ++ "]"
  | .obj members => "\x7b" ++ String.intercalate ", " (displayMembers members) ++ "\x7d"

/-- The displayed forms of the items of an array. -/
def displayItems : List Json → List String
  | [] => []
  | v :: rest => v.displayItem :: displayItems rest

/-- The displayed forms of the members of an object. -/
def displayMembers : Members → List String
  | [] => []
  | (k, v) :: rest => (Text.quoted k ++ ": " ++ v.displayItem) :: displayMembers rest

end

/-- The displayed form of a value. A string stands for itself, halves of
    surrogate pairs included; all else is displayed in characters. -/
def display : Json → LooseText
  | .str t => t
  | v => .ofString v.displayItem

end Json

end RecordGateway
