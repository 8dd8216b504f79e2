import RecordGateway.Form.Issue

/-!
# Checked Values

Checking a form gives a value or the list of its issues. All parts of a form
are checked, and their issues are listed in the order of the parts, so checks
combine by `<*>` and not one after another.

## Main definitions

* `Checked`: a value or issues.
* `Checked.list`: check the items of a list.
* `Checked.under`: move issues one step out.
* `required`, `optional`, `nullable`: check a member of an object.
-/

namespace RecordGateway

/-- A value that passed its checks, or what is wrong. -/
inductive Checked (α : Type) where
  /-- The value passed. -/
  | good (a : α)
  /-- Something is wrong. -/
  | bad (issues : List Issue)

namespace Checked

variable {α β : Type}

/-- Change the value that passed. -/
def map (f : α → β) : Checked α → Checked β
  | .good a => .good (f a)
  | .bad issues => .bad issues

/-- Combine two checks; issues of both are kept, the first one's first. -/
def combine (f : Checked (α → β)) (a : Checked α) : Checked β :=
  match f, a with
  | .good f, .good a => .good (f a)
  | .good _, .bad issues => .bad issues
  | .bad issues, .good _ => .bad issues
  | .bad first, .bad second => .bad (first ++ second)

instance : Applicative Checked where
  pure := .good
  map := Checked.map
  seq f a := combine f (a ())

/-- A single complaint about an input. -/
def complain (c : Complaint) (input : Json) : Checked α :=
  .bad [⟨c, [], input⟩]

/-- Move the issues one step out. -/
def under (step : Step) : Checked α → Checked α
  | .good a => .good a
  | .bad issues => .bad (issues.map (Issue.under step))

/-- Check a value that passed further. -/
def andThen (a : Checked α) (f : α → Checked β) : Checked β :=
  match a with
  | .good a => f a
  | .bad issues => .bad issues

/-- Check the items of a list, counted from `n`. -/
def listFrom (check : Json → Checked α) : Nat → List Json → Checked (List α)
  | _, [] => .good []
  | n, x :: xs =>
    combine (((check x).under (.index n)).map List.cons) (listFrom check (n + 1) xs)

/-- Check the items of a list. -/
def list (check : Json → Checked α) (xs : List Json) : Checked (List α) :=
  listFrom check 0 xs

/-- Check the values of the members of an object. -/
def mapping (check : Json → Checked α) :
    Json.Members → Checked (List (LooseText × α))
  | [] => .good []
  | (key, x) :: rest =>
    combine (((check x).under (.key key.toString)).map fun a => List.cons (key, a))
      (mapping check rest)

/-- The result of a check as an outcome. -/
def toExcept : Checked α → Except (List Issue) α
  | .good a => .ok a
  | .bad issues => .error issues

end Checked

/-- A member that has to be there. -/
def required {α : Type} (key : String) (check : Json → Checked α)
    (members : Json.Members) : Checked α :=
  match Entries.get? (LooseText.ofString key) members with
  | some v => (check v).under (.key key)
  | none => (Checked.complain .missing (.obj members)).under (.key key)

/-- A member that may be left out. -/
def optional {α : Type} (key : String) (check : Json → Checked α)
    (members : Json.Members) : Checked (Option α) :=
  match Entries.get? (LooseText.ofString key) members with
  | some v => ((check v).under (.key key)).map some
  | none => .good none

end RecordGateway
