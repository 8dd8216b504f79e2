import RecordGateway.Proofs.Entries.Mapping
import RecordGateway.Settings.Dotenv

/-!
# Environment Files Line by Line

The lines of an environment file are worked off one after another, and what a line says may depend
on the lines before it, since a value may mention variables. It depends on nothing else of them: a
value depends on the variables that it mentions, and a value that mentions none is taken as it is.
So if some variables are not mentioned by the lines of the others, what they hold is of no account
for these lines. A line is written in characters, but what it mentions may bring halves of surrogate
pairs from the environment into its final value.

What a file sets is the mapping made from its lines. Of several lines with one name the last one
counts. Names that differ in case only are different names here, each with a place of its own; where
they are to be one name, the one that first came last is the one that counts.

## Main definitions

* `Dotenv.Lines`, `Dotenv.Values`: names and values in order, as written and as they are in the end.
* `Dotenv.asWritten`: lines taken as they are.
* `Dotenv.mentions`: the variables that a value mentions.
* `Dotenv.resolve`, `Dotenv.lines`: the lines of a file with their final values.
* `Dotenv.left?`: the value that lines leave, if their names are one name.

## Theorems

* `expand_congr`: a value depends on the variables that it mentions.
* `assignments_eq`: a file sets the mapping of its lines.
* `filter_resolve`: lines that do not mention some variables do not depend on them.
* `resolve_of_plain`: lines that mention nothing are taken as they are.
* `left?_of_alike`: of lines with one name the last one counts.
-/

namespace RecordGateway

namespace Dotenv

/-- Names and the values that are written for them, if any, in order. -/
abbrev Lines := List (String × Option String)

/-- Names and the values that they have in the end, if any, in order. -/
abbrev Values := List (String × Option LooseText)

/-- Lines taken as they are. -/
def asWritten (lines : Lines) : Values :=
  lines.map fun line => (line.1, line.2.map LooseText.ofString)

/-- The variables that a text mentions, as far as the fuel goes. -/
def mentionsFrom : Nat → List Char → List String
  | 0, _ => []
  | _ + 1, [] => []
  | fuel + 1, '$' :: '\x7b' :: cs =>
    match mention? cs with
    | some (name, _, rest) => String.ofList name :: mentionsFrom fuel rest
    | none => mentionsFrom fuel ('\x7b' :: cs)
  | fuel + 1, _ :: cs => mentionsFrom fuel cs

/-- The variables that a value mentions. -/
def mentions (value : String) : List String :=
  mentionsFrom (value.length + 1) value.toList

/-- The same, as far as the fuel goes. The cases are those in which mentions are found. -/
theorem expandFrom_congr {known other : Values} (fuel : Nat)
    (cs : List Char) (h : ∀ name ∈ mentionsFrom fuel cs,
      Entries.get? name known = Entries.get? name other) :
    expandFrom known fuel cs = expandFrom other fuel cs := by
  fun_induction mentionsFrom fuel cs with
  | case1 cs => rw [expandFrom, expandFrom]
  | case2 fuel => rw [expandFrom, expandFrom]
  | case3 fuel cs name fallback rest hmention ih =>
      rw [List.forall_mem_cons] at h
      simp only [expandFrom, hmention, h.1, ih h.2]
  | case4 fuel cs hmention ih => simp only [expandFrom, hmention, ih h]
  | case5 fuel c cs hc ih => rw [expandFrom.eq_4 _ _ _ _ hc, expandFrom.eq_4 _ _ _ _ hc, ih h]

/-- A value depends on what the variables hold that it mentions. -/
theorem expand_congr {known other : Values} {value : String}
    (h : ∀ name ∈ mentions value, Entries.get? name known = Entries.get? name other) :
    expand known value = expand other value := by
  rw [expand, expand, expandFrom_congr _ _ h]

/-- Without a mention every character stands for itself, as far as the fuel goes. -/
theorem expandFrom_of_plain {known : Values} (fuel : Nat)
    (cs : List Char) (h : mentionsFrom fuel cs = []) :
    expandFrom known fuel cs = cs.map .char := by
  fun_induction mentionsFrom fuel cs with
  | case1 cs => rw [expandFrom]
  | case2 fuel => rw [expandFrom, List.map_nil]
  | case3 fuel cs name fallback rest hmention ih => cases h
  | case4 fuel cs hmention ih => simp only [expandFrom, hmention, ih h, List.map_cons]
  | case5 fuel c cs hc ih => rw [expandFrom.eq_4 _ _ _ _ hc, ih h, List.map_cons]

/-- A value that mentions nothing is taken as it is. -/
theorem expand_of_plain {known : Values} {value : String}
    (h : mentions value = []) : expand known value = .ofString value := by
  rw [expand, expandFrom_of_plain _ _ h, LooseText.ofString]

/-- Lines with their final values, given the environment and what is known before them. -/
def resolve (environment : Values) : Values → Lines → Values
  | _, [] => []
  | known, (name, value) :: rest =>
    (name, value.map (expand (known ++ environment))) ::
      resolve environment (Entries.put name (value.map (expand (known ++ environment))) known) rest

/-- The lines of a file with their final values. -/
def lines (environment : List (String × LooseText)) (file : String) : Values :=
  resolve (environment.map fun (name, value) => (name, some value)) [] (bindings file)

/-- Lines keep their names. -/
theorem keys_resolve (environment known : Values) (lines : Lines) :
    (resolve environment known lines).map Prod.fst = lines.map Prod.fst := by
  induction lines generalizing known with
  | nil => rfl
  | cons line rest ih => rw [resolve, List.map_cons, List.map_cons, ih]

/-- A file sets the mapping of its lines. -/
theorem assignments_eq (environment : List (String × LooseText)) (file : String) :
    assignments environment file = Entries.ofPairs (lines environment file) := by
  rw [assignments, lines, Entries.ofPairs]
  generalize ([] : Values) = known
  induction bindings file generalizing known with
  | nil => rfl
  | cons line rest ih => exact ih _

/-- Whether a value mentions only variables of a class. -/
def MentionsOnly (p : String → Bool) (value : Option String) : Prop :=
  ∀ text ∈ value, ∀ name ∈ mentions text, p name = true

instance (p : String → Bool) (value : Option String) : Decidable (MentionsOnly p value) :=
  inferInstanceAs (Decidable (∀ text ∈ value, ∀ name ∈ mentions text, p name = true))

/-- A line without a value depends on nothing, and one with a value on its mentions. -/
theorem map_expand_congr {p : String → Bool} {known other : Values}
    {value : Option String} (h : MentionsOnly p value)
    (hsame : ∀ name, p name = true → Entries.get? name known = Entries.get? name other) :
    value.map (expand known) = value.map (expand other) := by
  cases value with
  | none => rfl
  | some text =>
      exact congrArg some (expand_congr fun name hname => hsame name (h text rfl name hname))

/-- If lines with names of a class mention only names of this class, they do not depend on what
    other names hold, in the environment or in other lines. -/
theorem filter_resolve (p : String → Bool) (environment known : Values) (lines : Lines)
    (h : ∀ line ∈ lines, p line.1 = true → MentionsOnly p line.2) :
    (resolve environment known lines).filter (fun line => p line.1) =
      resolve (environment.filter fun entry => p entry.1) (known.filter fun entry => p entry.1)
        (lines.filter fun line => p line.1) := by
  induction lines generalizing known with
  | nil => rfl
  | cons line rest ih =>
      rcases line with ⟨name, value⟩
      rw [List.forall_mem_cons] at h
      rw [resolve]
      -- A line of the class is kept and its value looks only at names of the class; any other line
      -- is dropped, and so is what it adds to the variables that are known.
      by_cases hp : p name = true
      · have hvalue := map_expand_congr (h.1 hp) fun other hother =>
          (Entries.get?_filter p hother (known ++ environment)).symm
        rw [List.filter_append] at hvalue
        simp only [List.filter_cons, hp, if_true, resolve, ih _ h.2, Entries.filter_put, hvalue]
      · simp only [List.filter_cons, hp, ih _ h.2, Entries.filter_put]
        rfl

/-- Lines that mention nothing are taken as they are. -/
theorem resolve_of_plain (p : String → Bool) (environment known : Values) (lines : Lines)
    (h : ∀ line ∈ lines, p line.1 = true → MentionsOnly (fun _ => false) line.2) :
    (resolve environment known lines).filter (fun line => p line.1) =
      asWritten (lines.filter fun line => p line.1) := by
  induction lines generalizing known with
  | nil => rfl
  | cons line rest ih =>
      rcases line with ⟨name, value⟩
      rw [List.forall_mem_cons] at h
      rw [resolve]
      by_cases hp : p name = true
      · have hvalue : value.map (expand (known ++ environment)) = value.map .ofString := by
          cases value with
          | none => rfl
          | some text =>
              -- A mention would be of a name in the class of no names.
              have hplain : mentions text = [] :=
                List.eq_nil_iff_forall_not_mem.mpr fun other hother =>
                  Bool.false_ne_true (h.1 hp text rfl other hother)
              exact congrArg some (expand_of_plain hplain)
        simp only [List.filter_cons, hp, if_true, ih _ h.2, hvalue]
        rfl
      · simp only [List.filter_cons, hp, ih _ h.2]
        rfl

/-- The value that lines leave, if their names are one name: the value in the last line with the
    name that first came last. -/
def left? (lines : Values) : Option LooseText :=
  (lines.map Prod.fst).eraseDups.getLast?.bind fun name =>
    (lines.filter fun line => line.1 = name).getLast?.bind Prod.snd

/-- What lines leave stands last in their mapping. -/
theorem left?_eq (lines : Values) :
    left? lines = (Entries.ofPairs lines).getLast?.bind Prod.snd := by
  rw [left?, ← Entries.keys_ofPairs, List.getLast?_map]
  cases hlast : (Entries.ofPairs lines).getLast? with
  | none => rfl
  | some entry =>
      rcases entry with ⟨name, value⟩
      -- The last name of the mapping has the value of the last line with this name.
      have hget := Entries.get?_eq_some_of_mem (Entries.nodup_keys_ofPairs lines)
        (List.mem_of_getLast? hlast)
      rw [Entries.get?_ofPairs, Entries.get?_reverse, Option.map_eq_some_iff] at hget
      rcases hget with ⟨line, hline, hvalue⟩
      rw [Option.map_some, Option.bind_some, hline]
      exact hvalue

/-- Of lines with one name the last one counts. -/
theorem left?_of_alike {lines : Values}
    (h : ∀ line ∈ lines, ∀ other ∈ lines, line.1 = other.1) :
    left? lines = lines.getLast?.bind Prod.snd := by
  rw [left?]
  cases hname : (lines.map Prod.fst).eraseDups.getLast? with
  | none =>
      -- Without a name there are no lines.
      have hnil : lines = [] := by
        refine List.eq_nil_iff_forall_not_mem.mpr fun line hline => ?_
        have hmem := List.mem_eraseDups.mpr (List.mem_map_of_mem (f := Prod.fst) hline)
        rw [List.getLast?_eq_none_iff.mp hname] at hmem
        exact List.not_mem_nil hmem
      rw [hnil]
      rfl
  | some name =>
      -- All lines have the name, so none of them is passed over.
      have hall : lines.filter (fun line => line.1 = name) = lines := by
        rcases List.mem_map.mp (List.mem_eraseDups.mp (List.mem_of_getLast? hname)) with
          ⟨other, hother, rfl⟩
        exact List.filter_eq_self.mpr fun line hline => decide_eq_true (h line hline other hother)
      rw [Option.bind_some, hall]

end Dotenv

end RecordGateway
