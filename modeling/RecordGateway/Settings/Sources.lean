import RecordGateway.Settings.Basic
import RecordGateway.Settings.Dotenv

/-!
# Where Settings Come From

A setting may be given by the program, by the environment or by an environment
file. The first of these that defines it wins; a value further down is not even
looked at. A setting that none defines has its default.

Names are compared without regard to case. Where the program gives a setting in
several spellings, the setting's own name counts before the others, and of those
the first.

## Main definitions

* `Sources`: the three sources.
* `Sources.value?`: the value that wins for a name.
* `Sources.settings`: the settings, or what is wrong with the winning values.
-/

namespace RecordGateway

/-- The sources of settings. -/
structure Sources where
  /-- What the program gives, by name. -/
  given : List (String × Json) := []
  /-- The environment. What of it is not UTF-8 appears as halves of surrogate
      pairs. -/
  environment : List (String × LooseText) := []
  /-- The text of the environment file, empty when there is none. -/
  file : String := ""

namespace Sources

/-- A character in lower case, as far as names of settings go: the letters of
    ASCII, and the Kelvin sign, which is a capital `k` too. -/
def lowerChar (c : Char) : Char :=
  if c.toNat = 0x212A then 'k' else c.toLower

/-- The name under which a setting is looked up. -/
def foldName (name : String) : String :=
  String.ofList (name.toList.map lowerChar)

/-- The environment under folded names; of two spellings the later counts. -/
def ofEnvironment (environment : List (String × LooseText)) :
    List (String × Option LooseText) :=
  Entries.ofPairs (environment.map fun (name, value) => (foldName name, some value))

/-- The file's variables under folded names. -/
def ofFile (s : Sources) : List (String × Option LooseText) :=
  Entries.ofPairs ((Dotenv.assignments s.environment s.file).map fun (name, value) =>
    (foldName name, value))

/-- The value that the program gives for a setting. -/
def ofProgram (s : Sources) (name : String) : Option Json :=
  (Entries.get? name s.given).or
    ((s.given.find? fun (given, _) => foldName given = name).map Prod.snd)

/-- The value that wins for a setting, if a source defines it. -/
def value? (s : Sources) (name : String) : Option Json :=
  (s.ofProgram name).orElse fun _ =>
    ((Entries.get? name (ofEnvironment s.environment)).join.orElse fun _ =>
      (Entries.get? name s.ofFile).join).map Json.str

/-- The winning values, by name. -/
def winning (s : Sources) : Json.Members :=
  Settings.names.filterMap fun name => (s.value? name).map fun v => (LooseText.ofString name, v)

/-- The settings, or what is wrong with the winning values. -/
def settings (s : Sources) : Except Settings.Refusal Settings :=
  (Settings.check s.winning).toExcept.mapError Settings.Refusal.ofIssues

end Sources

end RecordGateway
