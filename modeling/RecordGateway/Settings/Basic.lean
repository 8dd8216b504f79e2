import RecordGateway.Form.Scalar
import RecordGateway.Settings.Origins

/-!
# Settings

The settings of the service: how to reach the broker, how to prove who one is,
how long to wait, how much to read, and which origins may call. Every setting
has a default, so that no settings at all are settings too. Texts are taken as
they are, halves of surrogate pairs included.

Settings are a form: each field is checked on its own, and all that is wrong is
reported in the order of the fields.

## Main definitions

* `Settings`: the settings.
* `Settings.check`: settings from the members of an object.
* `Settings.Refusal`: why there are none.
* `Settings.members`: the settings by name.
* `Settings.names`: the names, in order.
-/

namespace RecordGateway

/-- The settings of the service. -/
structure Settings where
  /-- The address at which to reach the broker first. -/
  bootstrap : LooseText := "localhost:9092"
  /-- The broker's version, its parts separated by points; empty for unknown. -/
  apiVersion : Option LooseText := none
  /-- The name under which clients present themselves. -/
  clientId : LooseText := "kafka-records-api"
  /-- The milliseconds to wait for an answer. -/
  requestTimeout : Int := 20000
  /-- The milliseconds for which what is known of topics stays valid. -/
  metadataMaxAge : Int := 30000
  /-- The milliseconds in which to find out the broker's version. -/
  apiVersionTimeout : Int := 10000
  /-- The protocol: plain, with a login, encrypted, or both. -/
  securityProtocol : LooseText := "PLAINTEXT"
  /-- The kind of login. -/
  saslMechanism : Option LooseText := none
  /-- The user name of the login. -/
  saslUsername : Option LooseText := none
  /-- The password of the login. -/
  saslPassword : Option LooseText := none
  /-- The file with the certificates to trust. -/
  caFile : Option LooseText := none
  /-- The milliseconds for which a read waits for records. -/
  pollTimeout : Int := 2000
  /-- The seconds that a producer is given to close. -/
  closeTimeout : Binary64 := Binary64.zero false
  /-- The number of records on a page when none is asked for. -/
  defaultLimit : Int := 50
  /-- The greatest number of records on a page. -/
  maxLimit : Int := 500
  /-- The origins that may call, if they are restricted here. -/
  origins : Option (List LooseText) := none
  deriving DecidableEq, Repr

/-- Why there are no settings. -/
inductive Settings.Refusal where
  /-- Fields have issues. -/
  | malformed (issues : List Issue)
  /-- A field cannot even be looked at. -/
  | failure (f : Failure)

namespace Settings

/-- The names of the settings, in order. -/
def names : List String :=
  ["kafka_bootstrap", "kafka_api_version", "client_id", "request_timeout_ms",
   "metadata_max_age_ms", "api_version_auto_timeout_ms", "security_protocol", "sasl_mechanism",
   "sasl_plain_username", "sasl_plain_password", "ssl_cafile", "poll_timeout_ms",
   "producer_close_timeout_sec", "default_limit", "max_limit", "cors_allow_origins"]

/-- A text, or null for none. -/
def maybeText : Json → Checked (Option LooseText) :=
  Field.orNull Field.looseText

/-- A list of origins: a text in either notation, or a list of strings as they
    are. -/
def originList : Json → Checked (Option (List LooseText))
  | .null => .good none
  | .str t =>
    match Origins.parse t with
    | .ok origins => .good (some origins)
    | .error container => Checked.complain (.tooDeep container) (.str t)
  | .arr items => (Checked.list Field.looseText items).map some
  | v => Checked.complain .notAList v

/-- A member with a default. -/
def withDefault {α : Type} (key : String) (default : α) (check : Json → Checked α)
    (members : Json.Members) : Checked α :=
  (optional key check members).map (·.getD default)

/-- Settings from the members of an object; other members are ignored. -/
def check (members : Json.Members) : Checked Settings :=
  let default : Settings := {}
  Settings.mk <$> withDefault "kafka_bootstrap" default.bootstrap Field.looseText members
    <*> withDefault "kafka_api_version" default.apiVersion maybeText members
    <*> withDefault "client_id" default.clientId Field.looseText members
    <*> withDefault "request_timeout_ms" default.requestTimeout Field.integer members
    <*> withDefault "metadata_max_age_ms" default.metadataMaxAge Field.integer members
    <*> withDefault "api_version_auto_timeout_ms" default.apiVersionTimeout Field.integer members
    <*> withDefault "security_protocol" default.securityProtocol Field.looseText members
    <*> withDefault "sasl_mechanism" default.saslMechanism maybeText members
    <*> withDefault "sasl_plain_username" default.saslUsername maybeText members
    <*> withDefault "sasl_plain_password" default.saslPassword maybeText members
    <*> withDefault "ssl_cafile" default.caFile maybeText members
    <*> withDefault "poll_timeout_ms" default.pollTimeout Field.natural members
    <*> withDefault "producer_close_timeout_sec" default.closeTimeout Field.nonnegative members
    <*> withDefault "default_limit" default.defaultLimit (Field.atLeast 1 Field.integer) members
    <*> withDefault "max_limit" default.maxLimit (Field.atLeast 1 Field.integer) members
    <*> withDefault "cors_allow_origins" default.origins originList members

/-- The container that an issue found nested too deeply, if it did. -/
def tooDeep? (i : Issue) : Option Json.Container :=
  match i.complaint with
  | .tooDeep container => some container
  | _ => none

/-- The refusal for issues: one of nesting too deep leaves nothing else to say. -/
def Refusal.ofIssues (issues : List Issue) : Refusal :=
  match issues.findSome? tooDeep? with
  | some container => .failure (.tooDeep container)
  | none => .malformed issues

/-- A string or null. -/
def textOrNull (t : Option LooseText) : Json :=
  (t.map Json.str).getD .null

/-- The settings by name, in order. -/
def members (s : Settings) : Json.Members :=
  [("kafka_bootstrap", .str s.bootstrap), ("kafka_api_version", textOrNull s.apiVersion),
   ("client_id", .str s.clientId), ("request_timeout_ms", .int s.requestTimeout),
   ("metadata_max_age_ms", .int s.metadataMaxAge),
   ("api_version_auto_timeout_ms", .int s.apiVersionTimeout),
   ("security_protocol", .str s.securityProtocol), ("sasl_mechanism", textOrNull s.saslMechanism),
   ("sasl_plain_username", textOrNull s.saslUsername),
   ("sasl_plain_password", textOrNull s.saslPassword), ("ssl_cafile", textOrNull s.caFile),
   ("poll_timeout_ms", .int s.pollTimeout), ("producer_close_timeout_sec", .real s.closeTimeout),
   ("default_limit", .int s.defaultLimit), ("max_limit", .int s.maxLimit),
   ("cors_allow_origins",
     (s.origins.map fun os => Json.arr (os.map Json.str)).getD .null)]

end Settings

end RecordGateway
