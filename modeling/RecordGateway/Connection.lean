import RecordGateway.Failure
import RecordGateway.Number.Spelling
import RecordGateway.Settings.Basic

/-!
# Connection Options

The clients of the broker are made from named options. Consumers and producers
connect alike: the options that say how to reach the broker come from the
settings in one place, and each kind of client adds its own.

A version is handed on only if the settings name one, a login only if the
protocol begins with `SASL`, and certificates only if it ends with `SSL`.

## Main definitions

* `Argument`: the value of an option.
* `Connection.options`: the options that all clients share.
* `Connection.consumer`, `Connection.producer`: the options of a client.
-/

namespace RecordGateway

/-- The value of an option of a client. -/
inductive Argument where
  /-- Nothing. -/
  | absent
  /-- A text. -/
  | text (t : LooseText)
  /-- A whole number. -/
  | number (n : Int)
  /-- A truth value. -/
  | flag (b : Bool)
  /-- A version, part by part. -/
  | version (parts : List Int)
  /-- The function from bytes to text. -/
  | decoder
  /-- The function from text to bytes. -/
  | encoder
  deriving DecidableEq, Repr

namespace Argument

/-- A text or nothing. -/
def ofOption : Option LooseText → Argument
  | some t => .text t
  | none => .absent

end Argument

/-- The named options of a client, in order. -/
abbrev Options := List (String × Argument)

namespace Connection

/-- The parts of a version. -/
def versionParts (version : LooseText) : Except VersionError (List Int) :=
  (version.pieces '.').mapM VersionPart.parse

/-- The option for the version, if the settings name one. -/
def version (s : Settings) : Except VersionError Options :=
  match s.apiVersion with
  | none => .ok []
  | some v =>
    if v = "" then .ok []
    else (versionParts v).map fun ps => [("api_version", .version ps)]

/-- The word that a protocol with a login begins with. -/
def loginWord : LooseText := "SASL"

/-- The word that an encrypted protocol ends with. -/
def encryptionWord : LooseText := "SSL"

/-- The options for the login, if the protocol has one. -/
def login (s : Settings) : Options :=
  if loginWord.letters.isPrefixOf s.securityProtocol.letters then
    [("sasl_mechanism", .ofOption s.saslMechanism),
     ("sasl_plain_username", .ofOption s.saslUsername),
     ("sasl_plain_password", .ofOption s.saslPassword)]
  else []

/-- The option for certificates, if the protocol is encrypted. -/
def certificates (s : Settings) : Options :=
  if encryptionWord.letters.isSuffixOf s.securityProtocol.letters then
    [("ssl_cafile", .ofOption s.caFile)]
  else []

/-- The options that all clients share. -/
def options (s : Settings) : Except VersionError Options := do
  let version ← version s
  return [("bootstrap_servers", .text s.bootstrap), ("client_id", .text s.clientId),
      ("request_timeout_ms", .number s.requestTimeout),
      ("metadata_max_age_ms", .number s.metadataMaxAge),
      ("api_version_auto_timeout_ms", .number s.apiVersionTimeout),
      ("security_protocol", .text s.securityProtocol)] ++
    version ++ login s ++ certificates s

/-- The options of a consumer, with a bound on the records of a poll if one is
    given. A consumer commits nothing and starts at the beginning of a log. -/
def consumer (s : Settings) (maxRecords : Option Int) : Except VersionError Options := do
  let shared ← options s
  return shared ++
    [("enable_auto_commit", .flag false), ("auto_offset_reset", .text "earliest"),
     ("key_deserializer", .decoder), ("value_deserializer", .decoder)] ++
    (maxRecords.map fun n => ("max_poll_records", Argument.number n)).toList

/-- The options of a producer. -/
def producer (s : Settings) : Except VersionError Options := do
  let shared ← options s
  return [("key_serializer", .encoder), ("value_serializer", .encoder)] ++ shared

end Connection

end RecordGateway
