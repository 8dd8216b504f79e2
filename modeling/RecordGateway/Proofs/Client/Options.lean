import RecordGateway.Proofs.Entries
import RecordGateway.Proofs.Number.Version
import RecordGateway.Proofs.Publishing.Custody
import RecordGateway.Proofs.Reading.Protocol

/-!
# Readers and Writers Connect Alike

Consumers and producers are made from named options. What each kind of client adds has names that
the shared options do not have, so nothing that says how to connect is overridden on either side:
every other option is the same for both, or is there for neither. If the version cannot be read,
neither kind of client is made, and for the same reason.

The shared options come from the settings group by group. The login is looked at only if the
protocol begins with `SASL`, and the certificates only if it ends with `SSL`; then they are handed
on, and otherwise they cannot be found out from the options. A version that is written with points
arrives as its numbers.

## Main definitions

* `Connection.ownNames`: the options that only one kind of client has.
* `Settings.withoutLogin`, `Settings.withoutCertificates`: settings that hide a group.

## Theorems

* `Connection.keys_options`: each shared option is there once, and none is of one kind of client.
* `Connection.get?_consumer`, `Connection.get?_producer`: an option of a client is a shared one.
* `Connection.options_withoutLogin`, `Connection.options_withoutCertificates`: what options hide.
* `Connection.connects_alike`: how readers and writers connect.
-/

namespace RecordGateway

namespace Settings

/-- Settings that say nothing of the login. -/
def withoutLogin (s : Settings) : Settings :=
  { s with saslMechanism := none, saslUsername := none, saslPassword := none }

/-- Settings that say nothing of certificates. -/
def withoutCertificates (s : Settings) : Settings :=
  { s with caFile := none }

/-- Without the login, the protocol is the one there was. -/
theorem withoutLogin_protocol (s : Settings) :
    s.withoutLogin.securityProtocol = s.securityProtocol :=
  rfl

/-- And so it is without the certificates. -/
theorem withoutCertificates_protocol (s : Settings) :
    s.withoutCertificates.securityProtocol = s.securityProtocol :=
  rfl

end Settings

namespace Connection

/-- The names of the options that say how to connect, in order. -/
def sharedNames : List String :=
  ["bootstrap_servers", "client_id", "request_timeout_ms", "metadata_max_age_ms",
   "api_version_auto_timeout_ms", "security_protocol", "api_version", "sasl_mechanism",
   "sasl_plain_username", "sasl_plain_password", "ssl_cafile"]

/-- The names of the options that only one kind of client has. -/
def ownNames : List String :=
  ["key_serializer", "value_serializer", "enable_auto_commit", "auto_offset_reset",
   "key_deserializer", "value_deserializer", "max_poll_records"]

/-- The options that are there whatever the settings say. -/
def fixed (s : Settings) : Options :=
  [("bootstrap_servers", .text s.bootstrap), ("client_id", .text s.clientId),
   ("request_timeout_ms", .number s.requestTimeout),
   ("metadata_max_age_ms", .number s.metadataMaxAge),
   ("api_version_auto_timeout_ms", .number s.apiVersionTimeout),
   ("security_protocol", .text s.securityProtocol)]

/-- What a consumer adds to the shared options. -/
def ofConsumer (maxRecords : Option Int) : Options :=
  [("enable_auto_commit", .flag false), ("auto_offset_reset", .text "earliest"),
   ("key_deserializer", .decoder), ("value_deserializer", .decoder)] ++
    (maxRecords.map fun n => ("max_poll_records", Argument.number n)).toList

/-- What a producer adds to the shared options. -/
def ofProducer : Options :=
  [("key_serializer", .encoder), ("value_serializer", .encoder)]

/-- The shared options, group by group. Only the version can fail, so the other groups stand behind
    it. -/
theorem options_eq (s : Settings) :
    options s = (version s).map fun parts => fixed s ++ parts ++ login s ++ certificates s := by
  unfold options
  cases version s <;> rfl

/-- A consumer adds its own options behind the shared ones. -/
theorem consumer_eq (s : Settings) (maxRecords : Option Int) :
    consumer s maxRecords = (options s).map fun shared => shared ++ ofConsumer maxRecords := by
  unfold consumer
  cases options s with
  | error e => rfl
  | ok shared => exact congrArg Except.ok (List.append_assoc ..)

/-- The options of a consumer hold the shared ones. -/
theorem consumer_eq_ok {s : Settings} {maxRecords : Option Int} {reading : Options}
    (h : consumer s maxRecords = .ok reading) :
    ∃ shared, options s = .ok shared ∧ reading = shared ++ ofConsumer maxRecords := by
  rw [consumer_eq] at h
  cases hoptions : options s with
  | error e =>
      rw [hoptions] at h
      cases h
  | ok shared =>
      rw [hoptions] at h
      cases h
      exact ⟨shared, rfl, rfl⟩

/-- A producer has its own options in front of the shared ones. -/
theorem producer_eq (s : Settings) :
    producer s = (options s).map fun shared => ofProducer ++ shared := by
  unfold producer
  cases options s <;> rfl

/-- The option for the version is the only one of its group. -/
theorem keys_version {s : Settings} {parts : Options} (h : version s = .ok parts) :
    (parts.map Prod.fst).Sublist ["api_version"] := by
  unfold version at h
  cases hversion : s.apiVersion with
  | none =>
      rw [hversion] at h
      cases h
      exact List.nil_sublist _
  | some v =>
      rw [hversion] at h
      -- An empty version is no version, like one that is not set.
      by_cases hempty : v = ""
      · simp only [if_pos hempty, Except.ok.injEq] at h
        rw [← h]
        exact List.nil_sublist _
      · simp only [if_neg hempty] at h
        cases hparts : versionParts v with
        | error e =>
            rw [hparts] at h
            cases h
        | ok ns =>
            rw [hparts] at h
            cases h
            exact List.Sublist.refl _

/-- The login brings its three options, or none. -/
theorem keys_login (s : Settings) :
    ((login s).map Prod.fst).Sublist
      ["sasl_mechanism", "sasl_plain_username", "sasl_plain_password"] := by
  unfold login
  split
  · exact List.Sublist.refl _
  · exact List.nil_sublist _

/-- The certificates bring one option, or none. -/
theorem keys_certificates (s : Settings) :
    ((certificates s).map Prod.fst).Sublist ["ssl_cafile"] := by
  unfold certificates
  split
  · exact List.Sublist.refl _
  · exact List.nil_sublist _

/-- Shared options have names of their own, each at most once and in a fixed order. -/
theorem keys_options {s : Settings} {shared : Options} (h : options s = .ok shared) :
    (shared.map Prod.fst).Sublist sharedNames := by
  rw [options_eq] at h
  cases hversion : version s with
  | error e =>
      rw [hversion] at h
      cases h
  | ok parts =>
      rw [hversion] at h
      cases h
      -- Each group brings a sublist of its names, and the names of the groups follow each other.
      rw [List.map_append, List.map_append, List.map_append]
      exact (((List.Sublist.refl _).append (keys_version hversion)).append
        (keys_login s)).append (keys_certificates s)

/-- What a consumer adds, and how often. -/
theorem keys_ofConsumer (maxRecords : Option Int) :
    ((ofConsumer maxRecords).map Prod.fst).Sublist
      ["enable_auto_commit", "auto_offset_reset", "key_deserializer", "value_deserializer",
       "max_poll_records"] := by
  cases maxRecords with
  | none => exact List.sublist_append_left _ ["max_poll_records"]
  | some n => exact List.Sublist.refl _

/-- An option of a consumer that is not its own is a shared one. -/
theorem get?_consumer {name : String} (h : name ∉ ownNames) (shared : Options)
    (maxRecords : Option Int) :
    Entries.get? name (shared ++ ofConsumer maxRecords) = Entries.get? name shared := by
  -- What a consumer adds has names of consumers only, so the name is not among them.
  have hown : Entries.get? name (ofConsumer maxRecords) = none := by
    refine Entries.get?_eq_none_iff.mpr fun hmem => h ?_
    exact List.mem_append_right ["key_serializer", "value_serializer"]
      ((keys_ofConsumer maxRecords).subset hmem)
  rw [Entries.get?_append, hown, Option.or_none]

/-- An option of a producer that is not its own is a shared one. -/
theorem get?_producer {name : String} (h : name ∉ ownNames) (shared : Options) :
    Entries.get? name (ofProducer ++ shared) = Entries.get? name shared := by
  have hown : Entries.get? name ofProducer = none :=
    Entries.get?_eq_none_iff.mpr fun hmem => h (List.mem_append_left _ hmem)
  rw [Entries.get?_append, hown, Option.none_or]

/-! ### What the options hide -/

/-- A protocol that does not begin with the word has no login. -/
theorem login_eq_nil {s : Settings} (h : ¬ loginWord.letters <+: s.securityProtocol.letters) :
    login s = [] := by
  unfold login
  rw [if_neg (mt List.isPrefixOf_iff_prefix.mp h)]

/-- A protocol that does not end with the word has no certificates. -/
theorem certificates_eq_nil {s : Settings}
    (h : ¬ encryptionWord.letters <:+ s.securityProtocol.letters) :
    certificates s = [] := by
  unfold certificates
  rw [if_neg (mt List.isSuffixOf_iff_suffix.mp h)]

/-- Without a protocol for it, the login is not looked at. -/
theorem options_withoutLogin {s : Settings}
    (h : ¬ loginWord.letters <+: s.securityProtocol.letters) :
    options s.withoutLogin = options s := by
  -- The protocol is the same without the login, so there is none to be hidden.
  have hhidden : login s.withoutLogin = [] := login_eq_nil h
  rw [options_eq, options_eq, login_eq_nil h, hhidden]
  rfl

/-- Without a protocol for them, the certificates are not looked at. -/
theorem options_withoutCertificates {s : Settings}
    (h : ¬ encryptionWord.letters <:+ s.securityProtocol.letters) :
    options s.withoutCertificates = options s := by
  -- And none of the certificates, for the same reason.
  have hhidden : certificates s.withoutCertificates = [] := certificates_eq_nil h
  rw [options_eq, options_eq, certificates_eq_nil h, hhidden]
  rfl

/-- Clients have the same options where the shared ones are the same. -/
theorem clients_congr {s t : Settings} (h : options s = options t) (maxRecords : Option Int) :
    consumer s maxRecords = consumer t maxRecords ∧ producer s = producer t := by
  rw [consumer_eq, consumer_eq, producer_eq, producer_eq, h]
  exact ⟨rfl, rfl⟩

/-! ### What the options hand on -/

/-- Shared options are put together from their groups. -/
theorem options_eq_ok {s : Settings} {shared : Options} (h : options s = .ok shared) :
    ∃ parts, version s = .ok parts ∧ shared = fixed s ++ parts ++ login s ++ certificates s := by
  rw [options_eq] at h
  cases hversion : version s with
  | error e =>
      rw [hversion] at h
      cases h
  | ok parts =>
      rw [hversion] at h
      cases h
      exact ⟨parts, rfl, rfl⟩

/-- An option that is no version is looked up past the version. -/
theorem get?_past_version {s : Settings} {parts : Options} (h : version s = .ok parts)
    {name : String} (hname : name ≠ "api_version") (rest : Options) :
    Entries.get? name (fixed s ++ parts ++ rest) = Entries.get? name (fixed s ++ rest) := by
  -- The only name in the group of the version is that of the version.
  have hparts : Entries.get? name parts = none := by
    refine Entries.get?_eq_none_iff.mpr fun hmem => hname ?_
    exact List.mem_singleton.mp ((keys_version h).subset hmem)
  rw [Entries.get?_append, Entries.get?_append, hparts, Option.or_none, Entries.get?_append]

/-- A login is handed on if the protocol has one. -/
theorem get?_login {s : Settings} {shared : Options} (h : options s = .ok shared)
    (hprotocol : loginWord.letters <+: s.securityProtocol.letters) :
    Entries.get? "sasl_mechanism" shared = some (.ofOption s.saslMechanism) ∧
      Entries.get? "sasl_plain_username" shared = some (.ofOption s.saslUsername) ∧
      Entries.get? "sasl_plain_password" shared = some (.ofOption s.saslPassword) := by
  rcases options_eq_ok h with ⟨parts, hparts, rfl⟩
  have hlogin : login s = [("sasl_mechanism", .ofOption s.saslMechanism),
      ("sasl_plain_username", .ofOption s.saslUsername),
      ("sasl_plain_password", .ofOption s.saslPassword)] :=
    if_pos (List.isPrefixOf_iff_prefix.mpr hprotocol)
  -- No name of the login is that of the version, and none is fixed, so the login is where it is
  -- found.
  rw [List.append_assoc, get?_past_version hparts (by decide),
    get?_past_version hparts (by decide), get?_past_version hparts (by decide), hlogin]
  exact ⟨rfl, rfl, rfl⟩

/-- Certificates are handed on if the protocol is encrypted. -/
theorem get?_certificates {s : Settings} {shared : Options} (h : options s = .ok shared)
    (hprotocol : encryptionWord.letters <:+ s.securityProtocol.letters) :
    Entries.get? "ssl_cafile" shared = some (.ofOption s.caFile) := by
  rcases options_eq_ok h with ⟨parts, hparts, rfl⟩
  have hcertificates : certificates s = [("ssl_cafile", .ofOption s.caFile)] :=
    if_pos (List.isSuffixOf_iff_suffix.mpr hprotocol)
  -- The certificates come last, so that no group before them may have their name.
  have hlogin : Entries.get? "ssl_cafile" (login s) = none :=
    Entries.get?_eq_none_iff.mpr fun hmem => absurd ((keys_login s).subset hmem) (by decide)
  have hfixed : Entries.get? "ssl_cafile" (fixed s) = none := rfl
  rw [List.append_assoc, get?_past_version hparts (by decide), Entries.get?_append,
    Entries.get?_append, hlogin, hfixed, hcertificates]
  rfl

/-- A version with points arrives as its numbers. -/
theorem get?_version {s : Settings} {ns : List Nat} (hne : ns ≠ [])
    (hshort : ∀ n ∈ ns, (toString n).length ≤ Number.maxDigits)
    (hversion : s.apiVersion = some (.ofString (dotted ns))) :
    ∃ shared, options s = .ok shared ∧
      Entries.get? "api_version" shared = some (.version (ns.map Int.ofNat)) := by
  -- A number has as many characters as it has digits.
  have hdigits : ∀ n ∈ ns, (Nat.toDigits 10 n).length ≤ Number.maxDigits := by
    intro n hn
    rw [← Number.toList_toString, String.length_toList]
    exact hshort n hn
  have hparts : version s = .ok [("api_version", .version (ns.map Int.ofNat))] := by
    unfold version
    rw [hversion]
    simp only [if_neg (dotted_ne_empty hne), versionParts_dotted hne hdigits]
    rfl
  -- The other names are fixed ones, so the version is the first entry of its name.
  refine ⟨_, by rw [options_eq, hparts]; rfl, rfl⟩

/-! ### How clients connect -/

/-- Settings with which no client is made: a read or a publication whose own checks pass fails with
    the version, before any call. -/
def MakesNone (s : Settings) (e : VersionError) : Prop :=
  ∀ σ : Type,
    (∀ (r : Reader) (c : Consumer σ) q checked w, r.settings = s → q.prepare = .ok checked →
      (r.read c q).run w = (.error (.badVersion e), ⟨w, []⟩)) ∧
    ∀ (wr : Writer) (p : Producer σ) topic request checked w, wr.settings = s →
      Writer.prepared request = .ok checked →
        (wr.publish p topic request).run w = (.error (.badVersion e), ⟨w, []⟩)

/-- A consumer and a producer are given each option once, and the same ones but for those that only
    one kind of client has. -/
structure Alike (reading writing : Options) : Prop where
  reading_once : (reading.map Prod.fst).Nodup
  writing_once : (writing.map Prod.fst).Nodup
  same : ∀ name, name ∉ ownNames → Entries.get? name reading = Entries.get? name writing

/-- A version that cannot be read fails the checks of both, after their own parts have passed. -/
theorem makesNone_of_refused {s : Settings} {e : VersionError} (h : options s = .error e) :
    MakesNone s e := by
  intro σ
  -- A read checks its query first, a publication its request; then both look at the settings.
  constructor
  · rintro r c q checked w rfl hprepare
    have hchecks : r.checks q = .error (.badVersion e) := by
      rw [Reader.checks_eq, hprepare, h]
      rfl
    exact (Reader.read_unchecked hchecks c w).run_eq
  · rintro wr p topic request ⟨timestamp, headers⟩ w rfl hprepared
    have hchecks : wr.checks request = .error (.badVersion e) := by
      rw [Writer.checks_of_prepared hprepared, producer_eq, h]
      rfl
    exact (Writer.publish_unchecked hchecks p topic w).run_eq

/-- Around the same shared options, a consumer and a producer are alike. -/
theorem alike_of_shared {s : Settings} {shared : Options} (h : options s = .ok shared)
    (maxRecords : Option Int) : Alike (shared ++ ofConsumer maxRecords) (ofProducer ++ shared) where
  reading_once := by
    -- The names are a sublist of names that are all different: the shared ones, then those of a
    -- consumer.
    have hnames := (keys_options h).append (keys_ofConsumer maxRecords)
    rw [← List.map_append] at hnames
    exact hnames.nodup (by decide)
  writing_once := by
    -- For a producer its own names stand first.
    have hnames := (List.Sublist.refl (ofProducer.map Prod.fst)).append (keys_options h)
    rw [← List.map_append] at hnames
    exact hnames.nodup (by decide)
  same name hname := by rw [get?_consumer hname, get?_producer hname]

/-- Readers and writers connect alike, and what is secret stays where it belongs. Either a consumer
    and a producer are refused for the same version, before a client is made; or they are given the
    same options but for their own. Two settings that differ in the login give the same options
    unless the protocol begins with `SASL`, and then the login is handed on; two that differ in the
    certificates do unless it ends with `SSL`, and then these are. And a version of numbers with
    points between them, none too long to be read, arrives as these numbers. -/
theorem connects_alike :
    (∀ s maxRecords,
      (∃ e, consumer s maxRecords = .error e ∧ producer s = .error e ∧ MakesNone s e) ∨
      ∃ reading writing, consumer s maxRecords = .ok reading ∧ producer s = .ok writing ∧
        Alike reading writing) ∧
    (∀ (s t : Settings) maxRecords, s.withoutLogin = t.withoutLogin →
      (¬ (LooseText.ofString "SASL").letters <+: s.securityProtocol.letters →
        consumer s maxRecords = consumer t maxRecords ∧ producer s = producer t) ∧
      ((LooseText.ofString "SASL").letters <+: s.securityProtocol.letters → ∀ reading,
        consumer s maxRecords = .ok reading →
          Entries.get? "sasl_mechanism" reading = some (.ofOption s.saslMechanism) ∧
          Entries.get? "sasl_plain_username" reading = some (.ofOption s.saslUsername) ∧
          Entries.get? "sasl_plain_password" reading = some (.ofOption s.saslPassword))) ∧
    (∀ (s t : Settings) maxRecords, s.withoutCertificates = t.withoutCertificates →
      (¬ (LooseText.ofString "SSL").letters <:+ s.securityProtocol.letters →
        consumer s maxRecords = consumer t maxRecords ∧ producer s = producer t) ∧
      ((LooseText.ofString "SSL").letters <:+ s.securityProtocol.letters → ∀ reading,
        consumer s maxRecords = .ok reading →
          Entries.get? "ssl_cafile" reading = some (.ofOption s.caFile))) ∧
    ∀ s maxRecords (ns : List Nat), ns ≠ [] → (∀ n ∈ ns, (toString n).length ≤ 4300) →
      s.apiVersion = some (.ofString (String.intercalate "." (ns.map toString))) →
        ∃ reading writing, consumer s maxRecords = .ok reading ∧ producer s = .ok writing ∧
          Entries.get? "api_version" reading = some (.version (ns.map Int.ofNat)) ∧
          Entries.get? "api_version" writing = some (.version (ns.map Int.ofNat)) := by
  refine ⟨fun s maxRecords => ?_, fun s t maxRecords hst => ⟨fun hplain => ?_, ?_⟩,
    fun s t maxRecords hst => ⟨fun hplain => ?_, ?_⟩, ?_⟩
  · -- Both kinds of client rest on the shared options, so they are refused together.
    rw [consumer_eq, producer_eq]
    cases hoptions : options s with
    | error e => exact .inl ⟨e, rfl, rfl, makesNone_of_refused hoptions⟩
    | ok shared => exact .inr ⟨_, _, rfl, rfl, alike_of_shared hoptions maxRecords⟩
  · -- The login is all that may differ, so the protocol is the same, and it has no login for
    -- either.
    have hprotocol : s.securityProtocol = t.securityProtocol := by
      rw [← s.withoutLogin_protocol, hst, t.withoutLogin_protocol]
    refine clients_congr ?_ maxRecords
    rw [← options_withoutLogin hplain, hst, options_withoutLogin (hprotocol ▸ hplain)]
  · intro hlogin reading hreading
    rcases consumer_eq_ok hreading with ⟨shared, hoptions, rfl⟩
    -- No name of the login is one of a consumer alone.
    rw [get?_consumer (by decide), get?_consumer (by decide), get?_consumer (by decide)]
    exact get?_login hoptions hlogin
  · -- As for the login, but with the end of the protocol.
    have hprotocol : s.securityProtocol = t.securityProtocol := by
      rw [← s.withoutCertificates_protocol, hst, t.withoutCertificates_protocol]
    refine clients_congr ?_ maxRecords
    rw [← options_withoutCertificates hplain, hst, options_withoutCertificates (hprotocol ▸ hplain)]
  · intro hencrypted reading hreading
    rcases consumer_eq_ok hreading with ⟨shared, hoptions, rfl⟩
    rw [get?_consumer (by decide)]
    exact get?_certificates hoptions hencrypted
  · intro s maxRecords ns hne hshort hversion
    rcases get?_version hne hshort hversion with ⟨shared, hoptions, hget⟩
    -- A version that is read once is read for both.
    refine ⟨shared ++ ofConsumer maxRecords, ofProducer ++ shared, ?_, ?_, ?_, ?_⟩
    · rw [consumer_eq, hoptions]
      rfl
    · rw [producer_eq, hoptions]
      rfl
    · rw [get?_consumer (by decide), hget]
    · rw [get?_producer (by decide), hget]

/-- Settings for a broker that asks for a login and does not encrypt. -/
def loginSettings : Settings :=
  { apiVersion := some "2.10.0", securityProtocol := "SASL_PLAINTEXT",
    saslMechanism := some "PLAIN", saslPassword := some "secret", caFile := some "ca.pem" }

/-- The login is handed on, the certificates are not, and the version arrives as three numbers. -/
theorem connects_alike_login :
    loginSettings.withoutCertificates = { loginSettings with caFile := none }.withoutCertificates ∧
    ¬ (LooseText.ofString "SSL").letters <:+ loginSettings.securityProtocol.letters ∧
    consumer loginSettings (some 50) = consumer { loginSettings with caFile := none } (some 50) ∧
    (LooseText.ofString "SASL").letters <+: loginSettings.securityProtocol.letters ∧
    loginSettings.apiVersion = some (.ofString (String.intercalate "." ([2, 10, 0].map toString))) ∧
    ∃ reading writing, consumer loginSettings (some 50) = .ok reading ∧
      producer loginSettings = .ok writing ∧
      Entries.get? "api_version" reading = some (.version [2, 10, 0]) ∧
      Entries.get? "api_version" writing = some (.version [2, 10, 0]) ∧
      Entries.get? "sasl_plain_password" reading = some (.text "secret") := by
  have hsame : loginSettings.withoutCertificates =
      { loginSettings with caFile := none }.withoutCertificates := rfl
  have hplain : ¬ (LooseText.ofString "SSL").letters <:+
      loginSettings.securityProtocol.letters := by decide +kernel
  have hlogin : (LooseText.ofString "SASL").letters <+:
      loginSettings.securityProtocol.letters := by decide +kernel
  have hversion : loginSettings.apiVersion =
      some (.ofString (String.intercalate "." ([2, 10, 0].map toString))) := by decide +kernel
  rcases connects_alike with ⟨-, hhandsOn, hhides, harrives⟩
  rcases harrives loginSettings (some 50) [2, 10, 0] (List.cons_ne_nil _ _) (by decide +kernel)
    hversion with ⟨reading, writing, hreading, hwriting, hread, hwritten⟩
  have hpassword := ((hhandsOn loginSettings loginSettings (some 50) rfl).2 hlogin reading hreading)
  exact ⟨hsame, hplain, ((hhides _ _ (some 50) hsame).1 hplain).1, hlogin, hversion, reading,
    writing, hreading, hwriting, hread, hwritten, hpassword.2.2⟩

end Connection

end RecordGateway
