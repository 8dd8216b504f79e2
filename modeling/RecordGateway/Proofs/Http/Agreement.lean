import RecordGateway.Proofs.Form.Parts
import RecordGateway.Proofs.Http.Outcome
import RecordGateway.Proofs.Http.QueryString
import RecordGateway.Proofs.Number.Spelling
import RecordGateway.Proofs.Reading.Fields
import RecordGateway.Proofs.Record.Fields
import RecordGateway.Proofs.Record.Inclusion

/-!
# One Read, Three Ways to Ask for It

A page can be asked for with a query that lists the names of fields, with a read request that holds
a set of them, and over HTTP with a query string. The three come to the same calls, the same world
and the same page or failure, and the response over HTTP tells it.

What travels through a query string is text. A number is written in decimal and read back, a text
is escaped and read back, and the fields are spelled in any of the ways that the reader of lists
takes. What is left of the fields at the end is a list that names the same set, and a read depends
on no more than that.

The page stands in the body as a list of records with three numbers. A record there has a member
for each field that the view has set, null included, and no other.

Two limits of this way show. A number with more digits than are read from a text is refused, while
the other ways take it. And a page that holds half of a surrogate pair cannot be sent.

## Main definitions

* `Asked`: a read that is asked for, in whatever way.
* `Asked.InOrder`: what may be asked for over HTTP.
* `Asked.InForm`, `Asked.InRequest`: a read request, and a request over HTTP, that asks for it.
* `Record.StandsIn`, `Page.StandsIn`: what a body holds of a record and of a page.

## Theorems

* `Route.of_records`: the route of the records of a topic.
* `Parameters.check_asked`: the parameters that a query string carries.
* `Asked.inRequest_request`: every read can be asked for over HTTP.
* `Service.ways_agree`: the three ways agree.
* `Service.long_offset_refused`: where the limits show.
-/

namespace RecordGateway

variable {σ : Type}

open Http

/-- A read that is asked for, in whatever way. -/
structure Asked where
  /-- The topic. -/
  topic : String
  /-- The only partition to read. -/
  partition : Option Int
  /-- The offset to begin at. -/
  offset : Option Int
  /-- The instant to begin at, as text. -/
  timestamp : Option String
  /-- The greatest number of records. -/
  limit : Int
  /-- The fields to show, in any order and with repeats; none for all. -/
  fields : List FieldName

namespace Asked

/-- The query that lists the names of the fields. -/
def query (a : Asked) : Query :=
  { topic := a.topic
    partition := a.partition
    offset := a.offset
    timestamp := a.timestamp.map .ofString
    limit := a.limit
    fields := a.fields.map FieldName.name }

/-- A number that may stand in a query string: from zero on, and no longer than is read. -/
def Readable (n : Int) : Prop :=
  0 ≤ n ∧ n < Number.firstLong

/-- What may be asked for in each of the ways, given the greatest limit of the service. -/
structure InOrder (a : Asked) (maxLimit : Int) : Prop where
  topic : a.topic ≠ "" ∧ '/' ∉ a.topic.toList
  partition : ∀ n, a.partition = some n → Readable n
  offset : ∀ n, a.offset = some n → Readable n
  /-- The limit is one that a read request may have, and one that the service grants. -/
  limit : 1 ≤ a.limit ∧ a.limit ≤ ReadRequest.maxLimit ∧ a.limit ≤ maxLimit

/-- The limits of a read request have three digits at most. -/
theorem InOrder.readable_limit {a : Asked} {maxLimit : Int} (ha : a.InOrder maxLimit) :
    Readable a.limit := by
  have hsmall : ReadRequest.maxLimit < (10 ^ 3 : Nat) := by decide
  have hlong : 10 ^ 3 ≤ Number.firstLong := Nat.pow_le_pow_right (by decide) (by decide)
  refine ⟨Int.le_trans (by decide) ha.limit.1, ?_⟩
  exact Int.lt_of_le_of_lt ha.limit.2.1 (Int.lt_of_lt_of_le hsmall (Int.ofNat_le.mpr hlong))

/-- A read request that asks for a read, with the same set of fields. -/
structure InForm (a : Asked) (r : ReadRequest) : Prop where
  topic : r.topic = a.topic
  partition : r.partition.toOption = a.partition
  offset : r.offset.toOption = a.offset
  timestamp : r.timestamp.toOption = a.timestamp.map .ofString
  limit : r.limit.getD ReadRequest.defaultLimit = a.limit
  fields : ∀ f, f ∈ r.fields.getD [] ↔ f ∈ a.fields

/-- A request over HTTP that asks for a read: its query string has the numbers in decimal and the
    texts as they are, the last value of a name counts, and the texts to include spell the same
    set of fields. -/
structure InRequest (a : Asked) (r : Request) : Prop where
  method : r.method = "GET"
  path : r.path = "/api/v1/topics/" ++ a.topic ++ "/records"
  partition : QueryString.last? "partition" (QueryString.pairs r.query) =
    a.partition.map toString
  offset : QueryString.last? "offset" (QueryString.pairs r.query) = a.offset.map toString
  timestamp : QueryString.last? "timestamp" (QueryString.pairs r.query) = a.timestamp
  limit : QueryString.last? "limit" (QueryString.pairs r.query) = some (toString a.limit)
  fields : ∃ fields,
    Inclusion.Spells (QueryString.values "include" (QueryString.pairs r.query)) fields ∧
      ∀ f, f ∈ fields ↔ f ∈ a.fields

/-- A read request asks for the same read as the query, but for the list of fields. -/
theorem query_ofRequest {a : Asked} {r : ReadRequest} (h : a.InForm r) :
    Query.ofRequest r = { a.query with fields := (r.fields.getD []).map FieldName.name } := by
  rw [Query.ofRequest, query, h.topic, h.partition, h.offset, h.timestamp, h.limit]

end Asked

/-! ### Every read has a request -/

namespace QueryString

/-- The values of a name among all pairs are those among the first ones, then those among the
    others. -/
theorem values_append (name : String) (ps qs : List (String × String)) :
    values name (ps ++ qs) = values name ps ++ values name qs := by
  rw [values, List.filter_append, List.map_append]
  rfl

/-- The values of a name among pairs that all have one name. -/
theorem values_map {α : Type} (name key : String) (text : α → String) (as : List α) :
    values name (as.map fun a => (key, text a)) = if key = name then as.map text else [] := by
  rw [values, List.filter_map]
  by_cases h : key = name
  · simp [h, Function.comp_def]
  · simp [h, Function.comp_def]

end QueryString

namespace Asked

/-- The pairs of a query string that asks for a read. -/
def pairs (a : Asked) : List (String × String) :=
  a.partition.toList.map (fun n => ("partition", toString n)) ++
    a.offset.toList.map (fun n => ("offset", toString n)) ++
    a.timestamp.toList.map (fun text => ("timestamp", text)) ++
    [a.limit].map (fun n => ("limit", toString n)) ++
    a.fields.map (fun f => ("include", f.name))

/-- A request over HTTP that asks for a read, with every character of its texts escaped. -/
def request (a : Asked) : Request :=
  ⟨"GET", "test", "/api/v1/topics/" ++ a.topic ++ "/records",
    QueryString.write (fun _ => false) a.pairs, [], []⟩

/-- Every read can be asked for over HTTP. -/
theorem inRequest_request (a : Asked) : a.InRequest a.request := by
  have hplain : Percent.Plain fun _ => false := nofun
  have hpairs := QueryString.pairs_write hplain a.pairs
  -- Of the five parts that make up the pairs, only one has a given name.
  have hvalues : ∀ name, QueryString.values name a.pairs =
      (if "partition" = name then a.partition.toList.map toString else []) ++
        (if "offset" = name then a.offset.toList.map toString else []) ++
        (if "timestamp" = name then a.timestamp.toList else []) ++
        (if "limit" = name then [a.limit].map toString else []) ++
        (if "include" = name then a.fields.map FieldName.name else []) := by
    intro name
    have htimestamp := QueryString.values_map name "timestamp" id a.timestamp.toList
    rw [List.map_id] at htimestamp
    simp only [pairs, QueryString.values_append, QueryString.values_map]
    exact congrArg (fun texts => _ ++ texts ++ _ ++ _) htimestamp
  refine ⟨rfl, rfl, ?_, ?_, ?_, ?_, ?_⟩
  · rw [request, hpairs, QueryString.last?, hvalues]
    cases a.partition <;> rfl
  · rw [request, hpairs, QueryString.last?, hvalues]
    cases a.offset <;> rfl
  · rw [request, hpairs, QueryString.last?, hvalues]
    cases a.timestamp <;> rfl
  · rw [request, hpairs, QueryString.last?, hvalues]
    rfl
  · refine ⟨a.fields, ?_, fun f => Iff.rfl⟩
    rw [request, hpairs, hvalues]
    exact Inclusion.spells_names a.fields

/-- Every read can be asked for with a read request. -/
theorem exists_form (a : Asked) : ∃ form, a.InForm form := by
  -- A slot that is given or left out says the same as the option.
  have hslot : ∀ {α : Type} (asked : Option α), (Slot.ofOption asked).toOption = asked := by
    intro α asked
    cases asked <;> rfl
  exact ⟨⟨a.topic, .ofOption a.partition, .ofOption a.offset,
    .ofOption (a.timestamp.map .ofString), some a.limit, some a.fields⟩,
    rfl, hslot _, hslot _, hslot _, rfl, fun f => Iff.rfl⟩

end Asked

namespace Http

/-! ### The path -/

/-- What stands before is taken off. -/
theorem Route.afterBeginning?_append (beginning rest : List Char) :
    Route.afterBeginning? beginning (beginning ++ rest) = some rest := by
  rw [Route.afterBeginning?, if_pos (List.isPrefixOf_iff_prefix.mpr (List.prefix_append _ _)),
    List.drop_left]

/-- The path of the records of a topic names that topic. -/
theorem Route.topic?_records {topic : String} (hne : topic ≠ "") (hslash : '/' ∉ topic.toList) :
    Route.topic? ("/api/v1/topics/" ++ topic ++ "/records") = some topic := by
  have hpath : ("/api/v1/topics/" ++ topic ++ "/records").toList =
      Route.pathBefore ++ (topic.toList ++ Route.pathAfter) := by
    rw [String.toList_append, String.toList_append, List.append_assoc]
    rfl
  -- The path ends in a letter, so it has no line break to lose.
  have hbreak : Route.withoutBreak (Route.pathBefore ++ (topic.toList ++ Route.pathAfter)) =
      Route.pathBefore ++ (topic.toList ++ Route.pathAfter) := by
    have hlast : (Route.pathBefore ++ (topic.toList ++ Route.pathAfter)).getLast? = some 's' := by
      rw [← List.append_assoc, List.getLast?_append]
      rfl
    rw [Route.withoutBreak, hlast]
    rfl
  have hempty : (topic.toList.isEmpty || topic.toList.contains '/') = false := by
    rw [Bool.or_eq_false_iff]
    constructor
    · rw [List.isEmpty_eq_false_iff]
      exact fun h => hne (String.toList_eq_nil_iff.mp h)
    · simpa using hslash
  rw [Route.topic?, hpath, hbreak, Route.topicOf?, Route.afterBeginning?_append]
  simp only [Option.bind_eq_bind, Option.bind_some, List.reverse_append,
    Route.afterBeginning?_append, Option.map_some, List.reverse_reverse, hempty,
    Bool.false_eq_true, if_false, String.ofList_toList]

/-- The route of the records of a topic. -/
theorem Route.of_records {r : Request} {topic : String} (hmethod : r.method = "GET")
    (hpath : r.path = "/api/v1/topics/" ++ topic ++ "/records") (hne : topic ≠ "")
    (hslash : '/' ∉ topic.toList) : Route.of r = .read topic := by
  rw [Route.of, hpath, Route.topic?_records hne hslash]
  dsimp only
  rw [if_pos hmethod]

end Http

/-! ### The parameters -/

/-- A number in decimal that is not too long is read as it is. -/
theorem Field.integer_decimal {n : Int} (h : Asked.Readable n) :
    Field.integer (Json.text (toString n)) = .good n := by
  rcases Int.eq_ofNat_of_zero_le h.1 with ⟨k, rfl⟩
  have hk : k < Number.firstLong := Int.ofNat_lt.mp h.2
  have hread : Number.intOfField (toString (k : Int)) = .ok (k : Int) :=
    Number.intOfField_toString hk
  rw [Json.text, Field.integer, Field.integerOfText, LooseText.toString?_ofString]
  dsimp only
  rw [hread]

/-- From zero on it is natural. -/
theorem Field.natural_decimal {n : Int} (h : Asked.Readable n) :
    Field.natural (Json.text (toString n)) = .good n := by
  rw [Field.natural, Field.atLeast, Field.integer_decimal h]
  exact if_neg (Int.not_lt.mpr h.1)

/-- And between one and the greatest limit it is a limit. -/
theorem Field.limit_decimal {n maxLimit : Int} (h : Asked.Readable n) (hlow : 1 ≤ n)
    (hhigh : n ≤ maxLimit) :
    Field.atMost maxLimit (Field.atLeast 1 Field.integer) (Json.text (toString n)) = .good n := by
  have hleast : Field.atLeast 1 Field.integer (Json.text (toString n)) = .good n := by
    rw [Field.atLeast, Field.integer_decimal h]
    exact if_neg (Int.not_lt.mpr hlow)
  rw [Field.atMost, hleast]
  exact if_neg (Int.not_lt.mpr hhigh)

namespace Http

/-- A parameter with a text that its field takes. -/
theorem Parameters.optional_scalar {α : Type} {ps : List (String × String)} {name : String}
    {asked : Option α} {text : α → String} {check : Json → Checked α}
    (hps : QueryString.last? name ps = asked.map text)
    (hcheck : ∀ a, asked = some a → check (Json.text (text a)) = .good a) :
    optional name check (Parameters.scalar ps name) = .good asked := by
  rw [Parameters.scalar, hps]
  cases asked with
  | none => rfl
  | some a =>
      -- The only member is the one that is looked for.
      have hfound : Entries.get? (LooseText.ofString name)
          [(LooseText.ofString name, Json.text (text a))] = some (Json.text (text a)) :=
        if_pos rfl
      rw [optional, Option.map_some, Option.map_some, Option.toList_some, hfound]
      dsimp only
      rw [hcheck a rfl]
      rfl

/-- The parameters that the query string of a request carries. -/
theorem Parameters.check_asked {a : Asked} {maxLimit : Int} (ha : a.InOrder maxLimit)
    {r : Request} (hr : a.InRequest r) (defaultLimit : Int) :
    Parameters.check defaultLimit maxLimit r.query =
      .good ⟨a.partition, a.offset, a.timestamp, a.limit,
        QueryString.values "include" (QueryString.pairs r.query)⟩ := by
  -- Each parameter is taken by its own field, as the text that it is asked for with.
  have hpartition := optional_scalar hr.partition
    fun n hn => Field.natural_decimal (ha.partition n hn)
  have hoffset := optional_scalar hr.offset
    fun n hn => Field.natural_decimal (ha.offset n hn)
  have htext : QueryString.last? "timestamp" (QueryString.pairs r.query) = a.timestamp.map id := by
    rw [hr.timestamp, Option.map_id, id]
  have htimestamp := optional_scalar htext fun s _ => Field.string_text s
  have hdecimal : QueryString.last? "limit" (QueryString.pairs r.query) =
      (some a.limit).map toString := hr.limit
  have hlimit := optional_scalar hdecimal fun n hn => by
    cases hn
    exact Field.limit_decimal ha.readable_limit ha.limit.1 ha.limit.2.2
  unfold Parameters.check
  dsimp only
  rw [hpartition, hoffset, htimestamp, hlimit]
  rfl

end Http

/-- A number with too many digits is no number to a field, though it is one. -/
theorem Field.natural_long {n : Nat} (h : Number.firstLong ≤ n) :
    Field.natural (Json.text (toString (n : Int))) =
      Checked.complain .oversized (Json.text (toString (n : Int))) := by
  have hread : Number.intOfField (toString (n : Int)) = .error .tooLong :=
    Number.intOfField_tooLong h
  rw [Field.natural, Field.atLeast, Json.text, Field.integer, Field.integerOfText,
    LooseText.toString?_ofString]
  dsimp only
  rw [hread]
  rfl

/-- An offset with too many digits is refused, whatever else is asked for. -/
theorem Http.Parameters.check_long {a : Asked} {r : Request} (hr : a.InRequest r) {n : Nat}
    (hn : a.offset = some (n : Int)) (hlong : Number.firstLong ≤ n)
    (defaultLimit maxLimit : Int) :
    ∃ issues, Parameters.check defaultLimit maxLimit r.query = .bad issues := by
  have hoffset : ∃ issues, optional "offset" Field.natural
      (Parameters.scalar (QueryString.pairs r.query) "offset") = .bad issues := by
    have hfound : Entries.get? (LooseText.ofString "offset")
        [(LooseText.ofString "offset", Json.text (toString (n : Int)))] =
          some (Json.text (toString (n : Int))) := if_pos rfl
    rw [Parameters.scalar, hr.offset, hn, optional, Option.map_some, Option.map_some,
      Option.toList_some, hfound]
    dsimp only
    rw [Field.natural_long hlong]
    exact ⟨_, rfl⟩
  rcases hoffset with ⟨issues, hissues⟩
  unfold Parameters.check
  dsimp only
  rw [hissues]
  -- Whatever the other parameters come to, the issues of this one stay.
  generalize optional "partition" _ _ = partition
  generalize optional "timestamp" _ _ = timestamp
  generalize Checked.map _ _ = limit
  cases partition <;> cases timestamp <;> cases limit <;> exact ⟨_, rfl⟩

/-! ### Bodies -/

/-- What a body holds of a record: a member for each field that is set, in the order of fields,
    with what the record holds, null included, and no other. -/
def Record.StandsIn (record : Record) (item : Json) : Prop :=
  ∃ members, item = .obj members ∧
    members.map Prod.fst =
      (FieldName.all.filter record.isSet).map (fun f => LooseText.ofString f.name) ∧
    ∀ f, Entries.get? (LooseText.ofString f.name) members = record.json? f

/-- What a body holds of a page: its records in order, and three numbers. -/
def Page.StandsIn (page : Page) (body : Json) : Prop :=
  ∃ items, List.Forall₂ Record.StandsIn page.items items ∧
    body = .obj [("items", .arr items), ("total", .int page.items.length),
      ("size", .int page.items.length), ("page", .int 1)]

/-- A record is written with the fields that it has set. -/
theorem Record.standsIn_toJson (record : Record) : record.StandsIn record.toJson :=
  ⟨record.members, rfl, record.keys_members, record.get?_members⟩

/-- A page is written with its records. -/
theorem Page.standsIn_toJson (page : Page) : page.StandsIn page.toJson := by
  refine ⟨page.items.map Record.toJson, ?_, rfl⟩
  rw [List.forall₂_map_right_iff, List.forall₂_same]
  exact fun record _ => record.standsIn_toJson

namespace Service

/-- The line in a log that goes with the response to a read: one if nobody expected its failure. -/
def noticesOf : Except Failure Page → List Event
  | .ok _ => []
  | .error failure => if failure.standing = .unexpected then [.notice .unhandled] else []

/-- Only a failure that nobody expected leaves a line in the log. A page that cannot be sent is a
    failure that is expected. -/
theorem notices_pageResponse (result : Except Failure Page) :
    (Reply.just (pageResponse result)).notices = noticesOf result := by
  cases result with
  | ok page =>
      have hjson : (Response.json 200 page.toJson).unexpected = none := by
        rw [Response.json]
        cases Response.unsendable? page.toJson <;> rfl
      rw [Reply.notices, Reply.just, pageResponse, Option.bind_some, hjson]
      rfl
  | error failure =>
      have hproblem : (Response.problem failure).unexpected =
          if failure.standing = .unexpected then some failure else none := rfl
      rw [Reply.notices, Reply.just, pageResponse, Option.bind_some, hproblem, noticesOf]
      by_cases h : failure.standing = .unexpected
      · rw [if_pos h, if_pos h]
        rfl
      · rw [if_neg h, if_neg h]
        rfl

/-- A response tells what became of a read: the page, if it can be sent, or the failure. -/
def Tells (response : Response) : Except Failure Page → Prop
  | .ok page => page.toJson.Sendable →
      ∃ body, response.Carries 200 "application/json" body ∧ page.StandsIn body
  | .error failure => response.Explains failure.status
      (if failure.standing = .operation ∧ failure.message = "" then none
        else some failure.message)

/-- The response to a read tells what became of it. -/
theorem tells_pageResponse (result : Except Failure Page) :
    Tells (pageResponse result) result := by
  cases result with
  | ok page => exact fun h => ⟨_, Response.carries_json h 200, page.standsIn_toJson⟩
  | error failure => exact Response.explains_problem failure

/-- Headers that are put on a response change nothing of what it tells. -/
theorem tells_finished {s : Service} {r : Request} {response : Response}
    {result : Except Failure Page} (h : Tells response result) :
    ∃ finished, (s.finished r (Reply.just response)) = Reply.just finished ∧
      Tells finished result := by
  refine ⟨_, rfl, ?_⟩
  dsimp only
  split
  · exact h
  · cases result with
    | ok page =>
        intro hsendable
        rcases h hsendable with ⟨body, hcarries, hstands⟩
        exact ⟨body, hcarries.withHeaders _, hstands⟩
    | error failure => exact Response.Carries.withHeaders h _

/-- What a request over HTTP asks the reader for is the read with the same set of fields. -/
theorem pageOf_asked {a : Asked} {r : Request} (hr : a.InRequest r) (s : Service)
    (c : Consumer σ) :
    s.pageOf c a.topic ⟨a.partition, a.offset, a.timestamp, a.limit,
        QueryString.values "include" (QueryString.pairs r.query)⟩ =
      s.reader.read c a.query := by
  rcases hr.fields with ⟨fields, hspells, hsame⟩
  rw [pageOf, Parameters.query, Inclusion.parse_of_spells hspells]
  exact Reader.read_congr hsame s.reader c a.query

/-- The three ways to ask for a read agree. Every read in order can be asked for over HTTP. And
    however it is asked for there, and whatever read request holds the same set of fields, the
    three come to the same page or failure, in the same world, after the same events; only a
    failure that nobody expected adds a line to the log of the service. The response tells the
    page, with exactly the fields that each record has set, or the failure. -/
theorem ways_agree (s : Service) (c : Consumer σ) (p : Producer σ) (a : Asked)
    (ha : a.InOrder s.settings.maxLimit) :
    (∃ r, a.InRequest r) ∧ (∃ form, a.InForm form) ∧
    ∀ r form, a.InRequest r → a.InForm form → ∀ world,
      ∃ result world' events response,
        (s.reader.read c a.query).run world = (result, ⟨world', events⟩) ∧
        (s.reader.read c (Query.ofRequest form)).run world = (result, ⟨world', events⟩) ∧
        (s.respond c p r).run world =
          (Reply.just response, ⟨world', events ++ noticesOf result⟩) ∧
        Tells response result := by
  refine ⟨⟨a.request, a.inRequest_request⟩, a.exists_form, ?_⟩
  intro r form hr hform world
  -- The request is routed to a read of the topic, and its parameters carry the query.
  have hroute : Route.of r = .read a.topic :=
    Route.of_records hr.method hr.path ha.topic.1 ha.topic.2
  have hcheck := Parameters.check_asked ha hr s.settings.defaultLimit
  -- There is an outcome, whatever the consumer does, and the response tells it.
  rcases pageOf_yields s c a.topic _ world with ⟨result, world', events, hpage⟩
  rcases tells_finished (s := s) (r := r) (tells_pageResponse result) with
    ⟨response, hfinished, htells⟩
  have hrespond := (respond_read_asked (p := p) hroute hcheck hpage).run_eq
  rw [hfinished, notices_pageResponse] at hrespond
  rw [pageOf_asked hr] at hpage
  -- The read request holds the same set of fields, and a read depends on no more.
  have hread : (s.reader.read c (Query.ofRequest form)).run world =
      (result, ⟨world', events⟩) := by
    rw [Asked.query_ofRequest hform, Reader.read_congr hform.fields]
    exact hpage.run_eq
  exact ⟨result, world', events, response, hpage.run_eq, hread, hrespond, htells⟩

/-- A request for an offset with too many digits is refused. -/
theorem refused_of_long {a : Asked} {r : Request} (hr : a.InRequest r)
    (htopic : a.topic ≠ "" ∧ '/' ∉ a.topic.toList) {n : Nat} (hn : a.offset = some (n : Int))
    (hlong : Number.firstLong ≤ n) (s : Service) (c : Consumer σ) (p : Producer σ)
    (world : σ) : Verdict.HasStatus ((s.respond c p r).run world).1.response 422 := by
  have hroute : Route.of r = .read a.topic :=
    Route.of_records hr.method hr.path htopic.1 htopic.2
  rcases Parameters.check_long hr hn hlong s.settings.defaultLimit s.settings.maxLimit with
    ⟨issues, hissues⟩
  have hrun := (respond_read_invalid (c := c) (p := p) hroute hissues world).run_eq
  -- The issue shows the number as the string that it came as.
  have hsendable : (Verdict.invalid issues).Sendable := by
    rintro body ⟨⟩
    exact Parameters.sendable_issues hissues
  rw [hrun]
  exact (answered_finished hsendable rfl).invalid.mpr ⟨issues, rfl⟩

/-- A broker whose log has one record, which has no key and one header. -/
def headedBroker (name : LooseText) : Broker :=
  { sampleBroker with topics := [("t", [(0, (Log.empty 0).append
      { offset := 0, timestamp := some 0, timestampType := some 0, key := none
        value := some [0x76], headers := some [(name, none)] })])] }

/-- A read of the keys and the values of a partition from its start. -/
def keysAndValues : Asked :=
  ⟨"t", some 0, some 0, none, 2, [.key, .value]⟩

/-- A request for it in which the fields are spelled in a mixture of ways. -/
def mixedRequest : Request :=
  ⟨"GET", "test", "/api/v1/topics/t/records",
    "include=value,%20key&limit=7&partition=0&include=&offset=0&limit=2&include=+key", [], []⟩

/-- What its three lists of fields are made of: two names, nothing, and a name after a blank. -/
def mixedPlaces : List (List Inclusion.Place) :=
  [[⟨[], some .value, [], List.forall_mem_nil _⟩,
    ⟨[' '], some .key, [], List.forall_mem_singleton.mpr rfl⟩],
    [⟨[], none, [], List.forall_mem_nil _⟩],
    [⟨[' '], some .key, [], List.forall_mem_singleton.mpr rfl⟩]]

/-- A read request for it. -/
def keysAndValuesForm : ReadRequest :=
  ⟨"t", .value 0, .value 0, .null, some 2, some [.value, .key]⟩

/-- The request asks for it, with the last limit and with `value`, `key` and `key` again. -/
theorem inRequest_mixedRequest : keysAndValues.InRequest mixedRequest := by
  refine ⟨rfl, by decide +kernel, by decide +kernel, by decide +kernel, by decide +kernel,
    by decide +kernel, [.value, .key, .key], ?_, fun f => by cases f <;> decide⟩
  exact ⟨mixedPlaces, by decide, by decide +kernel, rfl⟩

/-- Blanks, repeats and an empty text make no difference, and the key that is null is kept. -/
theorem ways_agree_mixed_spelling :
    keysAndValues.InOrder (of {}).settings.maxLimit ∧
    keysAndValues.InRequest mixedRequest ∧ keysAndValues.InForm keysAndValuesForm ∧
    ∃ page world' events response body,
      ((of {}).reader.read Broker.consumer keysAndValues.query).run (headedBroker "h") =
        (.ok page, ⟨world', events⟩) ∧
      ((of {}).reader.read Broker.consumer (Query.ofRequest keysAndValuesForm)).run
        (headedBroker "h") = (.ok page, ⟨world', events⟩) ∧
      ((of {}).respond Broker.consumer Broker.producer mixedRequest).run (headedBroker "h") =
        (Reply.just response, ⟨world', events ++ []⟩) ∧
      response.Carries 200 "application/json" body ∧ page.StandsIn body ∧
      page.items = [{ key := .null, value := .value "v" }] := by
  have horder : keysAndValues.InOrder (of {}).settings.maxLimit := by
    have hzero : Asked.Readable 0 := ⟨by decide, Int.ofNat_lt.mpr (Nat.pow_pos (by decide))⟩
    refine ⟨by decide, ?_, ?_, by decide⟩ <;>
      · rintro n ⟨⟩
        exact hzero
  have hform : keysAndValues.InForm keysAndValuesForm := by
    refine ⟨rfl, rfl, rfl, rfl, rfl, ?_⟩
    intro f
    cases f <;> decide
  rcases (ways_agree (of {}) Broker.consumer Broker.producer keysAndValues horder).2.2
    mixedRequest keysAndValuesForm inRequest_mixedRequest hform (headedBroker "h") with
    ⟨result, world', events, response, hread, hread', hrespond, htells⟩
  have hpage : (((of {}).reader.read Broker.consumer keysAndValues.query).run
      (headedBroker "h")).1.toOption = some ⟨[{ key := .null, value := .value "v" }]⟩ := by
    decide +kernel
  rw [hread] at hpage
  cases result with
  | error failure => cases hpage
  | ok page =>
      cases hpage
      rcases htells (by decide +kernel) with ⟨body, hcarries, hstands⟩
      exact ⟨horder, inRequest_mixedRequest, hform, _, world', events, response, body, hread,
        hread', hrespond, hcarries, hstands, rfl⟩

/-- A read from an offset with one digit too many. -/
def longOffset : Asked :=
  ⟨"t", none, some Number.firstLong, none, 1, []⟩

/-- A read of one record. -/
def oneRecord : Asked :=
  ⟨"t", none, some 0, none, 1, []⟩

/-- A read of two records. -/
def twoRecords : Asked :=
  ⟨"t", none, some 0, none, 2, []⟩

/-- A name that is half of a surrogate pair. -/
def halfName : LooseText :=
  ⟨[.half ⟨⟨0, by decide⟩⟩]⟩

/-- Three reads that give a page. Over HTTP the offset of one is refused, since it has too many
    digits, and the page of another is not sent, since it holds half of a surrogate pair. The third
    asks for more records than the service grants over HTTP. -/
theorem long_offset_refused :
    longOffset.InRequest longOffset.request ∧
    (((of {}).reader.read Broker.consumer longOffset.query).run sampleBroker).1.toOption =
      some ⟨[]⟩ ∧
    Verdict.HasStatus (((of {}).respond Broker.consumer Broker.producer longOffset.request).run
      sampleBroker).1.response 422 ∧
    oneRecord.InRequest oneRecord.request ∧
    (((of {}).reader.read Broker.consumer oneRecord.query).run
      (headedBroker halfName)).1.toOption.isSome = true ∧
    (((of {}).respond Broker.consumer Broker.producer oneRecord.request).run
      (headedBroker halfName)).1.response.map Response.status = some 400 ∧
    twoRecords.InRequest twoRecords.request ∧
    (((of { maxLimit := 1 }).reader.read Broker.consumer twoRecords.query).run
      sampleBroker).1.toOption.isSome = true ∧
    (((of { maxLimit := 1 }).respond Broker.consumer Broker.producer twoRecords.request).run
      sampleBroker).1.response.map Response.status = some 422 :=
  ⟨longOffset.inRequest_request, by decide +kernel,
    refused_of_long longOffset.inRequest_request (by decide) rfl (Nat.le_refl _) _ _ _ _,
    oneRecord.inRequest_request, by decide +kernel, by decide +kernel,
    twoRecords.inRequest_request, by decide +kernel, by decide +kernel⟩

end Service

end RecordGateway
