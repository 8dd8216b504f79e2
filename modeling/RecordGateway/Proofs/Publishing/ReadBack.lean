import RecordGateway.Proofs.Entries
import RecordGateway.Proofs.Partition.Order
import RecordGateway.Proofs.Record.View
import RecordGateway.Proofs.Text.Utf8
import RecordGateway.Proofs.Time.RoundTrip
import RecordGateway.Publishing

/-!
# What Is Written Is Read Back

A request to write goes out as bytes, and a consumed record that holds these bytes is shown with
the key, the value and the headers of the request, and with a text that names its instant.

Four things become bytes or text on the way out and are turned back on the way in, each by code of
its own. Texts are encoded when they are sent and decoded when a record is consumed or, for
headers, when it is shown. A header mapping goes out as a list of pairs and comes back as the
mapping of that list, which is the same since no name is there twice. An instant goes out as a
number and comes back as its text. And a key that is null has no bytes, while an empty key has
none either but is there; the two stay apart because only null becomes null.

Not every text can be sent. A request has bytes exactly if its texts are strings, and then the
view of the record cannot fail.

## Main definitions

* `WriteRequest.texts`: the texts of a request that are sent as bytes.
* `Writer.sent`: the record that a request asks to send.
* `ConsumedRecord.Holds`: a consumed record holds what was sent.
* `Writer.noteRequest`: a request to run.

## Theorems

* `Headers.decode_encode`: headers with distinct names are read back.
* `Writer.sent_isOk_iff`: which requests can be sent.
* `Writer.read_back`: a record that holds what was sent shows what was asked for.
-/

namespace RecordGateway

namespace LooseText

/-- The texts with a UTF-8 form are the strings. -/
theorem encode_isOk_iff (text : LooseText) :
    (∃ bytes, text.encode = .ok bytes) ↔ ∃ s, text = ofString s := by
  constructor
  · rintro ⟨bytes, hbytes⟩
    rcases eq_ofString_of_encode hbytes with ⟨s, hs, -⟩
    exact ⟨s, hs⟩
  · rintro ⟨s, rfl⟩
    exact ⟨_, encode_ofString s⟩

end LooseText

namespace Headers

/-- What becomes of one header on its way out and in again. -/
theorem reread_of_encode {name text : LooseText} {sent : LooseText × Bytes}
    (h : (text.encode.map fun bytes => (name, bytes)) = .ok sent) :
    (sent.1, LooseText.ofString (Text.decode sent.2)) = (name, text) := by
  cases htext : text.encode with
  | error e =>
      rw [htext] at h
      cases h
  | ok bytes =>
      rw [htext] at h
      cases h
      rw [LooseText.ofString_decode_of_encode htext]

/-- What is sent for headers, read one by one, is the headers. -/
theorem reread_encode {headers : Headers} {sent : List (LooseText × Bytes)}
    (h : headers.encode = .ok sent) :
    sent.map (fun pair => (pair.1, LooseText.ofString (Text.decode pair.2))) = headers := by
  rw [encode, mapM_eq_ok_iff] at h
  induction headers generalizing sent with
  | nil =>
      rw [List.map_eq_nil_iff.mp h.symm]
      rfl
  | cons first rest ih =>
      cases sent with
      | nil => cases h
      | cons pair pairs =>
          rw [List.map_cons, List.map_cons, List.cons.injEq] at h
          rw [List.map_cons, ih h.2, reread_of_encode h.1]

/-- Headers with distinct names are read back as they were sent. -/
theorem decode_encode {headers : Headers} {sent : List (LooseText × Bytes)}
    (hnodup : (headers.map Prod.fst).Nodup) (h : headers.encode = .ok sent) :
    decode (sent.map fun (name, bytes) => (name, some bytes)) = headers := by
  rw [decode, List.map_map]
  exact (congrArg Entries.ofPairs (reread_encode h)).trans (Entries.ofPairs_of_nodup hnodup)

/-- Headers can be sent exactly if their texts are strings. -/
theorem encode_isOk_iff (headers : Headers) :
    (∃ sent, headers.encode = .ok sent) ↔
      ∀ text ∈ headers.map Prod.snd, ∃ s, text = LooseText.ofString s := by
  -- A header can be sent if its text can, as its name is sent as it is.
  have hone : ∀ pair : LooseText × LooseText,
      (∃ sent, (pair.2.encode.map fun bytes => (pair.1, bytes)) = .ok sent) ↔
        ∃ s, pair.2 = LooseText.ofString s := by
    intro pair
    exact exists_map_eq_ok_iff.trans (LooseText.encode_isOk_iff pair.2)
  rw [List.forall_mem_map]
  exact mapM_isOk_iff.trans (forall₂_congr fun pair _ => hone pair)

end Headers

/-- The texts of a request that are sent as bytes. -/
def WriteRequest.texts (r : WriteRequest) : List LooseText :=
  r.value :: (r.key.toOption.toList ++ r.headersOrNone.map Prod.snd)

/-- A consumed record holds what was sent: its texts are read from the bytes, its headers and its
    timestamp are those that were handed over. Where the record lies is left open, and so is the
    kind of its timestamp. -/
structure ConsumedRecord.Holds (r : ConsumedRecord) (sent : Outgoing) : Prop where
  key : r.key = sent.key.map Text.decode
  value : r.value = some (Text.decode sent.value)
  headers : r.headers = some (sent.headers.map fun (name, bytes) => (name, some bytes))
  timestamp : r.timestamp = sent.timestamp

namespace Writer

/-- The record that a request asks to send, its headers encoded first. -/
def sent (topic : String) (request : WriteRequest) (timestamp : Option Instant) :
    Except LooseText.Unencodable Outgoing :=
  request.headersOrNone.encode.bind (outgoing topic request timestamp)

/-- What is sent is put together from the bytes of the value, the key and the headers. -/
theorem sent_eq_ok_iff {topic : String} {request : WriteRequest} {timestamp : Option Instant}
    {out : Outgoing} :
    sent topic request timestamp = .ok out ↔
      ∃ value key headers, request.value.encode = .ok value ∧
        request.key.toOption.mapM LooseText.encode = .ok key ∧
        request.headersOrNone.encode = .ok headers ∧
        out = ⟨topic, value, key, request.partition.toOption, timestamp, headers⟩ := by
  unfold sent outgoing
  -- The headers, the value and the key are encoded in this order, and each of them may be what
  -- fails.
  cases request.headersOrNone.encode with
  | error e =>
      constructor
      · intro h
        cases h
      · rintro ⟨_, _, _, _, _, h, _⟩
        cases h
  | ok headers =>
      cases request.value.encode with
      | error e =>
          constructor
          · intro h
            cases h
          · rintro ⟨_, _, _, h, _⟩
            cases h
      | ok value =>
          cases request.key.toOption.mapM LooseText.encode with
          | error e =>
              constructor
              · intro h
                cases h
              · rintro ⟨_, _, _, _, h, _⟩
                cases h
          | ok key =>
              constructor
              · intro h
                cases h
                exact ⟨value, key, headers, rfl, rfl, rfl, rfl⟩
              · rintro ⟨_, _, _, hvalue, hkey, hheaders, rfl⟩
                cases hvalue
                cases hkey
                cases hheaders
                rfl

/-- A request can be sent exactly if its texts are strings. -/
theorem sent_isOk_iff (topic : String) (request : WriteRequest) (timestamp : Option Instant) :
    (∃ out, sent topic request timestamp = .ok out) ↔
      ∀ text ∈ request.texts, ∃ s, text = LooseText.ofString s := by
  -- A request without a key has no text there that could fail.
  have hkey : (∃ key, request.key.toOption.mapM LooseText.encode = .ok key) ↔
      ∀ text ∈ request.key.toOption.toList, ∃ s, text = LooseText.ofString s := by
    cases request.key.toOption with
    | none => exact ⟨fun _ => List.forall_mem_nil _, fun _ => ⟨none, rfl⟩⟩
    | some text =>
        rw [Option.toList_some, List.forall_mem_singleton, ← LooseText.encode_isOk_iff]
        exact exists_map_eq_ok_iff
  rw [WriteRequest.texts, List.forall_mem_cons, List.forall_mem_append, ← hkey,
    ← Headers.encode_isOk_iff, ← LooseText.encode_isOk_iff]
  constructor
  · rintro ⟨out, hout⟩
    rcases sent_eq_ok_iff.mp hout with ⟨value, key, headers, hvalue, hkey, hheaders, -⟩
    exact ⟨⟨value, hvalue⟩, ⟨key, hkey⟩, ⟨headers, hheaders⟩⟩
  · rintro ⟨⟨value, hvalue⟩, ⟨key, hkey⟩, ⟨headers, hheaders⟩⟩
    exact ⟨_, sent_eq_ok_iff.mpr ⟨value, key, headers, hvalue, hkey, hheaders, rfl⟩⟩

/-- A key that was sent is read back, and no key is read back as none. -/
theorem reread_key {key : Option LooseText} {bytes : Option Bytes}
    (h : key.mapM LooseText.encode = .ok bytes) :
    (bytes.map Text.decode).map LooseText.ofString = key := by
  cases key with
  | none =>
      cases h
      rfl
  | some text =>
      cases htext : text.encode with
      | error e =>
          rw [Option.mapM_some, htext] at h
          cases h
      | ok sent =>
          rw [Option.mapM_some, htext] at h
          cases h
          exact congrArg some (LooseText.ofString_decode_of_encode htext)

/-- A consumed record that holds what was sent for a request shows the key, the value and the
    headers of the request, and a text that names the instant of the request if it has one. -/
theorem read_back (topic : String) {request : WriteRequest}
    (hmapping : (request.headersOrNone.map Prod.fst).Nodup) {timestamp : Option Instant}
    (hmoment : Moment.parse request.timestamp.toOption = .ok timestamp)
    (hrange : ∀ t, timestamp = some t → 0 ≤ t ∧ t ≤ Instant.last) :
    ((∃ out, sent topic request timestamp = .ok out) ↔
        ∀ text ∈ request.texts, ∃ s, text = LooseText.ofString s) ∧
      ∀ out, sent topic request timestamp = .ok out → ∀ r : ConsumedRecord, r.Holds out →
        ∃ shown, r.view [] = .ok shown ∧
          shown.key = .ofOption request.key.toOption ∧
          shown.value = .value request.value ∧
          shown.headers = .value request.headersOrNone ∧
          (timestamp = none → shown.timestamp = .unset) ∧
          ∀ t, timestamp = some t →
            ∃ text, shown.timestamp = .value text ∧ Instant.parse? text = some t := by
  refine ⟨sent_isOk_iff topic request timestamp, ?_⟩
  intro out hout r hholds
  rcases sent_eq_ok_iff.mp hout with ⟨value, key, headers, hvalue, hkey, hheaders, rfl⟩
  rcases hholds with ⟨hrkey, hrvalue, hrheaders, hrtimestamp⟩
  -- An instant that is not negative and lies within the calendar is shown, and as its text.
  have hstamp : ∃ slot, Reported.timestamp timestamp = .ok slot ∧
      (timestamp = none → slot = .unset) ∧
      ∀ t, timestamp = some t → ∃ text, slot = .value text ∧ Instant.parse? text = some t := by
    cases timestamp with
    | none =>
        refine ⟨.unset, rfl, fun _ => rfl, ?_⟩
        intro t ht
        cases ht
    | some t =>
        rcases hrange t rfl with ⟨hzero, hlast⟩
        have hfirst : Instant.first ≤ t := Int.le_trans (by decide) hzero
        rcases (Instant.render_isOk_iff t).mpr ⟨hfirst, hlast⟩ with ⟨text, htext⟩
        refine ⟨.value text, ?_, ?_, ?_⟩
        · rw [Reported.timestamp, if_neg (Int.not_lt.mpr hzero), htext]
          rfl
        · intro hnone
          cases hnone
        · intro t' ht'
          cases ht'
          exact ⟨text, rfl, Instant.parse?_render htext⟩
  rcases hstamp with ⟨slot, hslot, hunset, htext⟩
  -- The timestamp can be shown, so the whole record can.
  have hview : r.view [] = .ok (r.shownAt [] slot) := by
    rw [ConsumedRecord.view_eq, ConsumedRecord.reportedIf_nil, hrtimestamp, hslot]
    rfl
  refine ⟨_, hview, ?_, ?_, ?_, hunset, htext⟩
  · rw [ConsumedRecord.shownAt_nil, hrkey, reread_key hkey]
  · rw [ConsumedRecord.shownAt_nil, hrvalue, Option.map_some,
      LooseText.ofString_decode_of_encode hvalue]
    rfl
  · rw [ConsumedRecord.shownAt_nil, hrheaders, Option.getD_some,
      Headers.decode_encode hmapping hheaders]

/-- A request with an empty key, texts outside ASCII, an empty header and a zone. -/
def noteRequest : WriteRequest :=
  { partition := .unset
    timestamp := .value (.ofString "2024-02-29 23:59:59.5-05:30")
    key := .value (.ofString "")
    value := .ofString "é€𝄞"
    headers := some [(.ofString "b", .ofString "ß"), (.ofString "a", .ofString "")] }

/-- An empty key is read back as one, the headers in their order, and the instant in UTC. -/
theorem read_back_note :
    (noteRequest.headersOrNone.map Prod.fst).Nodup ∧
    Moment.parse noteRequest.timestamp.toOption = .ok (some 1709270999500) ∧
    (∀ t, some (1709270999500 : Instant) = some t → 0 ≤ t ∧ t ≤ Instant.last) ∧
    ∃ out, sent "t" noteRequest (some 1709270999500) = .ok out ∧
      ∀ r : ConsumedRecord, r.Holds out → ∃ shown, r.view [] = .ok shown ∧
        shown.key = .value (.ofString "") ∧ shown.value = .value (.ofString "é€𝄞") ∧
        shown.headers =
          .value [(.ofString "b", .ofString "ß"), (.ofString "a", .ofString "")] ∧
        ∃ text, shown.timestamp = .value text ∧ Instant.parse? text = some 1709270999500 := by
  have hmapping : (noteRequest.headersOrNone.map Prod.fst).Nodup := by decide
  have hmoment : Moment.parse noteRequest.timestamp.toOption = .ok (some 1709270999500) :=
    rfl
  have hrange : ∀ t, some (1709270999500 : Instant) = some t → 0 ≤ t ∧ t ≤ Instant.last := by
    intro t ht
    cases ht
    decide
  have htexts : ∀ text ∈ noteRequest.texts, ∃ s, text = LooseText.ofString s := by
    simp only [noteRequest, WriteRequest.texts, WriteRequest.headersOrNone, Slot.toOption,
      Option.getD_some, Option.toList_some, List.singleton_append, List.map_cons, List.map_nil,
      List.forall_mem_cons]
    exact ⟨⟨_, rfl⟩, ⟨_, rfl⟩, ⟨_, rfl⟩, ⟨_, rfl⟩, List.forall_mem_nil _⟩
  rcases read_back "t" hmapping hmoment hrange with ⟨hsent, hshown⟩
  rcases hsent.mpr htexts with ⟨out, hout⟩
  refine ⟨hmapping, hmoment, hrange, out, hout, ?_⟩
  intro r hr
  rcases hshown out hout r hr with ⟨shown, hview, hkey, hvalue, hheaders, -, htimestamp⟩
  exact ⟨shown, hview, hkey, hvalue, hheaders, htimestamp _ rfl⟩

end Writer

end RecordGateway
