import RecordGateway.Proofs.Entries.Mapping
import RecordGateway.Proofs.Publishing.ReadBack

/-!
# Headers Lose No Name

A consumed record may bear a header twice, and a header may have no value. What is shown is a
mapping: each name that the record bears and no other, in the order in which the names first come,
with the text of the last value that the name has, the empty text if that is null.

The mapping of two lists of headers is that of the first, updated with that of the second. And a
mapping that was shown can be sent again: all its texts were decoded and so have a UTF-8 form, its
names are distinct, and what is read back is the mapping that was sent, in the same order.

## Main definitions

* `Headers.Shows`: a mapping shows a list of headers.

## Theorems

* `Headers.shows_iff`: the one mapping that shows a list of headers.
* `ConsumedRecord.headers_of_view`: a view shows the headers of the record.
* `Headers.decode_append`: more headers update those before them.
* `Headers.decode_resent`: headers that were shown can be sent again and are shown as they were.
* `Headers.shown_and_resent`: all of this for the views of a record.
-/

namespace RecordGateway

namespace Headers

/-- A mapping shows a list of headers: it has their distinct names in the order in which they first
    come, and with each of them the text of its last value. -/
structure Shows (shown : Headers) (pairs : List (LooseText × Option Bytes)) : Prop where
  names : shown.map Prod.fst = (pairs.map Prod.fst).eraseDups
  texts : ∀ before name value after, pairs = before ++ (name, value) :: after →
    name ∉ after.map Prod.fst →
      (name, LooseText.ofString (value.elim "" Text.decode)) ∈ shown

/-- The text of a value that is null is empty. -/
theorem valueText_eq (value : Option Bytes) : valueText value = value.elim "" Text.decode := by
  cases value <;> rfl

/-- Decoding does not change the names. -/
theorem names_decoded (pairs : List (LooseText × Option Bytes)) :
    (pairs.map fun (name, bytes) => (name, LooseText.ofString (valueText bytes))).map Prod.fst =
      pairs.map Prod.fst := by
  rw [List.map_map]
  rfl

/-- What is shown of headers. -/
theorem decode_shows (pairs : List (LooseText × Option Bytes)) : (decode pairs).Shows pairs := by
  refine ⟨?_, fun before name value after hpairs hlast => ?_⟩
  · unfold decode
    rw [Entries.keys_ofPairs, names_decoded]
  · -- Read from the end, the last value of the name comes first.
    refine Entries.mem_of_get?_eq_some ?_
    have hnone : Entries.get? name
        (after.map fun (name, bytes) => (name, LooseText.ofString (valueText bytes))).reverse =
          none := by
      rw [Entries.get?_eq_none_iff, List.map_reverse, List.mem_reverse, names_decoded]
      exact hlast
    unfold decode
    rw [hpairs, Entries.get?_ofPairs, List.map_append, List.map_cons, List.reverse_append,
      List.reverse_cons, Entries.get?_append, Entries.get?_append, hnone, Entries.get?,
      if_pos rfl, valueText_eq]
    rfl

/-- A name that is there comes for the last time somewhere. -/
theorem exists_last {name : LooseText} {pairs : List (LooseText × Option Bytes)}
    (h : name ∈ pairs.map Prod.fst) :
    ∃ before value after, pairs = before ++ (name, value) :: after ∧
      name ∉ after.map Prod.fst := by
  induction pairs with
  | nil => exact absurd h List.not_mem_nil
  | cons pair rest ih =>
      by_cases hrest : name ∈ rest.map Prod.fst
      · rcases ih hrest with ⟨before, value, after, rfl, hlast⟩
        exact ⟨pair :: before, value, after, rfl, hlast⟩
      · rcases List.mem_cons.mp h with rfl | hmem
        · exact ⟨[], pair.2, rest, rfl, hrest⟩
        · exact absurd hmem hrest

/-- There is one mapping that shows a list of headers. -/
theorem shows_iff {shown : Headers} {pairs : List (LooseText × Option Bytes)} :
    shown.Shows pairs ↔ shown = decode pairs := by
  constructor
  · intro h
    have hdecode := decode_shows pairs
    have hnames : shown.map Prod.fst = (decode pairs).map Prod.fst :=
      h.names.trans hdecode.names.symm
    have hnodup : (shown.map Prod.fst).Nodup := by
      rw [h.names]
      exact Entries.nodup_eraseDups _
    refine Entries.eq_of_get? hnames hnodup fun name => ?_
    -- A name that is there has a last value in both, and any other name has none.
    by_cases hname : name ∈ pairs.map Prod.fst
    · rcases exists_last hname with ⟨before, value, after, hpairs, hlast⟩
      rw [Entries.get?_eq_some_of_mem hnodup (h.texts before name value after hpairs hlast),
        Entries.get?_eq_some_of_mem (hnames ▸ hnodup)
          (hdecode.texts before name value after hpairs hlast)]
    · rw [← List.mem_eraseDups, ← h.names] at hname
      rw [Entries.get?_eq_none_iff.mpr hname, Entries.get?_eq_none_iff.mpr (hnames ▸ hname)]
  · rintro rfl
    exact decode_shows pairs

/-- More headers update those before them. -/
theorem decode_append (pairs more : List (LooseText × Option Bytes)) :
    decode (pairs ++ more) = Entries.update (decode pairs) (decode more) := by
  unfold decode
  rw [List.map_append, Entries.ofPairs_append]

/-- No name is there twice. -/
theorem nodup_names_decode (pairs : List (LooseText × Option Bytes)) :
    ((decode pairs).map Prod.fst).Nodup :=
  Entries.nodup_keys_ofPairs _

/-- Headers that were shown can be sent again, and then they are shown as they were. -/
theorem decode_resent (pairs : List (LooseText × Option Bytes)) :
    ∃ sent, (decode pairs).encode = .ok sent ∧
      sent.map Prod.fst = (decode pairs).map Prod.fst ∧
      decode (sent.map fun (name, bytes) => (name, some bytes)) = decode pairs := by
  -- What is shown was decoded, so it holds no halves and can be sent.
  have hstrings : ∀ text ∈ (decode pairs).map Prod.snd, ∃ s, text = LooseText.ofString s := by
    intro text htext
    rcases List.mem_map.mp htext with ⟨entry, hentry, rfl⟩
    rcases List.mem_map.mp (Entries.mem_of_mem_ofPairs hentry) with ⟨pair, -, rfl⟩
    exact ⟨_, rfl⟩
  rcases (encode_isOk_iff (decode pairs)).mpr hstrings with ⟨sent, hsent⟩
  have hnames : sent.map Prod.fst = (decode pairs).map Prod.fst := by
    rw [← reread_encode hsent, List.map_map]
    rfl
  exact ⟨sent, hsent, hnames, decode_encode (nodup_names_decode pairs) hsent⟩

end Headers

namespace ConsumedRecord

/-- The headers are not looked at by a view without them, and nothing else is by a view of them. -/
theorem view_headers (r : ConsumedRecord) :
    r.view [.headers] = .ok { headers := .value (Headers.decode (r.headers.getD [])) } :=
  rfl

/-- A view that shows the headers of a record shows all of them, null counting as none. -/
theorem headers_of_view {wanted : List FieldName} {r : ConsumedRecord} {shown : Record}
    (hwanted : isWanted wanted .headers = true) (h : r.view wanted = .ok shown) :
    shown.headers = .value (Headers.decode (r.headers.getD [])) := by
  rcases view_eq_ok h with ⟨timestamp, -, rfl⟩
  unfold shownAt slotIf
  rw [if_pos hwanted]

end ConsumedRecord

namespace Headers

/-- Headers are shown as a mapping and can be sent as what they were shown as. A record, with null
    for its headers or with a list of them, shows the one mapping that has the distinct names of the
    list in the order in which they first come, each with the text of its last value. The headers of
    two lists together are shown as the mapping of the first, updated with that of the second. And
    what is shown is sent under distinct names, in its order, and a record that bears what was sent
    shows it again. -/
theorem shown_and_resent :
    (∀ r : ConsumedRecord, ∃ shown : Headers, shown.Shows (r.headers.getD []) ∧
      r.view [.headers] = .ok { headers := .value shown } ∧
      ∀ wanted record, ConsumedRecord.isWanted wanted .headers = true →
        r.view wanted = .ok record → record.headers = .value shown) ∧
    (∀ pairs (shown other : Headers), shown.Shows pairs → other.Shows pairs → shown = other) ∧
    (∀ pairs more (first second all : Headers), first.Shows pairs → second.Shows more →
      all.Shows (pairs ++ more) →
        all = Entries.update first second ∧
        all.map Prod.fst = first.map Prod.fst ++
          (second.map Prod.fst).filter (fun name => name ∉ first.map Prod.fst) ∧
        ∀ name, Entries.get? name all = (Entries.get? name second).or (Entries.get? name first)) ∧
    ∀ pairs (shown : Headers), shown.Shows pairs →
      ∃ sent, shown.encode = .ok sent ∧ (sent.map Prod.fst).Nodup ∧
        sent.map Prod.fst = shown.map Prod.fst ∧
        ∀ r : ConsumedRecord, r.headers = some (sent.map fun (name, bytes) => (name, some bytes)) →
          r.view [.headers] = .ok { headers := .value shown } := by
  refine ⟨fun r => ?_, fun pairs shown other hshown hother => ?_, ?_, fun pairs shown hshown => ?_⟩
  · exact ⟨decode (r.headers.getD []), decode_shows _, r.view_headers,
      fun wanted record => ConsumedRecord.headers_of_view⟩
  · rw [shows_iff.mp hshown, shows_iff.mp hother]
  · intro pairs more first second all hfirst hsecond hall
    rw [shows_iff.mp hfirst, shows_iff.mp hsecond, shows_iff.mp hall, decode_append]
    refine ⟨rfl, Entries.keys_update (nodup_names_decode pairs) (nodup_names_decode more), ?_⟩
    intro name
    exact Entries.get?_update_of_nodup name (nodup_names_decode more) _
  · rcases decode_resent pairs with ⟨sent, hsent, hnames, hagain⟩
    rw [shows_iff.mp hshown]
    refine ⟨sent, hsent, hnames ▸ nodup_names_decode pairs, hnames, fun r hr => ?_⟩
    rw [r.view_headers, hr, Option.getD_some, hagain]

/-- Headers with a damaged value, a null one, and a name that comes twice. -/
def repeatedHeaders : List (LooseText × Option Bytes) :=
  [("b", some [0xC3]), ("a", none), ("b", some [0x78])]

/-- A new header with a damaged value, and one that was there. -/
def laterHeaders : List (LooseText × Option Bytes) :=
  [("c", some [0xC3]), ("a", some [0x7A])]

/-- The last value of a name is shown in its first place, and a later header changes the value but
    not the place. -/
theorem shown_and_resent_repeated :
    Shows [("b", "x"), ("a", "")] repeatedHeaders ∧
    Shows [("c", "\uFFFD"), ("a", "z")] laterHeaders ∧
    Shows [("b", "x"), ("a", "z"), ("c", "\uFFFD")] (repeatedHeaders ++ laterHeaders) ∧
    Entries.update ([("b", "x"), ("a", "")] : Headers) [("c", "\uFFFD"), ("a", "z")] =
      ([("b", "x"), ("a", "z"), ("c", "\uFFFD")] : Headers) ∧
    ∃ sent, encode [("b", "x"), ("a", "")] = .ok sent ∧ (sent.map Prod.fst).Nodup ∧
      ConsumedRecord.view [.headers]
          ⟨0, 0, none, none, none, none, some (sent.map fun (name, bytes) => (name, some bytes))⟩ =
        .ok { headers := .value [("b", "x"), ("a", "")] } := by
  have hfirst : Shows [("b", "x"), ("a", "")] repeatedHeaders :=
    shows_iff.mpr (by decide +kernel)
  have hsecond : Shows [("c", "\uFFFD"), ("a", "z")] laterHeaders :=
    shows_iff.mpr (by decide +kernel)
  have hall : Shows [("b", "x"), ("a", "z"), ("c", "\uFFFD")] (repeatedHeaders ++ laterHeaders) :=
    shows_iff.mpr (by decide +kernel)
  rcases shown_and_resent with ⟨-, -, happend, hresend⟩
  rcases hresend _ _ hfirst with ⟨sent, hsent, hnodup, -, hview⟩
  exact ⟨hfirst, hsecond, hall, (happend _ _ _ _ _ hfirst hsecond hall).1.symm, sent, hsent, hnodup,
    hview _ rfl⟩

end Headers

end RecordGateway
