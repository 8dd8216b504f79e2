import Mathlib.Data.List.Forall2
import RecordGateway.Proofs.Entries
import RecordGateway.Proofs.Json.Sendable
import RecordGateway.Proofs.Record.View
import RecordGateway.Proofs.Text.Utf8

/-!
# Damage Stays Where It Is

Which bytes are well-formed is said without the encoder, by a table of the forms that a character
can have: for each of its bytes the range in which it lies. The rows of the table are the bytes of
the characters, no more and no fewer, since the ranges leave out what would be longer than needed,
what would be half of a surrogate pair and what lies beyond the last code point. So the well-formed
bytes are those of the texts, and these alone come back when they are decoded and encoded again.

Bytes that are not well-formed are decoded too. All that the decoder carries over from one byte to
the next is a character that has been begun, and only a byte that starts none can go on with it. Any
other byte is read as if nothing had come before, and the first byte of a text is such a byte.
Therefore a text is read as it was written, whatever stands before it, and the damage before it and
after it is read as it would be alone. Without a text between them, the bytes on both sides might
make up a character together.

## Main definitions

* `Text.forms`: the forms of a character, byte by byte.
* `Text.WellFormed`: bytes that are forms of characters, one after another.
* `Text.Decoder.Fresh`: bytes that do not go on with a character.

## Theorems

* `Text.isForm_encodeChar`, `Text.IsForm.eq_encodeChar`: the forms are the bytes of characters.
* `Text.encode_decode_eq_iff`: which bytes come back.
* `Text.Decoder.Bounded.run_append`: fresh bytes are read on their own.
* `Text.decode_between`: a text between damaged bytes.
* `ConsumedRecord.get?_headers`: the header values that are shown.
* `Text.decoding_faithful`: decoding as a whole.
-/

namespace RecordGateway

namespace Text

/-! ### Well-formed bytes -/

/-- The forms of a character: for each of its bytes, the least and the greatest that it may be. -/
def forms : List (List (Nat × Nat)) :=
  [[(0x00, 0x7F)],
    [(0xC2, 0xDF), (0x80, 0xBF)],
    [(0xE0, 0xE0), (0xA0, 0xBF), (0x80, 0xBF)],
    [(0xE1, 0xEC), (0x80, 0xBF), (0x80, 0xBF)],
    [(0xED, 0xED), (0x80, 0x9F), (0x80, 0xBF)],
    [(0xEE, 0xEF), (0x80, 0xBF), (0x80, 0xBF)],
    [(0xF0, 0xF0), (0x90, 0xBF), (0x80, 0xBF), (0x80, 0xBF)],
    [(0xF1, 0xF3), (0x80, 0xBF), (0x80, 0xBF), (0x80, 0xBF)],
    [(0xF4, 0xF4), (0x80, 0x8F), (0x80, 0xBF), (0x80, 0xBF)]]

/-- Whether a byte lies in a range. -/
def InRange (range : Nat × Nat) (b : UInt8) : Prop :=
  range.1 ≤ b.toNat ∧ b.toNat ≤ range.2

/-- Bytes that have one of the forms of a character. -/
def IsForm (bytes : Bytes) : Prop :=
  ∃ form ∈ forms, List.Forall₂ InRange form bytes

/-- Bytes that are forms of characters, one after another. -/
inductive WellFormed : Bytes → Prop where
  /-- No bytes. -/
  | nil : WellFormed []
  /-- A character before others. -/
  | append {form rest : Bytes} (hform : IsForm form) (hrest : WellFormed rest) :
      WellFormed (form ++ rest)

/-- A byte made of a number lies where the number does. -/
theorem inRange_ofNat {low high n : Nat} (hlow : low ≤ n) (hhigh : n ≤ high) (h : high < 256) :
    InRange (low, high) (UInt8.ofNat n) := by
  rw [InRange, UInt8.toNat_ofNat_of_lt' (Nat.lt_of_le_of_lt hhigh h)]
  exact ⟨hlow, hhigh⟩

/-- The last six bits of a number make a byte that goes on. -/
theorem inRange_tail (k : Nat) : InRange (0x80, 0xBF) (UInt8.ofNat (0x80 + k % 64)) :=
  inRange_ofNat (by omega) (by omega) (by decide)

/-- A number is the code of a character unless it is a surrogate or too large. -/
theorem exists_char {n : Nat} (h : n < 0xD800 ∨ 0xDFFF < n ∧ n < 0x110000) :
    ∃ c : Char, c.toNat = n :=
  ⟨Char.ofNatAux n h, rfl⟩

/-- A byte of ASCII is a character. -/
theorem eq_encodeChar_one {a : UInt8} (ha : a.toNat < 0x80) : ∃ c, [a] = encodeChar c := by
  rcases exists_char (n := a.toNat) (by omega) with ⟨c, hc⟩
  refine ⟨c, ?_⟩
  unfold encodeChar
  rw [hc, if_pos ha, UInt8.ofNat_toNat]

/-- Two bytes are a character, as the first is great enough for the form not to be overlong. -/
theorem eq_encodeChar_two {a b : UInt8} (ha : InRange (0xC2, 0xDF) a)
    (hb : InRange (0x80, 0xBF) b) : ∃ c, [a, b] = encodeChar c := by
  rw [InRange] at ha hb
  rcases exists_char (n := (a.toNat - 0xC0) * 64 + (b.toNat - 0x80)) (by omega) with ⟨c, hc⟩
  have hfirst : 0xC0 + c.toNat / 64 = a.toNat := by omega
  have hsecond : 0x80 + c.toNat % 64 = b.toNat := by omega
  refine ⟨c, ?_⟩
  unfold encodeChar
  rw [if_neg (by omega), if_pos (by omega), hfirst, hsecond, UInt8.ofNat_toNat, UInt8.ofNat_toNat]

/-- Three bytes are a character if the number they hold needs as many and is no surrogate. -/
theorem eq_encodeChar_three {a b c : UInt8} {n : Nat}
    (hn : n = (a.toNat - 0xE0) * 4096 + (b.toNat - 0x80) * 64 + (c.toNat - 0x80))
    (ha : InRange (0xE0, 0xEF) a) (hb : InRange (0x80, 0xBF) b) (hc : InRange (0x80, 0xBF) c)
    (hshortest : 0x800 ≤ n) (hvalid : n < 0xD800 ∨ 0xDFFF < n) :
    ∃ d, [a, b, c] = encodeChar d := by
  rw [InRange] at ha hb hc
  rcases exists_char (n := n) (by omega) with ⟨d, rfl⟩
  have hfirst : 0xE0 + d.toNat / 4096 = a.toNat := by omega
  have hsecond : 0x80 + d.toNat / 64 % 64 = b.toNat := by omega
  have hthird : 0x80 + d.toNat % 64 = c.toNat := by omega
  refine ⟨d, ?_⟩
  unfold encodeChar
  rw [if_neg (by omega), if_neg (by omega), if_pos (by omega), hfirst, hsecond, hthird,
    UInt8.ofNat_toNat, UInt8.ofNat_toNat, UInt8.ofNat_toNat]

/-- So are four bytes, if the number needs as many and is small enough. -/
theorem eq_encodeChar_four {a b c d : UInt8} {n : Nat}
    (hn : n = (a.toNat - 0xF0) * 262144 + (b.toNat - 0x80) * 4096 + (c.toNat - 0x80) * 64 +
      (d.toNat - 0x80))
    (ha : InRange (0xF0, 0xF4) a) (hb : InRange (0x80, 0xBF) b) (hc : InRange (0x80, 0xBF) c)
    (hd : InRange (0x80, 0xBF) d) (hshortest : 0x10000 ≤ n) (hvalid : n < 0x110000) :
    ∃ e, [a, b, c, d] = encodeChar e := by
  rw [InRange] at ha hb hc hd
  rcases exists_char (n := n) (by omega) with ⟨e, rfl⟩
  have hfirst : 0xF0 + e.toNat / 262144 = a.toNat := by omega
  have hsecond : 0x80 + e.toNat / 4096 % 64 = b.toNat := by omega
  have hthird : 0x80 + e.toNat / 64 % 64 = c.toNat := by omega
  have hfourth : 0x80 + e.toNat % 64 = d.toNat := by omega
  refine ⟨e, ?_⟩
  unfold encodeChar
  rw [if_neg (by omega), if_neg (by omega), if_neg (by omega), hfirst, hsecond, hthird, hfourth,
    UInt8.ofNat_toNat, UInt8.ofNat_toNat, UInt8.ofNat_toNat, UInt8.ofNat_toNat]

/-- Bytes in the form of a character are those of a character. -/
theorem IsForm.eq_encodeChar {bytes : Bytes} (h : IsForm bytes) : ∃ c, bytes = encodeChar c := by
  rcases h with ⟨form, hform, hbytes⟩
  simp only [forms, List.mem_cons, List.not_mem_nil, or_false] at hform
  rcases hform with rfl | rfl | rfl | rfl | rfl | rfl | rfl | rfl | rfl
  · rcases hbytes with _ | ⟨ha, _ | _⟩
    exact eq_encodeChar_one (Nat.lt_succ_of_le ha.2)
  · rcases hbytes with _ | ⟨ha, _ | ⟨hb, _ | _⟩⟩
    exact eq_encodeChar_two ha hb
  -- The second byte is kept from overlong forms, from surrogates and from what is too large.
  iterate 4
    · rcases hbytes with _ | ⟨ha, _ | ⟨hb, _ | ⟨hc, _ | _⟩⟩⟩
      simp only [InRange] at ha hb hc
      exact eq_encodeChar_three rfl ⟨by omega, by omega⟩ ⟨by omega, by omega⟩ hc (by omega)
        (by omega)
  iterate 3
    · rcases hbytes with _ | ⟨ha, _ | ⟨hb, _ | ⟨hc, _ | ⟨hd, _ | _⟩⟩⟩⟩
      simp only [InRange] at ha hb hc hd
      exact eq_encodeChar_four rfl ⟨by omega, by omega⟩ ⟨by omega, by omega⟩ hc hd (by omega)
        (by omega)

/-- The bytes of a character have one of the forms. -/
theorem isForm_encodeChar (c : Char) : IsForm (encodeChar c) := by
  have hvalid := Decoder.toNat_bounds c
  have hin : ∀ {low high n : Nat}, low ≤ n ∧ n ≤ high ∧ high < 256 →
      InRange (low, high) (UInt8.ofNat n) := fun h => inRange_ofNat h.1 h.2.1 h.2.2
  unfold encodeChar
  generalize c.toNat = n at hvalid
  dsimp only
  have hlast := inRange_tail n
  have hsecond := inRange_tail (n / 64)
  have hthird := inRange_tail (n / 4096)
  -- One case for each length, and in it one for each first byte that bounds the second one.
  by_cases hone : n < 0x80
  · rw [if_pos hone]
    exact ⟨[(0x00, 0x7F)], by decide, .cons (hin (by omega)) .nil⟩
  by_cases htwo : n < 0x800
  · rw [if_neg hone, if_pos htwo]
    exact ⟨[(0xC2, 0xDF), (0x80, 0xBF)], by decide, .cons (hin (by omega)) (.cons hlast .nil)⟩
  by_cases hthree : n < 0x10000
  · rw [if_neg hone, if_neg htwo, if_pos hthree]
    by_cases hlow : n < 0x1000
    · exact ⟨[(0xE0, 0xE0), (0xA0, 0xBF), (0x80, 0xBF)], by decide,
        .cons (hin (by omega)) (.cons (hin (by omega)) (.cons hlast .nil))⟩
    by_cases hmiddle : n < 0xD000
    · exact ⟨[(0xE1, 0xEC), (0x80, 0xBF), (0x80, 0xBF)], by decide,
        .cons (hin (by omega)) (.cons hsecond (.cons hlast .nil))⟩
    rcases hvalid with hbelow | habove
    · exact ⟨[(0xED, 0xED), (0x80, 0x9F), (0x80, 0xBF)], by decide,
        .cons (hin (by omega)) (.cons (hin (by omega)) (.cons hlast .nil))⟩
    · exact ⟨[(0xEE, 0xEF), (0x80, 0xBF), (0x80, 0xBF)], by decide,
        .cons (hin (by omega)) (.cons hsecond (.cons hlast .nil))⟩
  · rw [if_neg hone, if_neg htwo, if_neg hthree]
    by_cases hlow : n < 0x40000
    · exact ⟨[(0xF0, 0xF0), (0x90, 0xBF), (0x80, 0xBF), (0x80, 0xBF)], by decide,
        .cons (hin (by omega)) (.cons (hin (by omega)) (.cons hsecond (.cons hlast .nil)))⟩
    by_cases hmiddle : n < 0x100000
    · exact ⟨[(0xF1, 0xF3), (0x80, 0xBF), (0x80, 0xBF), (0x80, 0xBF)], by decide,
        .cons (hin (by omega)) (.cons hthird (.cons hsecond (.cons hlast .nil)))⟩
    · exact ⟨[(0xF4, 0xF4), (0x80, 0x8F), (0x80, 0xBF), (0x80, 0xBF)], by decide,
        .cons (hin (by omega)) (.cons (hin (by omega)) (.cons hsecond (.cons hlast .nil)))⟩

/-- Bytes are well-formed if they are those of a text. -/
theorem wellFormed_iff (bytes : Bytes) : WellFormed bytes ↔ ∃ s, bytes = encode s := by
  constructor
  · intro h
    induction h with
    | nil => exact ⟨"", rfl⟩
    | append hform _ ih =>
        rcases hform.eq_encodeChar with ⟨c, rfl⟩
        rcases ih with ⟨s, rfl⟩
        exact ⟨String.ofList (c :: s.toList), by rw [encode, encode, String.toList_ofList]; rfl⟩
  · -- By induction on the characters, each of which is one form.
    rintro ⟨s, rfl⟩
    rw [encode]
    induction s.toList with
    | nil => exact .nil
    | cons c cs ih => exact .append (isForm_encodeChar c) ih

/-- Bytes come back from their text exactly if they are well-formed. -/
theorem encode_decode_eq_iff (bytes : Bytes) :
    encode (decode bytes) = bytes ↔ WellFormed bytes := by
  rw [wellFormed_iff]
  constructor
  · exact fun h => ⟨decode bytes, h.symm⟩
  · rintro ⟨s, rfl⟩
    rw [decode_encode]

/-! ### Damage -/

namespace Decoder

/-- Inside a character, only bytes that start none are taken. -/
def Bounded : Decoder → Prop
  | .start => True
  | .inside _ low high _ => 0x80 ≤ low ∧ high ≤ 0xBF

/-- A first byte leaves the decoder bounded. -/
theorem bounded_first (b : Nat) : (first b).2.Bounded := by
  unfold first
  split_ifs <;> simp only [Bounded] <;> omega

/-- And so does every byte after it. -/
theorem Bounded.step {d : Decoder} (h : d.Bounded) (b : Nat) : (d.step b).2.Bounded := by
  cases d with
  | start => exact bounded_first b
  | inside owed low high bits =>
      rw [Decoder.step]
      split_ifs
      · trivial
      · exact ⟨Nat.le_refl _, Nat.le_refl _⟩
      · exact bounded_first b

/-- Bytes are run through one by one. -/
theorem run_cons (d : Decoder) (b : UInt8) (bytes : Bytes) :
    d.run (b :: bytes) = (d.step b.toNat).1 ++ (d.step b.toNat).2.run bytes :=
  rfl

/-- Bytes that do not go on with a character: there are none, or the first is the first of a
    character or of none. -/
def Fresh (bytes : Bytes) : Prop :=
  ∀ b ∈ bytes.head?, ¬ InRange (0x80, 0xBF) b

/-- A byte that does not go on is read as if nothing had come before it. -/
theorem Bounded.run_fresh {d : Decoder} (h : d.Bounded) {rest : Bytes} (hrest : Fresh rest) :
    d.run rest = d.finish ++ start.run rest := by
  cases d with
  | start => rfl
  | inside owed low high bits =>
      cases rest with
      | nil => rfl
      | cons b bs =>
          -- The byte does not lie where the decoder waits for one.
          have hout : ¬ (low ≤ b.toNat ∧ b.toNat ≤ high) := by
            intro hin
            exact hrest b rfl ⟨Nat.le_trans h.1 hin.1, Nat.le_trans hin.2 h.2⟩
          rw [run, Decoder.step, if_neg hout]
          rfl

/-- What is read before fresh bytes is what would be read without them. -/
theorem Bounded.run_append {d : Decoder} (h : d.Bounded) (bytes : Bytes) {rest : Bytes}
    (hrest : Fresh rest) : d.run (bytes ++ rest) = d.run bytes ++ start.run rest := by
  induction bytes generalizing d with
  | nil => exact h.run_fresh hrest
  | cons b bs ih =>
      rw [List.cons_append, run_cons, run_cons, ih (h.step b.toNat), List.append_assoc]

end Decoder

/-- Bytes before fresh ones are read on their own. -/
theorem decode_append (bytes : Bytes) {rest : Bytes} (hrest : Decoder.Fresh rest) :
    decode (bytes ++ rest) = decode bytes ++ decode rest := by
  have hrun := Decoder.Bounded.run_append (d := .start) trivial bytes hrest
  simp only [decode, decodeChars, hrun, List.map_append, String.ofList_append]

/-- The first byte of a character goes on with none. -/
theorem IsForm.fresh_append {form : Bytes} (h : IsForm form) (rest : Bytes) :
    Decoder.Fresh (form ++ rest) := by
  have hfirst : ∀ ranges ∈ forms, ∀ range ∈ ranges.head?, range.2 < 0x80 ∨ 0xBF < range.1 := by
    decide
  rcases h with ⟨ranges, hranges, hform⟩
  cases hform with
  | nil => exact absurd hranges (by decide)
  | @cons range b _ _ hb _ =>
      intro first hb'
      cases hb'
      have hrange := hfirst _ hranges range rfl
      simp only [InRange] at hb ⊢
      omega

/-- The bytes of a text are fresh, unless it is empty. -/
theorem fresh_encode_append {s : String} (hs : s ≠ "") (bytes : Bytes) :
    Decoder.Fresh (encode s ++ bytes) := by
  cases hchars : s.toList with
  | nil => exact absurd (String.toList_eq_nil_iff.mp hchars) hs
  | cons c cs =>
      rw [encode, hchars, List.flatMap_cons, List.append_assoc]
      exact (isForm_encodeChar c).fresh_append _

/-- A text is read as it was written, whatever bytes come after. -/
theorem decode_encode_append (s : String) (bytes : Bytes) :
    decode (encode s ++ bytes) = s ++ decode bytes := by
  rw [decode, decodeChars, encode, Decoder.run_encode, List.map_append, List.map_map,
    String.ofList_append]
  have hself : s.toList.map ((·.getD replacement) ∘ some) = s.toList := List.map_id s.toList
  rw [hself, String.ofList_toList]
  rfl

/-- Text is read between damaged bytes as it was written, and they are read as they would be
    without it. -/
theorem decode_between (before : Bytes) {s : String} (hs : s ≠ "") (after : Bytes) :
    decode (before ++ encode s ++ after) = decode before ++ s ++ decode after := by
  rw [List.append_assoc, decode_append before (fresh_encode_append hs after),
    decode_encode_append, String.append_assoc]

end Text

namespace LooseText

/-- Strings are joined as the texts that they are. -/
theorem ofString_append (s t : String) : ofString (s ++ t) = ofString s ++ ofString t := by
  rw [ofString, String.toList_append, List.map_append]
  rfl

/-- A text is refused exactly if there is a half in it. -/
theorem exists_encode_error_iff (text : LooseText) :
    (∃ e, text.encode = .error e) ↔ text.holdsHalf = true := by
  rw [← Bool.not_eq_false, ← unencodable?_eq_none_iff, encode]
  cases text.unencodable? with
  | none =>
      refine iff_of_false ?_ fun h => h rfl
      rintro ⟨e, ⟨⟩⟩
  | some e => exact iff_of_true ⟨e, rfl⟩ (Option.some_ne_none e)

end LooseText

namespace ConsumedRecord

/-- A header is shown with the last value under its name, decoded; null is shown as no text. -/
theorem get?_headers {wanted : List FieldName} {r : ConsumedRecord} {shown : Record}
    {headers : Headers} (h : r.view wanted = .ok shown) (hheaders : shown.headers = .value headers)
    (name : LooseText) :
    Entries.get? name headers = (Entries.get? name (r.headers.getD []).reverse).map fun value =>
      LooseText.ofString (value.elim "" Text.decode) := by
  rcases view_eq_ok h with ⟨timestamp, -, rfl⟩
  -- The headers are shown, so they were wanted, and are what the list is decoded to.
  have hdecoded : headers = Headers.decode (r.headers.getD []) := by
    change slotIf wanted .headers _ = _ at hheaders
    rw [slotIf] at hheaders
    split_ifs at hheaders
    cases hheaders
    rfl
  rw [hdecoded, Headers.decode, Entries.get?_ofPairs, ← List.map_reverse]
  refine (Entries.get?_map_snd (fun value => LooseText.ofString (Headers.valueText value))
    name _).trans (Option.map_congr fun value _ => ?_)
  cases value <;> rfl

end ConsumedRecord

namespace Text

/-- Decoding is faithful, and damage stays where it is. A text without halves is read back as it
    was, and between any bytes too, unless it is empty; a text with a half in it has no bytes. Bytes
    are read as a string, whose bytes are the same exactly if they are well-formed and are read as
    the same in any case. Header values are read in the same way. -/
theorem decoding_faithful (text : LooseText) (before bytes after : Bytes) :
    ((∃ e, text.encode = .error e) ↔ text.holdsHalf = true) ∧
    (∀ sent, text.encode = .ok sent → LooseText.ofString (decode sent) = text) ∧
    (∃ again, (LooseText.ofString (decode bytes)).encode = .ok again ∧
      (again = bytes ↔ WellFormed bytes) ∧ decode again = decode bytes) ∧
    (∀ sent, text.encode = .ok sent → text.letters ≠ [] →
      LooseText.ofString (decode (before ++ sent ++ after)) =
        LooseText.ofString (decode before) ++ text ++ LooseText.ofString (decode after)) ∧
    ∀ (wanted : List FieldName) (r : ConsumedRecord) (shown : Record) (headers : Headers),
      r.view wanted = .ok shown → shown.headers = .value headers → ∀ name,
        Entries.get? name headers = (Entries.get? name (r.headers.getD []).reverse).map
          fun value => LooseText.ofString (value.elim "" decode) := by
  refine ⟨text.exists_encode_error_iff, fun sent => LooseText.ofString_decode_of_encode,
    ⟨encode (decode bytes), LooseText.encode_ofString _, encode_decode_eq_iff bytes,
      decode_encode _⟩, fun sent hsent hne => ?_,
    fun wanted r shown headers => ConsumedRecord.get?_headers⟩
  -- A text that can be sent is a string, and its bytes are those of the string.
  rcases LooseText.eq_ofString_of_encode hsent with ⟨s, rfl, rfl⟩
  have hs : s ≠ "" := by
    rintro rfl
    exact hne rfl
  rw [decode_between before hs after, LooseText.ofString_append, LooseText.ofString_append]

/-- An `é` between a form that is cut short and an overlong one, and a header that is null at
    last. -/
theorem decoding_faithful_between :
    (LooseText.ofString "é").encode = .ok [0xC3, 0xA9] ∧ (LooseText.ofString "é").letters ≠ [] ∧
    LooseText.ofString (decode ([0xE2, 0x82] ++ [0xC3, 0xA9] ++ [0xC0, 0xAF])) =
      LooseText.ofString "\uFFFDé\uFFFD\uFFFD" ∧
    ∃ (r : ConsumedRecord) (shown : Record) (headers : Headers),
      r.headers = some [(LooseText.ofString "h", some [0xFF]), (LooseText.ofString "h", none)] ∧
      r.view [] = .ok shown ∧ shown.headers = .value headers ∧
      Entries.get? (LooseText.ofString "h") headers = some (LooseText.ofString "") := by
  have hsent : (LooseText.ofString "é").encode = .ok [0xC3, 0xA9] := by decide
  have hne : (LooseText.ofString "é").letters ≠ [] := by decide
  let r : ConsumedRecord := ⟨0, 0, none, none, none, none,
    some [(LooseText.ofString "h", some [0xFF]), (LooseText.ofString "h", none)]⟩
  rcases decoding_faithful (LooseText.ofString "é") [0xE2, 0x82] [] [0xC0, 0xAF] with
    ⟨-, -, -, hbetween, hheaders⟩
  refine ⟨hsent, hne, ?_, r, _, _, rfl, rfl, rfl, ?_⟩
  · rw [hbetween _ hsent hne]
    decide
  · exact (hheaders [] r _ _ rfl rfl (LooseText.ofString "h")).trans (by decide)

/-- Half of a surrogate pair is a text on its own, and it has no bytes to be read back from. -/
theorem half_not_read_back :
    ¬ ∀ text : LooseText, ∃ sent, text.encode = .ok sent ∧
      LooseText.ofString (decode sent) = text := by
  intro h
  rcases h ⟨[.half ⟨0⟩]⟩ with ⟨sent, hsent, -⟩
  cases hsent

end Text

end RecordGateway
