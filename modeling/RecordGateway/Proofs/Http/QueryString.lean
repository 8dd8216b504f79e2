import Mathlib.Data.List.SplitBy
import RecordGateway.Http.QueryString
import RecordGateway.Proofs.Text.Split
import RecordGateway.Proofs.Text.Utf8

/-!
# Query Strings Are Read as They Were Written

A client writes pairs of texts into a query string: each name and each value with escapes, a `=`
between the two, and a `&` between pairs. It may let any character stand that is ASCII and has no
meaning of its own, and it escapes the UTF-8 form of the others byte by byte. However many it lets
stand, the pairs are read back as they were, so every list of pairs has a query string.

Reading goes through three forms. The string becomes bytes and then characters with their numbers,
which changes nothing, since all of it is ASCII. The two separators are found, since a part has
none of them. And the escapes of a part become the bytes that its text was encoded to.

## Main definitions

* `Percent.Plain`: which characters may stand.
* `Percent.spell`: how a character is written.
* `QueryString.write`: pairs as a query string.

## Theorems

* `Percent.unescape_spell`: the bytes of a character are read back.
* `Percent.decode_encode`: a text is read back.
* `QueryString.pairs_write`: pairs are read back.
-/

namespace RecordGateway

namespace Percent

/-- The characters that have a meaning in a query string. -/
def marks : List Char :=
  ['%', '&', '=', '+']

/-- Only characters of ASCII that have no meaning may stand. -/
def Plain (mayStand : Char → Bool) : Prop :=
  ∀ c, mayStand c = true → isAscii c = true ∧ c ∉ marks

/-- How a character is written: as it is, or with an escape for each byte. -/
def spell (mayStand : Char → Bool) (c : Char) : List Char :=
  if mayStand c then [c] else (Text.encodeChar c).flatMap fun b => (escape b).toList

/-- A text is written character by character. -/
theorem toList_encode (mayStand : Char → Bool) (s : String) :
    (encode mayStand s).toList = s.toList.flatMap (spell mayStand) := by
  rw [encode, String.toList_join, List.flatMap_map]
  refine congrArg (List.flatMap · s.toList) (funext fun c => ?_)
  rw [spell]
  by_cases hc : mayStand c
  · rw [if_pos hc, if_pos hc]
    simp only [Char.toString_eq_singleton, String.toList_singleton]
  · rw [if_neg hc, if_neg hc, String.toList_join, List.flatMap_map]

/-! ### Escapes -/

/-- The digit that an escape is written with. -/
def digit (n : Nat) : Char :=
  n.digitChar.toUpper

/-- Both tables are finite, so they are gone through. -/
theorem escape_ofNat (n : Fin 256) :
    (escape (UInt8.ofNat n)).toList = ['%', digit (n / 16), digit (n % 16)] := by
  revert n
  decide +kernel

/-- A digit is read back, and it is a character that may stand. -/
theorem digit_spec (n : Fin 16) :
    Text.hexDigit? (digit n) = some n.val ∧ isAscii (digit n) = true ∧ digit n ∉ marks := by
  revert n
  decide +kernel

/-- An escape is a percent sign and two digits, which write the byte and are no marks. -/
theorem escape_eq (b : UInt8) :
    ∃ high low, (escape b).toList = ['%', high, low] ∧ byte? high low = some b ∧
      ∀ c ∈ [high, low], isAscii c = true ∧ c ∉ marks := by
  have hbyte : b.toNat < 256 := b.toNat_lt
  have hhigh := digit_spec ⟨b.toNat / 16, by omega⟩
  have hlow := digit_spec ⟨b.toNat % 16, by omega⟩
  refine ⟨digit (b.toNat / 16), digit (b.toNat % 16), ?_, ?_, ?_⟩
  · have hescape := escape_ofNat ⟨b.toNat, hbyte⟩
    rwa [UInt8.ofNat_toNat] at hescape
  · have hvalue : b.toNat / 16 * 16 + b.toNat % 16 = b.toNat := Nat.div_add_mod' b.toNat 16
    simp only [byte?, hhigh.1, hlow.1, Option.bind_eq_bind, Option.bind_some, hvalue]
    exact congrArg some UInt8.ofNat_toNat
  · exact List.forall_mem_cons.mpr ⟨hhigh.2, List.forall_mem_singleton.mpr hlow.2⟩

/-- An escape is read back as its byte, whatever follows. -/
theorem unescape_escape (b : UInt8) (rest : List Char) :
    unescape ((escape b).toList ++ rest) = b :: unescape rest := by
  rcases escape_eq b with ⟨high, low, hescape, hbyte, -⟩
  rw [hescape]
  simp only [List.cons_append, List.nil_append, unescape, hbyte]

/-- A character that is no percent sign begins no escape. -/
theorem unescape_cons {c : Char} (h : c ≠ '%') (rest : List Char) :
    unescape (c :: rest) = byteOf c :: unescape rest := by
  rw [unescape]
  rintro high low rest' rfl
  exact absurd rfl h

/-- A character of ASCII is a byte. -/
theorem encodeChar_ascii {c : Char} (h : isAscii c = true) : Text.encodeChar c = [byteOf c] :=
  if_pos (of_decide_eq_true h)

variable {mayStand : Char → Bool}

/-- The bytes of a character are read back, whatever follows. -/
theorem unescape_spell (h : Plain mayStand) (c : Char) (rest : List Char) :
    unescape (spell mayStand c ++ rest) = Text.encodeChar c ++ unescape rest := by
  rw [spell]
  by_cases hc : mayStand c
  · rcases h c hc with ⟨hascii, hmarks⟩
    -- A character that stands is no percent sign, so it begins no escape.
    have hpercent : c ≠ '%' := by
      rintro rfl
      exact hmarks (by decide)
    rw [if_pos hc, encodeChar_ascii hascii]
    exact unescape_cons hpercent rest
  · rw [if_neg hc]
    -- Byte by byte, each with an escape of its own.
    induction Text.encodeChar c with
    | nil => rfl
    | cons b bytes ih =>
        rw [List.flatMap_cons, List.append_assoc, unescape_escape, ih, List.cons_append]

/-- The bytes of a text are read back. -/
theorem unescape_encode (h : Plain mayStand) (cs : List Char) :
    unescape (cs.flatMap (spell mayStand)) = cs.flatMap Text.encodeChar := by
  induction cs with
  | nil => rfl
  | cons c cs ih =>
      rw [List.flatMap_cons, unescape_spell h, ih, List.flatMap_cons]

/-- What is written of a text is ASCII, and percent signs are its only marks. -/
theorem mem_encode (h : Plain mayStand) {s : String} {c : Char}
    (hc : c ∈ (encode mayStand s).toList) :
    isAscii c = true ∧ c ≠ '&' ∧ c ≠ '=' ∧ c ≠ '+' := by
  have hplain : isAscii c = true ∧ c ∉ marks → isAscii c = true ∧ c ≠ '&' ∧ c ≠ '=' ∧ c ≠ '+' := by
    rintro ⟨hascii, hmarks⟩
    simp only [marks, List.mem_cons, not_or] at hmarks
    exact ⟨hascii, hmarks.2.1, hmarks.2.2.1, hmarks.2.2.2.1⟩
  rw [toList_encode, List.mem_flatMap] at hc
  rcases hc with ⟨written, -, hc⟩
  rw [spell] at hc
  -- A character is there because it stands for itself, or as part of an escape.
  by_cases hstand : mayStand written
  · rw [if_pos hstand, List.mem_singleton] at hc
    exact hplain (hc ▸ h written hstand)
  · rw [if_neg hstand, List.mem_flatMap] at hc
    rcases hc with ⟨b, -, hc⟩
    rcases escape_eq b with ⟨high, low, hescape, -, hdigits⟩
    rw [hescape, List.mem_cons] at hc
    rcases hc with rfl | hc
    · decide
    · exact hplain (hdigits c hc)

/-- A text of ASCII is a single stretch. -/
theorem decode_ascii {cs : List Char} (h : ∀ c ∈ cs, isAscii c = true) :
    decode cs = Text.decodeChars (unescape cs) := by
  cases cs with
  | nil => rfl
  | cons c rest =>
      -- All characters are of one kind, so nothing splits the text.
      have hchain : List.IsChain (fun a b => (isAscii a == isAscii b) = true) (c :: rest) := by
        refine (List.pairwise_of_forall_mem_list fun a ha b hb => ?_).isChain
        rw [h a ha, h b hb]
        rfl
      rw [decode, List.splitBy_of_isChain (List.cons_ne_nil c rest) hchain, List.flatMap_cons,
        List.flatMap_nil, List.append_nil, if_pos (List.all_eq_true.mpr h)]

/-- A text is read back. -/
theorem decode_encode (h : Plain mayStand) (s : String) :
    decode (encode mayStand s).toList = s.toList := by
  rw [decode_ascii fun c hc => (mem_encode h hc).1, toList_encode, unescape_encode h]
  have hread := congrArg String.toList (Text.decode_encode s)
  rwa [Text.decode, String.toList_ofList] at hread

end Percent

namespace QueryString

variable {mayStand : Char → Bool}

/-- A pair as it stands in a query string. -/
def writePair (mayStand : Char → Bool) (p : String × String) : List Char :=
  (Percent.encode mayStand p.1).toList ++ '=' :: (Percent.encode mayStand p.2).toList

/-- Pairs as a query string. -/
def write (mayStand : Char → Bool) (ps : List (String × String)) : String :=
  String.ofList (List.intercalate ['&'] (ps.map (writePair mayStand)))

/-- What was written has no plus sign that stands for a space. -/
theorem component_encode (h : Percent.Plain mayStand) (s : String) :
    component (Percent.encode mayStand s).toList = s := by
  have hplus : (Percent.encode mayStand s).toList.map (fun c => if c = '+' then ' ' else c) =
      (Percent.encode mayStand s).toList := by
    refine (List.map_congr_left fun c hc => ?_).trans (List.map_id _)
    exact if_neg (Percent.mem_encode h hc).2.2.2
  rw [component, hplus, Percent.decode_encode h, String.ofList_toList]

/-- A pair is read back, since the name has no sign that ends it. -/
theorem pair_writePair (h : Percent.Plain mayStand) (p : String × String) :
    pair (writePair mayStand p) = p := by
  have hname : '=' ∉ (Percent.encode mayStand p.1).toList :=
    fun hmem => (Percent.mem_encode h hmem).2.2.1 rfl
  rw [pair, writePair, Text.splitFirst_append hname]
  exact Prod.ext (component_encode h p.1) (component_encode h p.2)

/-- What is written of a pair is ASCII, without the sign between pairs. -/
theorem mem_writePair (h : Percent.Plain mayStand) {p : String × String} {c : Char}
    (hc : c ∈ writePair mayStand p) : Percent.isAscii c = true ∧ c ≠ '&' := by
  rw [writePair, List.mem_append, List.mem_cons] at hc
  rcases hc with hc | rfl | hc
  · exact ⟨(Percent.mem_encode h hc).1, (Percent.mem_encode h hc).2.1⟩
  · decide
  · exact ⟨(Percent.mem_encode h hc).1, (Percent.mem_encode h hc).2.1⟩

/-- The bytes of ASCII stand for the same characters. -/
theorem characters_ascii {s : String} (h : ∀ c ∈ s.toList, Percent.isAscii c = true) :
    characters s = s.toList := by
  have hone : ∀ c, Percent.isAscii c = true →
      (Text.encodeChar c).map (fun b => Char.ofNat b.toNat) = [c] := by
    intro c hc
    have hsmall : c.toNat < 128 := of_decide_eq_true hc
    have hbyte : (Percent.byteOf c).toNat = c.toNat := Nat.mod_eq_of_lt (by omega)
    rw [Percent.encodeChar_ascii hc, List.map_singleton, hbyte, Char.ofNat_toNat]
  rw [characters, Text.encode]
  generalize s.toList = cs at h ⊢
  induction cs with
  | nil => rfl
  | cons c cs ih =>
      rcases List.forall_mem_cons.mp h with ⟨hc, hcs⟩
      rw [List.flatMap_cons, List.map_append, hone c hc, ih hcs, List.singleton_append]

/-- A letter of a list is the separator or stands in one of the parts. -/
theorem mem_intercalate {sep c : Char} {parts : List (List Char)}
    (h : c ∈ List.intercalate [sep] parts) : c = sep ∨ ∃ part ∈ parts, c ∈ part := by
  induction parts with
  | nil => exact absurd h List.not_mem_nil
  | cons part rest ih =>
      cases rest with
      | nil =>
          rw [List.intercalate_singleton] at h
          exact Or.inr ⟨part, List.mem_cons_self, h⟩
      | cons next others =>
          rw [List.intercalate_cons_cons, List.mem_append, List.mem_append,
            List.mem_singleton] at h
          rcases h with (h | h) | h
          · exact Or.inr ⟨part, List.mem_cons_self, h⟩
          · exact Or.inl h
          · rcases ih h with hsep | ⟨other, hother, hc⟩
            · exact Or.inl hsep
            · exact Or.inr ⟨other, List.mem_cons_of_mem _ hother, hc⟩

/-- Pairs are read back as they were written. -/
theorem pairs_write (h : Percent.Plain mayStand) (ps : List (String × String)) :
    pairs (write mayStand ps) = ps := by
  -- All of it is ASCII, so that its bytes stand for its characters.
  have hascii : ∀ c ∈ (write mayStand ps).toList, Percent.isAscii c = true := by
    intro c hc
    rw [write, String.toList_ofList] at hc
    rcases mem_intercalate hc with rfl | ⟨part, hpart, hc⟩
    · decide
    · rcases List.mem_map.mp hpart with ⟨p, -, rfl⟩
      exact (mem_writePair h hc).1
  -- And the sign between pairs stands in none of them.
  have hpieces : ∀ piece ∈ ps.map (writePair mayStand), '&' ∉ piece := by
    intro piece hpiece hmem
    rcases List.mem_map.mp hpiece with ⟨p, -, rfl⟩
    exact (mem_writePair h hmem).2 rfl
  -- No piece is empty, since each has its sign between name and value.
  have hkept : (ps.map (writePair mayStand)).filter (fun piece => !piece.isEmpty) =
      ps.map (writePair mayStand) := by
    refine List.filter_eq_self.mpr fun piece hpiece => ?_
    rcases List.mem_map.mp hpiece with ⟨p, -, rfl⟩
    rw [writePair]
    simp
  rw [pairs, characters_ascii hascii, write, String.toList_ofList]
  cases ps with
  | nil => rfl
  | cons p rest =>
      rw [Text.splitOn_intercalate hpieces (List.cons_ne_nil _ _), hkept, List.map_map]
      exact (List.map_congr_left fun p _ => pair_writePair h p).trans (List.map_id _)

end QueryString

end RecordGateway
