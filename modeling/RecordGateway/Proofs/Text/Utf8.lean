import RecordGateway.Text.Loose

/-!
# Decoding What Was Encoded

The bytes of a character take the decoder from its first state back to it and complete that
character, whatever follows. So encoded texts are read back one character at a time, and decoding
gives the text that was encoded.

The first byte of a form with two, three or four bytes carries the top bits of the code point and
sets the range of the second. The range is narrow for four first bytes only. Two of them keep out
the overlong forms, which `encodeChar` avoids by choosing the shortest, and one keeps out the
surrogates and one what lies beyond the last code point, neither of which is a character. Each of
the ranges is met because the code point is that of a character.

## Theorems

* `Decoder.run_encodeChar`: the bytes of a character are read as that character.
* `decode_encode`: decoding gives back what was encoded.
* `LooseText.eq_ofString_of_encode`: only a string has a UTF-8 form, and it is the string's own.
-/

namespace RecordGateway

namespace Text

namespace Decoder

/-- The byte that carries six bits of a code point after the first byte. -/
def tail (k : Nat) : UInt8 :=
  UInt8.ofNat (0x80 + k)

theorem toNat_tail {k : Nat} (h : k < 64) : (tail k).toNat = 0x80 + k :=
  UInt8.toNat_ofNat_of_lt' (show 0x80 + k < 256 by omega)

/-! ### The first byte -/

theorem first_one {n : Nat} (h : n < 0x80) : first n = ([some (Char.ofNat n)], .start) :=
  if_pos h

theorem first_two {q : Nat} (hlow : 2 ≤ q) (hhigh : q < 32) :
    first (0xC0 + q) = ([], .inside 1 0x80 0xBF q) := by
  unfold first
  rw [if_neg (by omega), if_pos (by omega), Nat.add_sub_cancel_left]

theorem first_three {q : Nat} (h : q < 16) :
    first (0xE0 + q) =
      ([], .inside 2 (if q = 0 then 0xA0 else 0x80) (if q = 13 then 0x9F else 0xBF) q) := by
  unfold first
  rw [if_neg (by omega), if_neg (by omega)]
  by_cases hzero : q = 0
  · subst hzero
    rfl
  by_cases hsurrogate : q = 13
  · subst hsurrogate
    rfl
  rw [if_neg (by omega), if_neg (by omega), if_pos (by omega), if_neg hzero, if_neg hsurrogate,
    Nat.add_sub_cancel_left]

theorem first_four {q : Nat} (h : q ≤ 4) :
    first (0xF0 + q) =
      ([], .inside 3 (if q = 0 then 0x90 else 0x80) (if q = 4 then 0x8F else 0xBF) q) := by
  unfold first
  rw [if_neg (by omega), if_neg (by omega), if_neg (by omega), if_neg (by omega),
    if_neg (by omega)]
  by_cases hzero : q = 0
  · subst hzero
    rfl
  by_cases hlast : q = 4
  · subst hlast
    rfl
  rw [if_neg (by omega), if_neg (by omega), if_pos (by omega), if_neg hzero, if_neg hlast,
    Nat.add_sub_cancel_left]

/-! ### Runs -/

theorem run_start {n : Nat} (h : n < 256) (bs : Bytes) :
    start.run (UInt8.ofNat n :: bs) = (first n).1 ++ (first n).2.run bs := by
  rw [run, UInt8.toNat_ofNat_of_lt' h, step]

/-- A byte within the range takes six bits on and leaves one byte fewer owed. -/
theorem run_tail {owed low high bits k : Nat} (howed : 1 < owed) (hk : k < 64)
    (hlow : low ≤ 0x80 + k) (hhigh : 0x80 + k ≤ high) (bs : Bytes) :
    (inside owed low high bits).run (tail k :: bs) =
      (inside (owed - 1) 0x80 0xBF (bits * 64 + k)).run bs := by
  rw [run, toNat_tail hk, step, if_pos ⟨hlow, hhigh⟩]
  simp only [Nat.add_sub_cancel_left, if_neg (Nat.not_le.mpr howed), List.nil_append]

/-- The last byte owed completes the character. -/
theorem run_last {low high bits k : Nat} (hk : k < 64) (hlow : low ≤ 0x80 + k)
    (hhigh : 0x80 + k ≤ high) (bs : Bytes) :
    (inside 1 low high bits).run (tail k :: bs) =
      some (Char.ofNat (bits * 64 + k)) :: start.run bs := by
  rw [run, toNat_tail hk, step, if_pos ⟨hlow, hhigh⟩]
  simp only [Nat.add_sub_cancel_left, Nat.le_refl, if_true, List.singleton_append]

/-- A code point that a character has: no surrogate and none beyond the last. -/
theorem toNat_bounds (c : Char) : c.toNat < 0xD800 ∨ 0xDFFF < c.toNat ∧ c.toNat < 0x110000 :=
  c.valid

/-- The bytes of a character are read as that character, whatever follows them. -/
theorem run_encodeChar (c : Char) (bs : Bytes) :
    start.run (encodeChar c ++ bs) = some c :: start.run bs := by
  have hvalid := toNat_bounds c
  -- Once its six-bit groups are put together again, what is read has the code point of `c`.
  have hread : ∀ n, n = c.toNat → some (Char.ofNat n) :: start.run bs = some c :: start.run bs := by
    rintro n rfl
    rw [Char.ofNat_toNat]
  unfold encodeChar
  generalize c.toNat = n at hvalid hread ⊢
  by_cases hone : n < 0x80
  · rw [if_pos hone, List.singleton_append, run_start (by omega), first_one hone]
    exact hread n rfl
  by_cases htwo : n < 0x800
  · rw [if_neg hone, if_pos htwo]
    change start.run (UInt8.ofNat (0xC0 + n / 64) :: tail (n % 64) :: bs) = _
    rw [run_start (by omega), first_two (by omega) (by omega)]
    dsimp only [List.nil_append]
    rw [run_last (by omega) (by omega) (by omega)]
    exact hread _ (by omega)
  by_cases hthree : n < 0x10000
  · rw [if_neg hone, if_neg htwo, if_pos hthree]
    change start.run
      (UInt8.ofNat (0xE0 + n / 4096) :: tail (n / 64 % 64) :: tail (n % 64) :: bs) = _
    rw [run_start (by omega), first_three (by omega)]
    dsimp only [List.nil_append]
    -- After the first byte of the surrogates' block only the half below them is in range.
    rw [run_tail (by omega) (by omega) (by split <;> omega) (by split <;> omega),
      run_last (by omega) (by omega) (by omega)]
    exact hread _ (by omega)
  · rw [if_neg hone, if_neg htwo, if_neg hthree]
    change start.run (UInt8.ofNat (0xF0 + n / 262144) :: tail (n / 4096 % 64) ::
      tail (n / 64 % 64) :: tail (n % 64) :: bs) = _
    rw [run_start (by omega), first_four (by omega)]
    dsimp only [List.nil_append]
    rw [run_tail (by omega) (by omega) (by split <;> omega) (by split <;> omega),
      run_tail (by omega) (by omega) (by omega) (by omega),
      run_last (by omega) (by omega) (by omega)]
    exact hread _ (by omega)

theorem run_encode (cs : List Char) (bs : Bytes) :
    start.run (cs.flatMap encodeChar ++ bs) = cs.map some ++ start.run bs := by
  induction cs with
  | nil => rfl
  | cons c cs ih =>
      rw [List.flatMap_cons, List.append_assoc, run_encodeChar, ih, List.map_cons,
        List.cons_append]

end Decoder

/-- Decoding gives back the text that was encoded. -/
theorem decode_encode (s : String) : decode (encode s) = s := by
  have hrun : Decoder.start.run (encode s) = s.toList.map some := by
    have happend := Decoder.run_encode s.toList []
    rw [List.append_nil] at happend
    rw [encode, happend]
    exact List.append_nil _
  rw [decode, decodeChars, hrun, List.map_map]
  have hself : s.toList.map ((·.getD replacement) ∘ some) = s.toList := List.map_id s.toList
  rw [hself, String.ofList_toList]

end Text

namespace LooseText

/-- A text in which no half is found from the first letter on is made of characters. -/
theorem eq_map_char_of_unencodableFrom {offset : Nat} {letters : List Letter}
    (h : unencodableFrom offset letters = none) :
    ∃ cs : List Char, letters = cs.map Letter.char := by
  induction letters generalizing offset with
  | nil => exact ⟨[], rfl⟩
  | cons letter rest ih =>
      cases letter with
      | half half => cases h
      | char c =>
          rcases ih h with ⟨cs, rfl⟩
          exact ⟨c :: cs, rfl⟩

/-- Only a string has a UTF-8 form, and it is the string's own. -/
theorem eq_ofString_of_encode {text : LooseText} {bytes : Bytes} (h : text.encode = .ok bytes) :
    ∃ s, text = ofString s ∧ bytes = Text.encode s := by
  have hnone : text.unencodable? = none := by
    unfold encode at h
    cases hfound : text.unencodable? with
    | none => rfl
    | some e =>
        rw [hfound] at h
        cases h
  rcases eq_map_char_of_unencodableFrom hnone with ⟨cs, hcs⟩
  have htext : text = ofString (String.ofList cs) := by
    rw [ofString, String.toList_ofList, ← hcs]
  refine ⟨String.ofList cs, htext, ?_⟩
  rw [htext, encode_ofString] at h
  cases h
  rfl

/-- A text that was encoded is read back as it was. -/
theorem ofString_decode_of_encode {text : LooseText} {bytes : Bytes}
    (h : text.encode = .ok bytes) : ofString (Text.decode bytes) = text := by
  rcases eq_ofString_of_encode h with ⟨s, rfl, rfl⟩
  rw [Text.decode_encode]

end LooseText

end RecordGateway
