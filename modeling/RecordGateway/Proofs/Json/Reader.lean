import RecordGateway.Json.Reader
import RecordGateway.Proofs.Text.Split

/-!
# Steps of the Reader

Arrays and objects are read alike. A bracket opens them, and a closing one may follow at once.
Otherwise a part follows, and behind each part stands the closing bracket or a comma and another
part. Here the reader is put together from these two steps, so that what is proved of a step holds
of both kinds of container.

## Main definitions

* `Reader.enclosed`: a container, from its opening bracket on.
* `Reader.sequel`: what stands behind a part of a container.

## Theorems

* `Reader.value_succ`, `Reader.items_succ`, `Reader.members_succ`: the reader, step by step.
-/

namespace RecordGateway

namespace Json

namespace Reader

/-- To go on twice is to go on by both. -/
theorem Cursor.advance_advance (c : Cursor) (m n : Nat) :
    (c.advance m).advance n = c.advance (m + n) := by
  rw [advance, advance, advance, List.drop_drop, Nat.add_assoc]

/-- White space is what is passed over, and all of it. -/
theorem Cursor.letters_skipSpace (c : Cursor) :
    c.skipSpace.letters = c.letters.dropWhile (Letter.isOf isSpace) :=
  Text.drop_length_takeWhile _ _

/-- The letter that a cursor stands at is a character. -/
def Cursor.At (c : Cursor) (char : Char) : Prop :=
  c.letters.head? = some (.char char)

instance (c : Cursor) (char : Char) : Decidable (c.At char) :=
  inferInstanceAs (Decidable (_ = _))

/-- A cursor stands at the first of the letters that are left. -/
theorem Cursor.at_of_letters {c : Cursor} {char : Char} {ls : List Letter}
    (h : c.letters = .char char :: ls) : c.At char := by
  rw [At, h, List.head?_cons]

/-- And at no other character. -/
theorem Cursor.not_at_of_letters {c : Cursor} {char other : Char} {ls : List Letter}
    (h : c.letters = .char other :: ls) (hother : other ≠ char) : ¬ c.At char := by
  rw [At, h, List.head?_cons, Option.some_inj, Letter.char.injEq]
  exact hother

/-- What a match has ruled out, as the reader puts it. -/
theorem Cursor.not_at_of_forall {c : Cursor} {char : Char}
    (h : ∀ ls, c.letters = .char char :: ls → False) : ¬ c.At char := by
  rw [At, List.head?_eq_some_iff]
  rintro ⟨ls, hls⟩
  exact h ls hls

/-- Read a container from its opening bracket on, to a depth at most. Its parts are read, if it has
    any, and a value is made of them. -/
def enclosed {α : Type} (kind : Container) (closing : Char)
    (parts : Nat → Cursor → Except ReadError (List α × Cursor)) (make : List α → Json) :
    Nat → Cursor → Except ReadError (Json × Cursor)
  | 0, c => c.refuse (.lessNesting kind)
  | depth + 1, c =>
    let inner := (c.advance 1).skipSpace
    if inner.At closing then .ok (make [], inner.advance 1)
    else (parts depth inner).map (Prod.map make id)

/-- Read on behind a part of a container: its closing bracket, or a comma and more parts. -/
def sequel {α : Type} (closing : Char) (part : α)
    (more : Cursor → Except ReadError (List α × Cursor)) (c : Cursor) :
    Except ReadError (List α × Cursor) :=
  if c.skipSpace.At closing then .ok ([part], c.skipSpace.advance 1)
  else if c.skipSpace.At ',' then
    (more (c.skipSpace.advance 1).skipSpace).map (Prod.map (part :: ·) id)
  else c.skipSpace.refuse .comma

/-- A value, step by step: a string, one of the two containers, or a word or a number. -/
theorem value_succ (fuel depth : Nat) (c : Cursor) :
    value (fuel + 1) depth c =
      if c.At '"' then (string c).map (Prod.map .str id)
      else if c.At '[' then enclosed .array ']' (items fuel) .arr depth c
      else if c.At '\x7b' then
        enclosed .object '\x7d' (members fuel) (.obj ∘ Entries.ofPairs) depth c
      else scalar c := by
  unfold value
  -- One case for each letter that a value may begin with, and for a container one for each depth.
  split
  · next ls h =>
    rw [if_pos (Cursor.at_of_letters h)]
    cases string c <;> rfl
  · next ls h =>
    rw [if_neg (Cursor.not_at_of_letters h (by decide)), if_pos (Cursor.at_of_letters h)]
    cases depth with
    | zero => rfl
    | succ depth =>
        simp only [enclosed]
        split
        · next rest hinner => rw [if_pos (Cursor.at_of_letters hinner)]
        · next hinner =>
          rw [if_neg (Cursor.not_at_of_forall hinner)]
          cases items fuel depth (c.advance 1).skipSpace <;> rfl
  · next ls h =>
    rw [if_neg (Cursor.not_at_of_letters h (by decide)),
      if_neg (Cursor.not_at_of_letters h (by decide)), if_pos (Cursor.at_of_letters h)]
    cases depth with
    | zero => rfl
    | succ depth =>
        simp only [enclosed]
        split
        · next rest hinner =>
          rw [if_pos (Cursor.at_of_letters hinner)]
          rfl
        · next hinner =>
          rw [if_neg (Cursor.not_at_of_forall hinner)]
          cases members fuel depth (c.advance 1).skipSpace <;> rfl
  · next hquote hbracket hbrace =>
    rw [if_neg (Cursor.not_at_of_forall hquote), if_neg (Cursor.not_at_of_forall hbracket),
      if_neg (Cursor.not_at_of_forall hbrace)]

/-- The items of an array, step by step: a value, and what stands behind it. -/
theorem items_succ (fuel depth : Nat) (c : Cursor) :
    items (fuel + 1) depth c =
      (value fuel depth c).bind fun p => sequel ']' p.1 (items fuel depth) p.2 := by
  rw [items]
  cases value fuel depth c with
  | error e => rfl
  | ok p =>
      simp only [bind, Except.bind, sequel]
      split
      · next ls h =>
        rw [if_pos (Cursor.at_of_letters h)]
        rfl
      · next ls h =>
        rw [if_neg (Cursor.not_at_of_letters h (by decide)), if_pos (Cursor.at_of_letters h)]
        cases items fuel depth (p.2.skipSpace.advance 1).skipSpace <;> rfl
      · next hlast hnext =>
        rw [if_neg (Cursor.not_at_of_forall hlast), if_neg (Cursor.not_at_of_forall hnext)]

/-- The members of an object, step by step: a name, a colon, a value, and what stands behind it. -/
theorem members_succ (fuel depth : Nat) (c : Cursor) :
    members (fuel + 1) depth c =
      if c.At '"' then
        (string c).bind fun p =>
          if p.2.skipSpace.At ':' then
            (value fuel depth (p.2.skipSpace.advance 1).skipSpace).bind fun q =>
              sequel '\x7d' (p.1, q.1) (members fuel depth) q.2
          else p.2.skipSpace.refuse .colon
      else c.refuse .propertyName := by
  rw [members]
  split
  · next ls h =>
    rw [if_pos (Cursor.at_of_letters h)]
    cases string c with
    | error e => rfl
    | ok p =>
        simp only [bind, Except.bind]
        split
        · next ls h =>
          rw [if_pos (Cursor.at_of_letters h)]
          cases value fuel depth (p.2.skipSpace.advance 1).skipSpace with
          | error e => rfl
          | ok q =>
              simp only [sequel]
              split
              · next ls h =>
                rw [if_pos (Cursor.at_of_letters h)]
                rfl
              · next ls h =>
                rw [if_neg (Cursor.not_at_of_letters h (by decide)),
                  if_pos (Cursor.at_of_letters h)]
                cases members fuel depth (q.2.skipSpace.advance 1).skipSpace <;> rfl
              · next hlast hnext =>
                rw [if_neg (Cursor.not_at_of_forall hlast),
                  if_neg (Cursor.not_at_of_forall hnext)]
        · next hcolon => rw [if_neg (Cursor.not_at_of_forall hcolon)]
  · next hquote => rw [if_neg (Cursor.not_at_of_forall hquote)]

/-- The digits of a fraction, and the point before them, stand in the text that is left. -/
theorem length_fractionDigits_le (cs : List Char) :
    (if (fractionDigits cs).isEmpty then 0 else (fractionDigits cs).length + 1) ≤ cs.length := by
  unfold fractionDigits
  split
  · next cs =>
    have hdigits := (List.takeWhile_prefix (l := cs) Text.isAsciiDigit).length_le
    split
    · exact Nat.zero_le _
    · rw [List.length_cons]
      omega
  · exact Nat.zero_le _

/-- So does an exponent, with its letter and its sign. -/
theorem length_exponentPart_le {cs : List Char} {minus : Bool} {ds : List Char} {width : Nat}
    (h : exponentPart cs = some (minus, ds, width)) : width ≤ cs.length := by
  cases cs with
  | nil => cases h
  | cons c cs =>
      -- A sign takes a letter or none.
      have hbody : (Number.splitSign cs).2.length ≤ cs.length := by
        unfold Number.splitSign
        split <;> simp only [List.length_cons] <;> omega
      rw [exponentPart] at h
      split at h
      · simp only [] at h
        split at h
        · cases h
        · have hdigits := (List.takeWhile_prefix (l := (Number.splitSign cs).2)
            Text.isAsciiDigit).length_le
          simp only [Option.some.injEq, Prod.mk.injEq] at h
          rw [← h.2.2, List.length_cons]
          omega
      · cases h

/-- A number is made of the letters that may stand in one, and it is no array. Otherwise there is
    no value or too long a number. -/
theorem number_cases (c : Cursor) :
    (∃ v, ∃ k ≤ (c.letters.takeWhile (Letter.isOf isOfNumber)).length, (∀ items, v ≠ .arr items) ∧
      number c = .ok (v, c.advance k)) ∨
    number c = c.refuse .value ∨ ∃ digits, number c = c.refuse (.shorterInteger digits) := by
  generalize hnumber : number c = r
  unfold number at hnumber
  extract_lets chars at hnumber
  have hchars : chars.length ≤ (c.letters.takeWhile (Letter.isOf isOfNumber)).length :=
    List.length_filterMap_le _ _
  clear_value chars
  split at hnumber
  next negative body hsign =>
  -- The number is a sign, whole digits, a fraction and an exponent, one after another. Each of
  -- them is no longer than what is left, and so is the whole.
  have hbody : (if negative then 1 else 0) + body.length = chars.length := by
    split at hsign <;> cases hsign
    · exact Nat.add_comm _ _
    · exact Nat.zero_add _
  extract_lets whole signWidth places fractionWidth wholeWidth x at hnumber
  have hwhole : whole.length ≤ body.length := by
    simp only [whole]
    split
    · exact Nat.le_add_left _ _
    · exact (List.takeWhile_prefix _).length_le
  have hplaces : fractionWidth ≤ (body.drop whole.length).length := length_fractionDigits_le _
  rw [List.length_drop] at hplaces
  have hwidth : wholeWidth ≤ chars.length := by
    simp only [wholeWidth, signWidth]
    omega
  split at hnumber
  · -- No digits: there is no value here.
    exact .inr (.inl hnumber.symm)
  · split at hnumber
    · -- An exponent: the number is not whole.
      next minus ds width hexponent =>
      have hexponent := length_exponentPart_le hexponent
      rw [List.length_drop] at hexponent
      exact .inl ⟨_, wholeWidth + width, by omega, fun _ => Json.noConfusion, hnumber.symm⟩
    · split at hnumber
      · split at hnumber
        · exact .inr (.inr ⟨_, hnumber.symm⟩)
        · exact .inl ⟨_, wholeWidth, Nat.le_trans hwidth hchars, fun _ => Json.noConfusion,
          hnumber.symm⟩
      · exact .inl ⟨_, wholeWidth, Nat.le_trans hwidth hchars, fun _ => Json.noConfusion,
          hnumber.symm⟩

/-- Neither a word nor a number is an array. -/
theorem scalar_ne_arr (c after : Cursor) (items : List Json) :
    scalar c ≠ .ok (.arr items, after) := by
  -- The words are a short list, and none of them stands for an array.
  have hwords : ∀ entry ∈ words, ∀ items, entry.2 ≠ .arr items := by
    intro entry hentry items
    simp only [words, List.mem_cons, List.not_mem_nil, or_false] at hentry
    rcases hentry with rfl | rfl | rfl | rfl | rfl | rfl <;> exact Json.noConfusion
  intro h
  unfold scalar at h
  split at h
  · next word v hfind =>
    cases h
    exact hwords _ (List.mem_of_find?_eq_some hfind) items rfl
  · rcases number_cases c with ⟨v, k, -, hv, hnumber⟩ | hnone | ⟨digits, hlong⟩
    · rw [hnumber] at h
      cases h
      exact hv items rfl
    · rw [hnone] at h
      cases h
    · rw [hlong] at h
      cases h

/-- What is read from an opening bracket on is made of the parts. -/
theorem exists_of_enclosed {α : Type} {kind : Container} {closing : Char}
    {parts : Nat → Cursor → Except ReadError (List α × Cursor)} {make : List α → Json} {depth : Nat}
    {c after : Cursor} {v : Json} (h : enclosed kind closing parts make depth c = .ok (v, after)) :
    ∃ as, v = make as := by
  cases depth with
  | zero => cases h
  | succ depth =>
      rw [enclosed] at h
      split at h
      · cases h
        exact ⟨[], rfl⟩
      · cases hparts : parts depth (c.advance 1).skipSpace with
        | error e =>
            rw [hparts] at h
            cases h
        | ok p =>
            rw [hparts] at h
            cases h
            exact ⟨p.1, rfl⟩

/-- An array is read only where a bracket opens it. -/
theorem at_of_value_eq_arr {fuel depth : Nat} {c after : Cursor} {items : List Json}
    (h : value fuel depth c = .ok (.arr items, after)) : c.At '[' := by
  cases fuel with
  | zero => cases h
  | succ fuel =>
      rw [value_succ] at h
      -- A string is none, the bracket is what is looked for, and an object or a scalar is none
      -- either.
      split at h
      · cases hstring : string c with
        | error e =>
            rw [hstring] at h
            cases h
        | ok p =>
            rw [hstring] at h
            cases h
      · split at h
        · assumption
        · split at h
          · rcases exists_of_enclosed h with ⟨parts, hparts⟩
            cases hparts
          · exact absurd h (scalar_ne_arr c after items)

section String

variable {opened fuel : Nat} {c : Cursor} {ls : List Letter}

/-- A string ends with its quote. -/
theorem stringRest_end (hc : c.letters = .char '"' :: ls) :
    stringRest opened (fuel + 1) c = .ok ([], c.advance 1) := by
  rw [stringRest, hc]
  rfl

/-- A letter that is neither a quote, a backslash nor a control character is read as it is. -/
theorem stringRest_plain {l : Letter} (hc : c.letters = l :: ls)
    (hcontrol : l.isOf isControl = false) (hquote : l ≠ .char '"') (hbackslash : l ≠ .char '\\') :
    stringRest opened (fuel + 1) c =
      (stringRest opened fuel (c.advance 1)).map (Prod.map (l :: ·) id) := by
  rw [stringRest, hc]
  -- Of all the cases of the reader only the last one is left, as the letter is plain.
  split
  · next h => cases h
  · next h =>
    cases h
    exact absurd rfl hquote
  · next h =>
    cases h
    exact absurd rfl hbackslash
  · next h =>
    cases h
    exact absurd rfl hbackslash
  · next h =>
    cases h
    exact absurd rfl hbackslash
  · next h =>
    cases h
    rw [if_neg (by rw [hcontrol]; exact Bool.false_ne_true)]
    cases stringRest opened fuel (c.advance 1) <;> rfl

/-- An escape of one letter is read as the character that it stands for. -/
theorem stringRest_short {e char : Char} (hc : c.letters = .char '\\' :: .char e :: ls)
    (hescape : simpleEscape? e = some char) :
    stringRest opened (fuel + 1) c =
      (stringRest opened fuel (c.advance 2)).map (Prod.map (.char char :: ·) id) := by
  -- A code has an escape of its own, which is not one of the short ones.
  have hu : e ≠ 'u' := by
    rintro rfl
    cases hescape
  rw [stringRest, hc]
  split
  · next h => cases h
  · next h => cases h
  · next h => cases h
  · next h =>
    cases h
    exact absurd rfl hu
  · next h =>
    cases h
    simp only [Letter.char?, Option.bind_some, hescape]
    cases stringRest opened fuel (c.advance 2) <;> rfl
  · next hbackslash h =>
    cases h
    exact absurd rfl (hbackslash _ _ rfl)

/-- An escape with a code is read as what the code stands for, as wide as it is. -/
theorem stringRest_unicode {l : Letter} {width : Nat}
    (hc : c.letters = .char '\\' :: .char 'u' :: ls)
    (hescape : unicodeEscape (c.advance 1) = .ok (l, width)) :
    stringRest opened (fuel + 1) c =
      (stringRest opened fuel (c.advance (width + 1))).map (Prod.map (l :: ·) id) := by
  rw [stringRest, hc]
  simp only [hescape, bind, Except.bind]
  cases stringRest opened fuel (c.advance (width + 1)) <;> rfl

end String

end Reader

/-- A text that is read as an array begins with a bracket, behind white space. -/
theorem dropWhile_of_read_eq_arr {t : LooseText} {items : List Json}
    (h : read t = .ok (.arr items)) :
    ∃ rest, t.letters.dropWhile (Letter.isOf Reader.isSpace) = .char '[' :: rest := by
  -- A text with a byte order mark is not read.
  have hunmarked : readUnmarked t = .ok (.arr items) := by
    unfold read at h
    split at h
    · cases h
    · exact h
  simp only [readUnmarked, bind, Except.bind] at hunmarked
  cases hvalue : Reader.value (2 * t.letters.length + 2) maxDepth
      (Reader.Cursor.mk t.letters 0).skipSpace with
  | error e =>
      rw [hvalue] at hunmarked
      cases hunmarked
  | ok p =>
      rcases p with ⟨v, behind⟩
      rw [hvalue] at hunmarked
      simp only [] at hunmarked
      split at hunmarked
      · cases hunmarked
        rcases List.head?_eq_some_iff.mp (Reader.at_of_value_eq_arr hvalue) with ⟨rest, hrest⟩
        rw [Reader.Cursor.letters_skipSpace] at hrest
        exact ⟨rest, hrest⟩
      · cases hunmarked

end Json

end RecordGateway
