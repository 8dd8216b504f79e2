import RecordGateway.Proofs.Json.Reader
import RecordGateway.Proofs.Text.Utf8

/-!
# Arrays of Strings, Written

A string has many texts in JSON. Each of its letters may stand for itself, if it is no control
character, quote or backslash. Some have an escape of one letter. All up to U+FFFF have one of four
hexadecimal digits of either case, and those beyond are written as the two halves of a surrogate
pair. White space may stand around each item of an array. Here that grammar is laid down from the
side of who writes, and the reader is shown to take every text of it.

Half of a surrogate pair has the escape of its digits, and a text that holds halves itself may hold
it as it is. Only the escape of a first half may not be followed by the escape of a second, since
the two together are the text of another letter.

## Main definitions

* `Json.Spells`: a text of letters, between the quotes.
* `Json.SpellsArray`: a text of an array of strings.

## Theorems

* `Json.read_of_spellsArray`: the reader finds the strings that were written.
-/

namespace RecordGateway

/-- The code point of a letter. -/
def Letter.code : Letter → Nat
  | .char c => c.toNat
  | .half h => h.code

/-- A letter is found again by its code point. -/
theorem Letter.ofCode_code (l : Letter) : ofCode l.code = l := by
  cases l with
  | char c =>
      -- No character has the code point of a half.
      have hnone : Half.ofCode? c.toNat = none := by
        have hbounds := Text.Decoder.toNat_bounds c
        exact dif_neg (by omega)
      rw [code, ofCode, hnone, Char.ofNat_toNat]
  | half h =>
      have hindex : h.code - 0xD800 = h.index.val := Nat.add_sub_cancel_left ..
      have hsome : Half.ofCode? h.code = some h := by
        unfold Half.ofCode?
        rw [dif_pos ⟨Nat.le_add_right _ _, by rw [hindex]; exact h.index.isLt⟩]
        simp only [hindex, Fin.eta]
      rw [code, ofCode, hsome]

namespace Json

/-- Four hexadecimal digits that write a number. -/
def WritesHex (n : Nat) (digits : List Letter) : Prop :=
  ∃ a b c d, digits.map Reader.hexDigit? = [some a, some b, some c, some d] ∧
    n = 0x1000 * a + 0x100 * b + 0x10 * c + d

/-- The letters that stand behind a backslash, with the characters they stand for. -/
def shortEscapes : List (Char × Char) :=
  [('"', '"'), ('\\', '\\'), ('/', '/'), ('b', Char.ofNat 0x8), ('f', Char.ofNat 0xC), ('n', '\n'),
    ('r', '\r'), ('t', '\t')]

/-- A text of letters, between the quotes. -/
inductive Spells : List Letter → List Letter → Prop where
  /-- Nothing is written. -/
  | nil : Spells [] []
  /-- A letter stands for itself. -/
  | plain {l : Letter} {letters text : List Letter} (hcontrol : 0x20 ≤ l.code)
      (hquote : l ≠ .char '"') (hbackslash : l ≠ .char '\\') (h : Spells letters text) :
      Spells (l :: letters) (l :: text)
  /-- A character has an escape of one letter. -/
  | short {e c : Char} {letters text : List Letter} (hescape : (e, c) ∈ shortEscapes)
      (h : Spells letters text) : Spells (.char c :: letters) (.char '\\' :: .char e :: text)
  /-- A letter is written in hexadecimal. If it is a first half before a second, the second stands
      for itself. -/
  | unicode {l : Letter} {letters digits text : List Letter} (hdigits : WritesHex l.code digits)
      (hlone : Half.isFirst l.code → ∀ next ∈ letters.head?, Half.isSecond next.code →
        text.head? = some next)
      (h : Spells letters text) :
      Spells (l :: letters) (.char '\\' :: .char 'u' :: (digits ++ text))
  /-- A character beyond U+FFFF is written as two halves. -/
  | pair {c : Char} {letters first second text : List Letter} (hc : 0x10000 ≤ c.toNat)
      (hfirst : WritesHex (0xD800 + (c.toNat - 0x10000) / 0x400) first)
      (hsecond : WritesHex (0xDC00 + (c.toNat - 0x10000) % 0x400) second)
      (h : Spells letters text) :
      Spells (.char c :: letters)
        (.char '\\' :: .char 'u' :: (first ++ .char '\\' :: .char 'u' :: (second ++ text)))

/-- White space between tokens. -/
def Spacing (ls : List Letter) : Prop :=
  ls ⊆ [.char ' ', .char '\t', .char '\n', .char '\r']

/-- A text in quotes. -/
def inQuotes (text : List Letter) : List Letter :=
  .char '"' :: (text ++ [.char '"'])

/-- A text of the items of an array, at least one. -/
inductive SpellsItems : List LooseText → List Letter → Prop where
  /-- The last item. -/
  | last {x : LooseText} {before text after : List Letter} (hbefore : Spacing before)
      (htext : Spells x.letters text) (hafter : Spacing after) :
      SpellsItems [x] (before ++ inQuotes text ++ after)
  /-- An item, a comma, and more. -/
  | more {x : LooseText} {xs : List LooseText} {before text after rest : List Letter}
      (hbefore : Spacing before) (htext : Spells x.letters text) (hafter : Spacing after)
      (h : SpellsItems xs rest) :
      SpellsItems (x :: xs) (before ++ inQuotes text ++ after ++ .char ',' :: rest)

/-- A text of what stands between the brackets of an array. -/
inductive SpellsBody : List LooseText → List Letter → Prop where
  /-- No items. -/
  | none {between : List Letter} (h : Spacing between) : SpellsBody [] between
  /-- Some items. -/
  | some {xs : List LooseText} {text : List Letter} (h : SpellsItems xs text) : SpellsBody xs text

/-- A text of an array of strings. -/
def SpellsArray (xs : List LooseText) (t : LooseText) : Prop :=
  ∃ before body after, Spacing before ∧ SpellsBody xs body ∧ Spacing after ∧
    t.letters = before ++ .char '[' :: (body ++ .char ']' :: after)

/-- Every item takes a letter at least. -/
theorem SpellsItems.length_lt {xs : List LooseText} {text : List Letter} (h : SpellsItems xs text) :
    xs.length < text.length := by
  induction h with
  | last =>
      simp only [inQuotes, List.length_cons, List.length_append, List.length_nil]
      omega
  | more =>
      simp only [inQuotes, List.length_cons, List.length_append, List.length_nil]
      omega

/-- Items begin with a quote, behind white space. -/
theorem SpellsItems.exists_quote {xs : List LooseText} {text : List Letter}
    (h : SpellsItems xs text) :
    ∃ before rest, Spacing before ∧ text = before ++ .char '"' :: rest := by
  cases h with
  | last hbefore =>
      rw [List.append_assoc]
      exact ⟨_, _, hbefore, rfl⟩
  | more hbefore =>
      rw [List.append_assoc, List.append_assoc]
      exact ⟨_, _, hbefore, rfl⟩

namespace Reader

theorem hexEscape_of_writesHex {c : Cursor} {n : Nat} {digits rest : List Letter}
    (hdigits : WritesHex n digits) (hc : c.letters = .char 'u' :: (digits ++ rest))
    (hrest : rest ≠ []) : hexEscape c = .ok n := by
  rcases hdigits with ⟨v₁, v₂, v₃, v₄, hvalues, rfl⟩
  simp only [List.map_eq_cons_iff, List.map_eq_nil_iff] at hvalues
  rcases hvalues with ⟨d₁, -, rfl, h₁, d₂, -, rfl, h₂, d₃, -, rfl, h₃, d₄, -, rfl, h₄, rfl⟩
  have hmore : c.letters.drop 5 = rest := by
    rw [hc]
    rfl
  have hhex : hex4? (c.letters.drop 1) = some (((v₁ * 16 + v₂) * 16 + v₃) * 16 + v₄) := by
    rw [hc]
    simp only [List.cons_append, List.drop_one, List.tail_cons, hex4?, h₁, h₂, h₃, h₄,
      Option.bind_some, bind, pure]
  rw [hexEscape, hmore, if_neg (by rwa [List.isEmpty_iff]), hhex]
  simp only [Except.ok.injEq]
  omega

theorem length_of_writesHex {n : Nat} {digits : List Letter} (h : WritesHex n digits) :
    digits.length = 4 := by
  rcases h with ⟨v₁, v₂, v₃, v₄, hvalues, -⟩
  have hlength := congrArg List.length hvalues
  rwa [List.length_map] at hlength

/-- What stands behind the digits of an escape. -/
theorem Cursor.letters_advance_digits {c : Cursor} {n : Nat} {digits rest : List Letter}
    (hdigits : WritesHex n digits) (hc : c.letters = .char 'u' :: (digits ++ rest)) :
    (c.advance 5).letters = rest := by
  rw [advance, hc, List.drop_succ_cons, ← length_of_writesHex hdigits]
  exact List.drop_left

/-- One escape is read alone, unless it is a first half and the next one is a second. -/
theorem unicodeEscape_single {c : Cursor} {n : Nat} (h : hexEscape c = .ok n)
    (hnext : Half.isFirst n → ∀ ls, (c.advance 5).letters = .char '\\' :: .char 'u' :: ls →
      ∃ m, hexEscape (c.advance 6) = .ok m ∧ Half.isSecond m = false) :
    unicodeEscape c = .ok (Letter.ofCode n, 5) := by
  rw [unicodeEscape, h]
  simp only [bind, Except.bind]
  split
  · next ls hls =>
    split
    · next hfirst =>
      rw [Bool.and_eq_true] at hfirst
      rcases hnext hfirst.1 ls hls with ⟨m, hm, hsecond⟩
      rw [hm]
      simp only [hsecond, Bool.false_eq_true, if_false]
      rfl
    · rfl
  · rfl

/-- Two escapes are read together, if they are the halves of a pair. -/
theorem unicodeEscape_pair {c : Cursor} {n m : Nat} {ls : List Letter} (h : hexEscape c = .ok n)
    (hfirst : Half.isFirst n = true) (hls : (c.advance 5).letters = .char '\\' :: .char 'u' :: ls)
    (hm : hexEscape (c.advance 6) = .ok m) (hsecond : Half.isSecond m = true) :
    unicodeEscape c = .ok (.char (Half.join n m), 11) := by
  have hmore : (c.letters.drop 11).isEmpty = false := by
    have hdrop : (c.advance 6).letters.drop 5 = c.letters.drop 11 :=
      List.drop_drop (i := 5) (j := 6)
    rw [← hdrop]
    unfold hexEscape at hm
    split at hm
    · cases hm
    · next hsome => exact (Bool.not_eq_true _).mp hsome
  rw [unicodeEscape, h]
  simp only [bind, Except.bind]
  rw [hls]
  simp only [hfirst, hmore, Bool.not_false, Bool.and_self, if_true, hm, hsecond]
  rfl

variable {fuel : Nat} {c : Cursor} {ls : List Letter}

theorem append_quote_ne_nil (text rest : List Letter) : text ++ .char '"' :: rest ≠ [] := by
  intro hempty
  cases (List.append_eq_nil_iff.mp hempty).2

/-- An escape that begins a text is that of a second half only if the text is that of one, which
    then does not stand for itself. -/
theorem hexEscape_of_spells {letters text rest : List Letter} (h : Spells letters text)
    (hc : c.letters = text ++ .char '"' :: rest)
    (hls : c.letters = .char '\\' :: .char 'u' :: ls) :
    ∃ m, hexEscape (c.advance 1) = .ok m ∧
      (Half.isSecond m = true → ∃ next ∈ letters.head?, next.code = m ∧
        text.head? ≠ some next) := by
  cases h with
  | nil =>
      rw [hc] at hls
      cases hls
  | plain hcontrol hquote hbackslash h =>
      rw [hc] at hls
      exact absurd (List.cons.inj hls).1 hbackslash
  | @short e char letters text hescape h =>
      have hne : ∀ entry ∈ shortEscapes, entry.1 ≠ 'u' := by decide
      rw [hc] at hls
      simp only [List.cons_append, List.cons.injEq, Letter.char.injEq, true_and] at hls
      exact absurd hls.1 (hne _ hescape)
  | @unicode l letters digits text hdigits hlone h =>
      have hcursor : (c.advance 1).letters =
          .char 'u' :: (digits ++ (text ++ .char '"' :: rest)) := by
        rw [Cursor.advance, hc]
        simp only [List.cons_append, List.append_assoc, List.drop_one, List.tail_cons]
      refine ⟨l.code, hexEscape_of_writesHex hdigits hcursor (append_quote_ne_nil text rest),
        fun hsecond => ⟨l, rfl, rfl, ?_⟩⟩
      -- A backslash is no half.
      rintro ⟨⟩
      cases hsecond
  | @pair char letters first second text hchar hfirst hsecond h =>
      have hcursor : (c.advance 1).letters = .char 'u' ::
          (first ++ ((.char '\\' :: .char 'u' :: (second ++ text)) ++ .char '"' :: rest)) := by
        rw [Cursor.advance, hc]
        simp only [List.cons_append, List.append_assoc, List.drop_one, List.tail_cons]
      refine ⟨_, hexEscape_of_writesHex hfirst hcursor (append_quote_ne_nil _ rest),
        fun hsecond => ?_⟩
      -- What is written here is a first half.
      have hbounds := Text.Decoder.toNat_bounds char
      rw [Half.isSecond, Bool.and_eq_true, decide_eq_true_eq] at hsecond
      omega

/-- A character beyond U+FFFF is joined of the halves that it is written as. -/
theorem join_halves {char : Char} (h : 0x10000 ≤ char.toNat) :
    Half.join (0xD800 + (char.toNat - 0x10000) / 0x400)
      (0xDC00 + (char.toNat - 0x10000) % 0x400) = char := by
  have hsum : 0x10000 + (0xD800 + (char.toNat - 0x10000) / 0x400 - 0xD800) * 0x400 +
      (0xDC00 + (char.toNat - 0x10000) % 0x400 - 0xDC00) = char.toNat := by
    omega
  rw [Half.join, hsum, Char.ofNat_toNat]

theorem simpleEscape?_of_mem {e char : Char} (h : (e, char) ∈ shortEscapes) :
    simpleEscape? e = some char := by
  have hall : ∀ entry ∈ shortEscapes, simpleEscape? entry.1 = some entry.2 := by decide
  exact hall _ h

/-- A letter that is written in hexadecimal is read. -/
theorem unicodeEscape_of_unicode {l : Letter} {letters digits text rest : List Letter}
    (hdigits : WritesHex l.code digits)
    (hlone : Half.isFirst l.code → ∀ next ∈ letters.head?, Half.isSecond next.code →
      text.head? = some next)
    (h : Spells letters text)
    (hc : c.letters = .char 'u' :: (digits ++ (text ++ .char '"' :: rest))) :
    unicodeEscape c = .ok (l, 5) := by
  have hhex := hexEscape_of_writesHex hdigits hc (append_quote_ne_nil text rest)
  have hnext := Cursor.letters_advance_digits hdigits hc
  rw [← Letter.ofCode_code l]
  refine unicodeEscape_single hhex fun hfirst ls hls => ?_
  -- If another escape follows a first half, it is not that of a second half.
  rcases hexEscape_of_spells h hnext hls with ⟨m, hm, hsecond⟩
  rw [Cursor.advance_advance] at hm
  refine ⟨m, hm, ?_⟩
  cases hm : Half.isSecond m with
  | false => rfl
  | true =>
      rcases hsecond hm with ⟨next, hmem, rfl, hescaped⟩
      exact absurd (hlone hfirst next hmem hm) hescaped

/-- A character that is written as two halves is read. -/
theorem unicodeEscape_of_pair {char : Char} {first second rest : List Letter}
    (hchar : 0x10000 ≤ char.toNat)
    (hfirst : WritesHex (0xD800 + (char.toNat - 0x10000) / 0x400) first)
    (hsecond : WritesHex (0xDC00 + (char.toNat - 0x10000) % 0x400) second) (hrest : rest ≠ [])
    (hc : c.letters =
      .char 'u' :: (first ++ .char '\\' :: .char 'u' :: (second ++ rest))) :
    unicodeEscape c = .ok (.char char, 11) ∧ (c.advance 11).letters = rest := by
  have hhalf := Cursor.letters_advance_digits hfirst hc
  have hc' : (c.advance 6).letters = .char 'u' :: (second ++ rest) := by
    rw [← Cursor.advance_advance c 5 1, Cursor.advance, hhalf]
    rfl
  have hhex := hexEscape_of_writesHex hfirst hc (List.cons_ne_nil _ _)
  have hhex' := hexEscape_of_writesHex hsecond hc' hrest
  have hbounds := Text.Decoder.toNat_bounds char
  constructor
  · rw [← join_halves hchar]
    refine unicodeEscape_pair hhex ?_ hhalf hhex' ?_
    · rw [Half.isFirst, Bool.and_eq_true, decide_eq_true_eq, decide_eq_true_eq]
      omega
    · rw [Half.isSecond, Bool.and_eq_true, decide_eq_true_eq, decide_eq_true_eq]
      omega
  · have hnext := Cursor.letters_advance_digits hsecond hc'
    rwa [Cursor.advance_advance] at hnext

/-- Something is read, and then a list of more. -/
theorem read_cons {α : Type} {r more : Except ReadError (List α × Cursor)} {a : α} {as : List α}
    {rest : List Letter} (hr : r = more.map (Prod.map (a :: ·) id))
    (hmore : ∃ after, more = .ok (as, after) ∧ after.letters = rest) :
    ∃ after, r = .ok (a :: as, after) ∧ after.letters = rest := by
  rcases hmore with ⟨after, rfl, hrest⟩
  exact ⟨after, hr, hrest⟩

/-- What is no control character by its code point is none for the reader. -/
theorem isControl_eq_false {l : Letter} (h : 0x20 ≤ l.code) : l.isOf isControl = false := by
  cases l with
  | char char =>
      rw [Letter.isOf, isControl, decide_eq_false_iff_not]
      exact Nat.not_lt.mpr h
  | half half => rfl

/-- The rest of a string is read as it was written, up to the closing quote. By induction on what
    was written, of which each step takes a step of the reader. -/
theorem stringRest_of_spells {letters text rest : List Letter} (opened : Nat)
    (h : Spells letters text) (hfuel : text.length < fuel)
    (hc : c.letters = text ++ .char '"' :: rest) :
    ∃ after, stringRest opened fuel c = .ok (letters, after) ∧ after.letters = rest := by
  induction h generalizing fuel c with
  | nil =>
      cases fuel with
      | zero => cases hfuel
      | succ fuel =>
          refine ⟨_, stringRest_end hc, ?_⟩
          rw [Cursor.advance, hc]
          rfl
  | @plain l letters text hcontrol hquote hbackslash h ih =>
      cases fuel with
      | zero => cases hfuel
      | succ fuel =>
          have hnext : (c.advance 1).letters = text ++ .char '"' :: rest := by
            rw [Cursor.advance, hc]
            rfl
          exact read_cons (stringRest_plain hc (isControl_eq_false hcontrol) hquote hbackslash)
            (ih (Nat.lt_of_succ_lt_succ hfuel) hnext)
  | @short e char letters text hescape h ih =>
      cases fuel with
      | zero => cases hfuel
      | succ fuel =>
          have hnext : (c.advance 2).letters = text ++ .char '"' :: rest := by
            rw [Cursor.advance, hc]
            rfl
          have hlength : text.length < fuel := by
            simp only [List.length_cons] at hfuel
            omega
          exact read_cons (stringRest_short hc (simpleEscape?_of_mem hescape)) (ih hlength hnext)
  | @unicode l letters digits text hdigits hlone h ih =>
      cases fuel with
      | zero => cases hfuel
      | succ fuel =>
          have hcursor : (c.advance 1).letters =
              .char 'u' :: (digits ++ (text ++ .char '"' :: rest)) := by
            rw [Cursor.advance, hc]
            simp only [List.cons_append, List.append_assoc, List.drop_one, List.tail_cons]
          have hnext := Cursor.letters_advance_digits hdigits hcursor
          rw [Cursor.advance_advance] at hnext
          have hlength : text.length < fuel := by
            simp only [List.length_cons, List.length_append] at hfuel
            omega
          have hescape := unicodeEscape_of_unicode hdigits hlone h hcursor
          exact read_cons (stringRest_unicode hc hescape) (ih hlength hnext)
  | @pair char letters first second text hchar hfirst hsecond h ih =>
      cases fuel with
      | zero => cases hfuel
      | succ fuel =>
          have hcursor : (c.advance 1).letters = .char 'u' ::
              (first ++ .char '\\' :: .char 'u' :: (second ++ (text ++ .char '"' :: rest))) := by
            rw [Cursor.advance, hc]
            simp only [List.cons_append, List.append_assoc, List.drop_one, List.tail_cons]
          have hlength : text.length < fuel := by
            simp only [List.length_cons, List.length_append] at hfuel
            omega
          rcases unicodeEscape_of_pair hchar hfirst hsecond (append_quote_ne_nil text rest)
            hcursor with ⟨hescape, hnext⟩
          rw [Cursor.advance_advance] at hnext
          exact read_cons (stringRest_unicode hc hescape) (ih hlength hnext)

/-- A string is read as it was written. -/
theorem value_of_spells {x : LooseText} {text rest : List Letter} (depth : Nat)
    (h : Spells x.letters text) (hc : c.letters = inQuotes text ++ rest) :
    ∃ after, value (fuel + 1) depth c = .ok (.str x, after) ∧ after.letters = rest := by
  have hletters : c.letters = .char '"' :: (text ++ .char '"' :: rest) := by
    rw [hc]
    simp only [inQuotes, List.cons_append, List.append_assoc, List.nil_append]
  have hnext : (c.advance 1).letters = text ++ .char '"' :: rest := by
    rw [Cursor.advance, hletters]
    rfl
  have hfuel : text.length < c.letters.length + 1 := by
    simp only [hletters, List.length_cons, List.length_append]
    omega
  rcases stringRest_of_spells c.offset h hfuel hnext with ⟨after, hafter, hrest⟩
  refine ⟨after, ?_, hrest⟩
  rw [value_succ, if_pos (Cursor.at_of_letters hletters), string, hafter]
  rfl

theorem isSpace_of_spacing {before : List Letter} (h : Spacing before) :
    ∀ l ∈ before, l.isOf isSpace = true := by
  have hall : ∀ l ∈ ([.char ' ', .char '\t', .char '\n', .char '\r'] : List Letter),
      l.isOf isSpace = true := by
    decide
  exact fun l hl => hall l (h hl)

theorem Cursor.letters_skipSpace_append {before : List Letter} (hbefore : Spacing before)
    (hc : c.letters = before ++ ls) :
    c.skipSpace.letters = ls.dropWhile (Letter.isOf isSpace) := by
  rw [letters_skipSpace, hc, List.dropWhile_append_of_pos (isSpace_of_spacing hbefore)]

/-- White space is passed over up to the next token. -/
theorem Cursor.letters_skipSpace_of_spacing {before : List Letter} (hbefore : Spacing before)
    {char : Char} (hchar : isSpace char = false) (hc : c.letters = before ++ .char char :: ls) :
    c.skipSpace.letters = .char char :: ls := by
  rw [letters_skipSpace_append hbefore hc,
    List.dropWhile_cons_of_neg (by rw [Letter.isOf, hchar]; exact Bool.false_ne_true)]

/-- The first string of a text is read, with the white space before it. -/
theorem value_skipSpace_of_spells {x : LooseText} {before text rest : List Letter}
    (fuel depth : Nat) (hbefore : Spacing before) (h : Spells x.letters text)
    (hc : c.letters = before ++ inQuotes text ++ rest) :
    ∃ after, value (fuel + 1) depth c.skipSpace = .ok (.str x, after) ∧ after.letters = rest := by
  rw [List.append_assoc] at hc
  exact value_of_spells depth h (Cursor.letters_skipSpace_of_spacing hbefore (by decide) hc)

/-- Items are read as they were written, with the white space around them. By induction on the
    items, of which each takes a step of the reader. -/
theorem items_of_spells {xs : List LooseText} {text rest : List Letter} (depth : Nat)
    (h : SpellsItems xs text) (hfuel : xs.length < fuel)
    (hc : c.letters = text ++ .char ']' :: rest) :
    ∃ after, items fuel depth c.skipSpace = .ok (xs.map .str, after) ∧ after.letters = rest := by
  induction h generalizing fuel c with
  | @last x before text after hbefore htext hafter =>
      rcases Nat.exists_eq_add_of_le' (show 2 ≤ fuel from hfuel) with ⟨fuel, rfl⟩
      rw [List.append_assoc] at hc
      rcases value_skipSpace_of_spells fuel depth hbefore htext hc with
        ⟨behind, hvalue, hbehind⟩
      have hend := Cursor.letters_skipSpace_of_spacing hafter (by decide) hbehind
      refine ⟨behind.skipSpace.advance 1, ?_, ?_⟩
      · rw [items_succ, hvalue, Except.bind, sequel, if_pos (Cursor.at_of_letters hend)]
        rfl
      · rw [Cursor.advance, hend]
        rfl
  | @more x xs before text after others hbefore htext hafter h ih =>
      have htwo : 2 ≤ fuel := by
        rw [List.length_cons] at hfuel
        omega
      rcases Nat.exists_eq_add_of_le' htwo with ⟨fuel, rfl⟩
      rw [List.append_assoc, List.append_assoc] at hc
      rcases value_skipSpace_of_spells fuel depth hbefore htext hc with
        ⟨behind, hvalue, hbehind⟩
      rw [List.cons_append] at hbehind
      have hcomma := Cursor.letters_skipSpace_of_spacing hafter (by decide) hbehind
      have hnext : (behind.skipSpace.advance 1).letters =
          others ++ .char ']' :: rest := by
        rw [Cursor.advance, hcomma]
        rfl
      refine read_cons ?_ (ih (Nat.lt_of_succ_lt_succ hfuel) hnext)
      rw [items_succ, hvalue, Except.bind, sequel,
        if_neg (Cursor.not_at_of_letters hcomma (by decide)),
        if_pos (Cursor.at_of_letters hcomma)]

/-- An array is read as it was written, from its opening bracket on. -/
theorem value_of_spellsBody {xs : List LooseText} {body rest : List Letter} (depth : Nat)
    (h : SpellsBody xs body) (hfuel : body.length < fuel)
    (hc : c.letters = .char '[' :: (body ++ .char ']' :: rest)) :
    ∃ after, value (fuel + 1) (depth + 1) c = .ok (.arr (xs.map .str), after) ∧
      after.letters = rest := by
  have hnext : (c.advance 1).letters = body ++ .char ']' :: rest := by
    rw [Cursor.advance, hc]
    rfl
  rw [value_succ, if_neg (Cursor.not_at_of_letters hc (by decide)),
    if_pos (Cursor.at_of_letters hc), enclosed]
  cases h with
  | none hbetween =>
      have hend := Cursor.letters_skipSpace_of_spacing hbetween (by decide) hnext
      refine ⟨(c.advance 1).skipSpace.advance 1, ?_, ?_⟩
      · rw [if_pos (Cursor.at_of_letters hend)]
        rfl
      · rw [Cursor.advance, hend]
        rfl
  | some hitems =>
      rcases hitems.exists_quote with ⟨before, tail, hbefore, rfl⟩
      rcases items_of_spells depth hitems (Nat.lt_trans hitems.length_lt hfuel) hnext with
        ⟨after, hafter, hrest⟩
      rw [List.append_assoc] at hnext
      have hquote := Cursor.letters_skipSpace_of_spacing hbefore (by decide) hnext
      refine ⟨after, ?_, hrest⟩
      rw [if_neg (Cursor.not_at_of_letters hquote (by decide)), hafter]
      rfl

end Reader

/-- The reader finds the strings of an array that was written, whatever its text is. -/
theorem read_of_spellsArray {xs : List LooseText} {t : LooseText} (h : SpellsArray xs t) :
    read t = .ok (.arr (xs.map .str)) := by
  rcases h with ⟨before, body, after, hbefore, hbody, hafter, ht⟩
  have hmark : t.letters.head? ≠ some mark := by
    have hspace : mark ∉ ([.char ' ', .char '\t', .char '\n', .char '\r'] : List Letter) := by
      decide
    rw [ht]
    cases before with
    | nil =>
        rw [List.nil_append, List.head?_cons]
        decide
    | cons l ls =>
        rintro ⟨⟩
        exact hspace (hbefore List.mem_cons_self)
  have hfuel : body.length < 2 * t.letters.length + 1 := by
    simp only [ht, List.length_append, List.length_cons]
    omega
  have hstart := Reader.Cursor.letters_skipSpace_of_spacing (c := ⟨_, 0⟩) hbefore (by decide) ht
  -- One level of nesting is there.
  rcases (⟨_, rfl⟩ : ∃ depth, maxDepth = depth + 1) with ⟨depth, hdepth⟩
  rcases Reader.value_of_spellsBody depth hbody hfuel hstart with ⟨behind, hvalue, hbehind⟩
  have hend : behind.skipSpace.letters = [] :=
    Reader.Cursor.letters_skipSpace_append hafter (hbehind.trans (List.append_nil _).symm)
  rw [read, if_neg hmark, readUnmarked, hdepth]
  simp only [bind, Except.bind, hvalue, hend]
  rfl

end Json

end RecordGateway
