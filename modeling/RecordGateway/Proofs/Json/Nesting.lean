import RecordGateway.Proofs.Json.Depth

/-!
# Nesting

How deeply a text nests can be seen without reading it. Brackets and braces are counted from left to
right, up and down, and those in strings are passed over. A text that is no JSON has a count too.

As far as the reader comes, it has opened as many containers as there are by this count. So it does
not give up on a text that nests to its depth at most.

## Main definitions

* `Json.nesting`: the most containers that are open at once.
* `Reader.Within`: a part is read, and what is left nests to a bound at most.

## Theorems

* `Reader.within_value`: every part of the reader stays within the bound.
* `Json.nestsWithin_of_nesting`: a text that nests to a depth at most.
* `Json.nestsWithin_iff`: the bound does not show exactly if the reader does not give up.
-/

namespace RecordGateway

namespace Json

/-- Where a letter stands. -/
inductive Side where
  /-- Outside of strings. -/
  | outside
  /-- In a string. -/
  | inside
  /-- In a string, behind a backslash. -/
  | escaped

/-- Where the letter after a letter stands. -/
def Side.after : Side → Letter → Side
  | .outside, l => if l = .char '"' then .inside else .outside
  | .inside, l =>
    if l = .char '"' then .outside else if l = .char '\\' then .escaped else .inside
  | .escaped, _ => .inside

/-- How many containers are open after a letter, of `n` before it. -/
def openAfter (n : Nat) : Side → Letter → Nat
  | .outside, l =>
    if l = .char '[' ∨ l = .char '\x7b' then n + 1
    else if l = .char ']' ∨ l = .char '\x7d' then n - 1
    else n
  | .inside, _ => n
  | .escaped, _ => n

/-- The most containers that are open at once, from a place on where `n` are. -/
def deepest : Side → Nat → List Letter → Nat
  | _, n, [] => n
  | side, n, l :: ls => max n (deepest (side.after l) (openAfter n side l) ls)

/-- The most containers that are open at once in a text. -/
def nesting (t : LooseText) : Nat :=
  deepest .outside 0 t.letters

/-- The containers that are open where the count starts are open at once. -/
theorem le_deepest (side : Side) (n : Nat) (ls : List Letter) : n ≤ deepest side n ls := by
  cases ls with
  | nil => exact Nat.le_refl n
  | cons l ls => exact Nat.le_max_left _ _

/-- A letter that opens and closes nothing only changes sides. -/
theorem deepest_cons {side : Side} {n : Nat} {l : Letter} (h : openAfter n side l = n)
    (ls : List Letter) : deepest side n (l :: ls) = deepest (side.after l) n ls := by
  rw [deepest, h]
  exact Nat.max_eq_right (le_deepest _ _ _)

/-- A quote opens a string. -/
theorem deepest_quote_outside (n : Nat) (ls : List Letter) :
    deepest .outside n (.char '"' :: ls) = deepest .inside n ls :=
  deepest_cons rfl ls

/-- And closes it. -/
theorem deepest_quote_inside (n : Nat) (ls : List Letter) :
    deepest .inside n (.char '"' :: ls) = deepest .outside n ls :=
  deepest_cons rfl ls

/-- A backslash in a string changes what comes next. -/
theorem deepest_backslash (n : Nat) (ls : List Letter) :
    deepest .inside n (.char '\\' :: ls) = deepest .escaped n ls :=
  deepest_cons rfl ls

/-- But only the one letter behind it. -/
theorem deepest_escaped (n : Nat) (l : Letter) (ls : List Letter) :
    deepest .escaped n (l :: ls) = deepest .inside n ls :=
  deepest_cons rfl ls

/-- Any other letter in a string is passed over. -/
theorem deepest_inside {l : Letter} (hquote : l ≠ .char '"') (hbackslash : l ≠ .char '\\') (n : Nat)
    (ls : List Letter) : deepest .inside n (l :: ls) = deepest .inside n ls := by
  rw [deepest_cons rfl, Side.after, if_neg hquote, if_neg hbackslash]

/-- The letters that mark containers and strings. -/
def marks : List Letter :=
  [.char '"', .char '[', .char ']', .char '\x7b', .char '\x7d']

/-- Outside of strings a letter that is no mark is passed over. -/
theorem deepest_notMark {l : Letter} (h : l ∉ marks) (n : Nat) (ls : List Letter) :
    deepest .outside n (l :: ls) = deepest .outside n ls := by
  simp only [marks, List.mem_cons, List.not_mem_nil, or_false, not_or] at h
  rcases h with ⟨hquote, hbracket, hclosing, hbrace, hend⟩
  have hopen : openAfter n .outside l = n := by
    rw [openAfter, if_neg (by simp only [hbracket, hbrace, or_self, not_false_eq_true]),
      if_neg (by simp only [hclosing, hend, or_self, not_false_eq_true])]
  rw [deepest_cons hopen, Side.after, if_neg hquote]

/-- Letters that mark nothing may be dropped. -/
theorem deepest_drop {ls : List Letter} {k : Nat} (h : ∀ l ∈ ls.take k, l ∉ marks) (n : Nat) :
    deepest .outside n (ls.drop k) = deepest .outside n ls := by
  induction k generalizing ls with
  | zero => rfl
  | succ k ih =>
      cases ls with
      | nil => rfl
      | cons l ls =>
          rw [List.take_succ_cons, List.forall_mem_cons] at h
          rw [List.drop_succ_cons, ih h.2, deepest_notMark h.1]

/-- So may any number of letters of a class that has no mark in it. -/
theorem deepest_drop_of_le {p : Char → Bool} (hp : ∀ l ∈ marks, l.isOf p = false)
    {ls : List Letter} {k : Nat} (hk : k ≤ (ls.takeWhile (Letter.isOf p)).length) (n : Nat) :
    deepest .outside n (ls.drop k) = deepest .outside n ls := by
  refine deepest_drop (fun l hl hmark => ?_) n
  rw [Text.take_eq_take_takeWhile hk] at hl
  have hof := List.all_eq_true.mp List.all_takeWhile l (List.mem_of_mem_take hl)
  rw [hp l hmark] at hof
  cases hof

namespace Reader

/-- White space marks nothing. -/
theorem deepest_skipSpace (c : Cursor) (n : Nat) :
    deepest .outside n c.skipSpace.letters = deepest .outside n c.letters :=
  deepest_drop_of_le (p := isSpace) (by decide) (Nat.le_refl _) n

/-- Hexadecimal digits neither end the string nor begin an escape. -/
theorem deepest_hexEscape {c : Cursor} {n : Nat} (h : hexEscape c = .ok n) (k : Nat) :
    deepest .inside k (c.letters.drop 5) = deepest .inside k (c.letters.drop 1) := by
  have hdigit : ∀ l v, hexDigit? l = some v → l ≠ .char '"' ∧ l ≠ .char '\\' := by
    intro l v hl
    constructor <;> rintro rfl <;> cases hl
  -- The escape was read, so four digits stand there.
  have hhex : hex4? (c.letters.drop 1) = some n := by
    unfold hexEscape at h
    split at h
    · cases h
    · split at h
      · next m hm =>
        cases h
        exact hm
      · cases h
  have hdrop : c.letters.drop 5 = (c.letters.drop 1).drop 4 :=
    (List.drop_drop (i := 4) (j := 1)).symm
  rw [hdrop]
  generalize c.letters.drop 1 = ls at hhex
  unfold hex4? at hhex
  split at hhex
  · next l₁ l₂ l₃ l₄ rest =>
    simp only [bind, Option.bind_eq_some_iff] at hhex
    rcases hhex with ⟨v₁, h₁, v₂, h₂, v₃, h₃, v₄, h₄, -⟩
    rw [deepest_inside (hdigit l₁ v₁ h₁).1 (hdigit l₁ v₁ h₁).2,
      deepest_inside (hdigit l₂ v₂ h₂).1 (hdigit l₂ v₂ h₂).2,
      deepest_inside (hdigit l₃ v₃ h₃).1 (hdigit l₃ v₃ h₃).2,
      deepest_inside (hdigit l₄ v₄ h₄).1 (hdigit l₄ v₄ h₄).2]
    rfl
  · cases hhex

/-- The letters of an escape with a code are passed over, and so are those of a second one that is
    half of the same pair. -/
theorem deepest_unicodeEscape {c : Cursor} {ls : List Letter} {l : Letter} {width : Nat}
    (hu : c.letters = .char 'u' :: ls) (h : unicodeEscape c = .ok (l, width)) (k : Nat) :
    deepest .inside k (c.letters.drop width) = deepest .escaped k c.letters := by
  unfold unicodeEscape at h
  cases hfirst : hexEscape c with
  | error e =>
      rw [hfirst] at h
      cases h
  | ok n =>
      -- One escape is five letters, of which the first is the one behind the backslash.
      have hsingle : deepest .inside k (c.letters.drop 5) = deepest .escaped k c.letters := by
        rw [deepest_hexEscape hfirst, hu, deepest_escaped, List.drop_one, List.tail_cons]
      rw [hfirst] at h
      simp only [bind, Except.bind] at h
      split at h
      · next rest hrest =>
        have hrest : c.letters.drop 5 = .char '\\' :: .char 'u' :: rest := hrest
        split at h
        · cases hsecond : hexEscape (c.advance 6) with
          | error e =>
              rw [hsecond] at h
              cases h
          | ok m =>
              rw [hsecond] at h
              simp only [] at h
              split at h <;> cases h
              · -- The second escape begins where the first one ends.
                have hpair := deepest_hexEscape hsecond k
                have hlast : (c.advance 6).letters.drop 5 = c.letters.drop 11 :=
                  List.drop_drop (i := 5) (j := 6)
                have hsecond : (c.advance 6).letters.drop 1 = rest := by
                  have hdrop := List.drop_drop (i := 2) (j := 5) (l := c.letters)
                  rw [hrest] at hdrop
                  have hjoin := List.drop_drop (i := 1) (j := 6) (l := c.letters)
                  exact hjoin.trans hdrop.symm
                rw [hlast, hsecond] at hpair
                rw [hpair, ← hsingle, hrest, deepest_backslash, deepest_escaped]
              · exact hsingle
        · cases h
          exact hsingle
      · cases h
        exact hsingle

/-- The rest of a string is passed over up to its closing quote. -/
theorem deepest_stringRest {opened fuel : Nat} {c after : Cursor} {letters : List Letter}
    (h : stringRest opened fuel c = .ok (letters, after)) (k : Nat) :
    deepest .outside k after.letters = deepest .inside k c.letters := by
  induction fuel generalizing c letters with
  | zero => cases h
  | succ fuel ih =>
      -- What the rest of the string leaves is what is left.
      have hrest : ∀ {width : Nat} {l : Letter},
          ((stringRest opened fuel (c.advance width)).bind fun p => .ok (l :: p.1, p.2)) =
            .ok (letters, after) →
          deepest .outside k after.letters = deepest .inside k (c.letters.drop width) := by
        intro width l h
        cases hrest : stringRest opened fuel (c.advance width) with
        | error e =>
            rw [hrest] at h
            cases h
        | ok p =>
            rw [hrest] at h
            cases h
            exact ih hrest
      -- One case for each way in which the string may go on, in the order of the reader.
      unfold stringRest at h
      split at h
      · cases h
      · next ls hls =>
        cases h
        rw [hls, deepest_quote_inside, Cursor.advance, hls]
        rfl
      · cases h
      · next ls hls =>
        cases hescape : unicodeEscape (c.advance 1) with
        | error e =>
            rw [hescape] at h
            cases h
        | ok p =>
            rw [hescape] at h
            have hletters : (c.advance 1).letters = .char 'u' :: ls := by
              rw [Cursor.advance, hls]
              rfl
            have hunicode := deepest_unicodeEscape hletters hescape k
            rw [hletters] at hunicode
            rw [hrest h, hls, deepest_backslash, List.drop_succ_cons, hunicode]
      · next l ls hu hls =>
        split at h
        · cases h
        · rw [hrest h, hls, deepest_backslash, deepest_escaped]
          rfl
      · next l ls hquote hlone hu hbackslash hls =>
        split at h
        · cases h
        · have hplain : l ≠ .char '\\' := by
            intro hl
            cases ls with
            | nil => exact hlone hl rfl
            | cons e ls => exact hbackslash e ls hl rfl
          rw [hrest h, hls, deepest_inside hquote hplain]
          rfl

/-- A string as a whole is passed over. -/
theorem deepest_string {c after : Cursor} {t : LooseText} (hquote : c.At '"')
    (h : string c = .ok (t, after)) (n : Nat) :
    deepest .outside n after.letters = deepest .outside n c.letters := by
  rcases List.head?_eq_some_iff.mp hquote with ⟨ls, hls⟩
  unfold string at h
  cases hrest : stringRest c.offset (c.letters.length + 1) (c.advance 1) with
  | error e =>
      rw [hrest] at h
      cases h
  | ok p =>
      rw [hrest] at h
      cases h
      rw [deepest_stringRest hrest, hls, deepest_quote_outside, Cursor.advance, hls]
      rfl

/-- Reading does not stop at a container that is nested too deeply, and what is left of the text,
    with `opened` containers open, nests to a bound at most. -/
structure Within {α : Type} (bound opened : Nat) (r : Except ReadError (α × Cursor)) : Prop where
  /-- The reader does not give up. -/
  notTooDeep : NotTooDeep r
  /-- What is left does not nest any deeper. -/
  rest : ∀ a after, r = .ok (a, after) → deepest .outside opened after.letters ≤ bound

namespace Within

variable {α β : Type} {bound opened : Nat}

/-- A refusal for another reason leaves nothing to nest. -/
theorem refuse {c : Cursor} {e : Expectation} (h : ∀ kind, e ≠ .lessNesting kind) :
    Within bound opened (c.refuse e : Except ReadError (α × Cursor)) where
  notTooDeep := notTooDeep_error h
  rest _ _ h := by cases h

/-- A part that was read leaves what is left. -/
theorem ok {a : α} {c : Cursor} (h : deepest .outside opened c.letters ≤ bound) :
    Within bound opened (.ok (a, c)) where
  notTooDeep := notTooDeep_ok _
  rest _ _ := by
    rintro ⟨⟩
    exact h

/-- One part after another. -/
theorem bind {between : Nat} {r : Except ReadError (α × Cursor)}
    {next : α × Cursor → Except ReadError (β × Cursor)} (h : Within bound between r)
    (hnext : ∀ p, deepest .outside between p.2.letters ≤ bound → Within bound opened (next p)) :
    Within bound opened (r.bind next) := by
  cases r with
  | error e => exact ⟨notTooDeep_error (h.notTooDeep e rfl), fun _ _ h => by cases h⟩
  | ok p => exact hnext p (h.rest p.1 p.2 rfl)

/-- What is made of the part is of no account. -/
theorem map {r : Except ReadError (α × Cursor)} (h : Within bound opened r) (f : α → β) :
    Within bound opened (r.map (Prod.map f id)) := by
  cases r with
  | error e => exact ⟨notTooDeep_error (h.notTooDeep e rfl), fun _ _ h => by cases h⟩
  | ok p => exact ok (h.rest p.1 p.2 rfl)

end Within

/-- A string stays within any bound that holds before it. -/
theorem within_string {bound opened : Nat} {c : Cursor} (hquote : c.At '"')
    (h : deepest .outside opened c.letters ≤ bound) : Within bound opened (string c) where
  notTooDeep := notTooDeep_string c
  rest t after hafter := by
    rw [deepest_string hquote hafter]
    exact h

/-- A word or a number marks nothing. -/
theorem within_scalar {bound opened : Nat} {c : Cursor}
    (h : deepest .outside opened c.letters ≤ bound) : Within bound opened (scalar c) where
  notTooDeep := notTooDeep_scalar c
  rest v after hafter := by
    -- The words hold no brackets, and no quotes either.
    have hwords : ∀ entry ∈ words, ∀ l ∈ entry.1.letters, l ∉ marks := by decide
    unfold scalar at hafter
    split at hafter
    · next word v hfind =>
      have hword := hwords _ (List.mem_of_find?_eq_some hfind)
      have hfound := List.find?_some hfind
      rw [List.prefix_iff_eq_take.mp (List.isPrefixOf_iff_prefix.mp hfound)] at hword
      cases hafter
      rw [Cursor.advance, deepest_drop hword]
      exact h
    · rcases number_cases c with ⟨v, k, hk, -, hnumber⟩ | hnone | ⟨digits, hlong⟩
      · rw [hnumber] at hafter
        cases hafter
        rw [Cursor.advance, deepest_drop_of_le (by decide) hk]
        exact h
      · rw [hnone] at hafter
        cases hafter
      · rw [hlong] at hafter
        cases hafter

/-- Past one letter and the space behind it. -/
theorem deepest_skipSpace_advance_one {c : Cursor} {l : Letter} {ls : List Letter}
    (h : c.letters = l :: ls) (n : Nat) :
    deepest .outside n (c.advance 1).skipSpace.letters = deepest .outside n ls := by
  rw [deepest_skipSpace, Cursor.advance, h]
  rfl

/-- What follows an opening bracket nests no deeper than the whole, with one more container open.
    -/
theorem deepest_opening {opening : Char} (h : opening = '[' ∨ opening = '\x7b') (n : Nat)
    (ls : List Letter) :
    deepest .outside (n + 1) ls ≤ deepest .outside n (.char opening :: ls) := by
  rcases h with rfl | rfl <;> exact Nat.le_max_right _ _

/-- And what follows a closing one no deeper than it did before, with one less. -/
theorem deepest_closing {closing : Char} (h : closing = ']' ∨ closing = '\x7d') (n : Nat)
    (ls : List Letter) :
    deepest .outside n ls ≤ deepest .outside (n + 1) (.char closing :: ls) := by
  rcases h with rfl | rfl <;> exact Nat.le_max_right _ _

/-- A closing bracket ends the part with one container less open. -/
theorem Within.closing {α : Type} {bound opened : Nat} {closing : Char}
    (hclosing : closing = ']' ∨ closing = '\x7d') {c : Cursor} (hc : c.At closing)
    (h : deepest .outside (opened + 1) c.letters ≤ bound) (a : α) :
    Within bound opened (.ok (a, c.advance 1)) := by
  rcases List.head?_eq_some_iff.mp hc with ⟨ls, hls⟩
  rw [hls] at h
  refine .ok ?_
  rw [Cursor.advance, hls]
  exact Nat.le_trans (deepest_closing hclosing opened ls) h

/-- What stands behind a part stays within the bound if more parts do. -/
theorem within_sequel {α : Type} {bound opened : Nat} {closing : Char}
    (hclosing : closing = ']' ∨ closing = '\x7d') {part : α}
    {more : Cursor → Except ReadError (List α × Cursor)} {c : Cursor}
    (h : deepest .outside (opened + 1) c.letters ≤ bound)
    (hmore : ∀ c : Cursor, deepest .outside (opened + 1) c.letters ≤ bound →
      Within bound opened (more c)) :
    Within bound opened (sequel closing part more c) := by
  rw [← deepest_skipSpace] at h
  unfold sequel
  by_cases hend : c.skipSpace.At closing
  · rw [if_pos hend]
    exact .closing hclosing hend h [part]
  · rw [if_neg hend]
    by_cases hcomma : c.skipSpace.At ','
    · -- A comma marks nothing, so more parts begin where no more containers are open.
      rw [if_pos hcomma]
      rcases List.head?_eq_some_iff.mp hcomma with ⟨ls, hls⟩
      refine Within.map (hmore _ ?_) _
      rw [hls, deepest_notMark (by decide)] at h
      rwa [deepest_skipSpace_advance_one hls]
    · rw [if_neg hcomma]
      exact .refuse fun _ => Expectation.noConfusion

/-- A container stays within the bound if its parts do, with one more container open and one less
    of the depth left. -/
theorem within_enclosed {α : Type} {bound opened depth : Nat} {kind : Container}
    {opening closing : Char} (hopening : opening = '[' ∨ opening = '\x7b')
    (hclosing : closing = ']' ∨ closing = '\x7d')
    {parts : Nat → Cursor → Except ReadError (List α × Cursor)} {make : List α → Json} {c : Cursor}
    (hc : c.At opening) (hdepth : opened + depth = bound)
    (h : deepest .outside opened c.letters ≤ bound)
    (hparts : ∀ depth (c : Cursor), opened + 1 + depth = bound →
      deepest .outside (opened + 1) c.letters ≤ bound → Within bound opened (parts depth c)) :
    Within bound opened (enclosed kind closing parts make depth c) := by
  rcases List.head?_eq_some_iff.mp hc with ⟨ls, hls⟩
  rw [hls] at h
  have hinner := Nat.le_trans (deepest_opening hopening opened ls) h
  cases depth with
  | zero =>
      -- The container that opens here would be one too many.
      have hopen := le_deepest .outside (opened + 1) ls
      omega
  | succ depth =>
      rw [← deepest_skipSpace_advance_one hls] at hinner
      rw [enclosed]
      by_cases hend : (c.advance 1).skipSpace.At closing
      · rw [if_pos hend]
        exact .closing hclosing hend hinner (make [])
      · rw [if_neg hend]
        exact (hparts depth _ (by omega) hinner).map make

/-- A part of a text is read if it nests to the depth at most that is left for it, and so does what
    is left of the text. By induction on the fuel, with all parts of the reader at once. -/
theorem within_value (bound fuel : Nat) :
    (∀ opened depth c, opened + depth = bound → deepest .outside opened c.letters ≤ bound →
      Within bound opened (value fuel depth c)) ∧
    (∀ opened depth c, opened + 1 + depth = bound →
      deepest .outside (opened + 1) c.letters ≤ bound → Within bound opened (items fuel depth c)) ∧
    ∀ opened depth c, opened + 1 + depth = bound →
      deepest .outside (opened + 1) c.letters ≤ bound →
      Within bound opened (members fuel depth c) := by
  induction fuel with
  | zero =>
      refine ⟨fun _ _ _ _ _ => ?_, fun _ _ _ _ _ => ?_, fun _ _ _ _ _ => ?_⟩
      · exact .refuse fun _ => Expectation.noConfusion
      · exact .refuse fun _ => Expectation.noConfusion
      · exact .refuse fun _ => Expectation.noConfusion
  | succ fuel ih =>
      rcases ih with ⟨hvalue, hitems, hmembers⟩
      refine ⟨fun opened depth c hdepth h => ?_, fun opened depth c hdepth h => ?_,
        fun opened depth c hdepth h => ?_⟩
      · rw [value_succ]
        by_cases hquote : c.At '"'
        · rw [if_pos hquote]
          exact (within_string hquote h).map Json.str
        · rw [if_neg hquote]
          by_cases hbracket : c.At '['
          · rw [if_pos hbracket]
            exact within_enclosed (.inl rfl) (.inl rfl) hbracket hdepth h (hitems opened)
          · rw [if_neg hbracket]
            by_cases hbrace : c.At '\x7b'
            · rw [if_pos hbrace]
              exact within_enclosed (.inr rfl) (.inr rfl) hbrace hdepth h (hmembers opened)
            · rw [if_neg hbrace]
              exact within_scalar h
      · -- The items are read with the array still open.
        rw [items_succ]
        refine (hvalue (opened + 1) depth c hdepth h).bind fun p hp => ?_
        exact within_sequel (.inl rfl) hp fun c hc => hitems opened depth c hdepth hc
      · rw [members_succ]
        by_cases hquote : c.At '"'
        · rw [if_pos hquote]
          refine (within_string hquote h).bind fun p hp => ?_
          rw [← deepest_skipSpace] at hp
          by_cases hcolon : p.2.skipSpace.At ':'
          · rw [if_pos hcolon]
            rcases List.head?_eq_some_iff.mp hcolon with ⟨ls, hls⟩
            rw [hls, deepest_notMark (by decide), ← deepest_skipSpace_advance_one hls] at hp
            refine (hvalue (opened + 1) depth _ hdepth hp).bind fun q hq => ?_
            exact within_sequel (.inr rfl) hq fun c hc => hmembers opened depth c hdepth hc
          · rw [if_neg hcolon]
            exact .refuse fun _ => Expectation.noConfusion
        · rw [if_neg hquote]
          exact .refuse fun _ => Expectation.noConfusion

/-- The reader does not give up on a text that nests to its depth at most. -/
theorem notTooDeep_first {t : LooseText} {depth : Nat} (h : nesting t ≤ depth) :
    NotTooDeep (first depth t) := by
  rw [nesting, ← deepest_skipSpace ⟨_, 0⟩] at h
  exact ((within_value depth _).1 0 depth _ (Nat.zero_add depth) h).notTooDeep

end Reader

/-- The bound does not show on a text in which no more containers than that are open at once. -/
theorem nestsWithin_of_nesting {t : LooseText} {depth : Nat} (h : nesting t ≤ depth) :
    NestsWithin depth t :=
  nestsWithin_of_notTooDeep (Reader.notTooDeep_first h)

/-- The bound on the depth does not show exactly if the reader does not give up. -/
theorem nestsWithin_iff (t : LooseText) :
    NestsWithin maxDepth t ↔ Reader.NotTooDeep (read t) := by
  rw [notTooDeep_read_iff]
  constructor
  · intro h
    -- A reader with a depth for the whole text does the same, and it has no reason to give up.
    rw [← h (nesting t)]
    exact Reader.notTooDeep_first (Nat.le_add_left _ _)
  · exact nestsWithin_of_notTooDeep

end Json

end RecordGateway
