import RecordGateway.Proofs.Json.Reader

/-!
# The Depth of the Reader

The reader gives up on containers that are nested too deeply, whatever else stands in the text.
That is all that the bound on its depth does: as long as the reader does not give up, it reads what
it would read to any greater depth. Strings, words and numbers hold no containers, so it never gives
up on one of them.

## Main definitions

* `Reader.NotTooDeep`: the reader does not give up.
* `Reader.Steady`: a greater depth changes nothing unless the reader gives up.
* `Json.NestsWithin`: a text is read to a depth as it is read to any greater one.
* `Json.unclosed`: objects that are opened one in another.

## Theorems

* `Reader.steady_value`: reading is steady.
* `Json.nestsWithin_of_notTooDeep`: the bound does not show unless the reader gives up.
* `Json.read_unclosed`: the reader gives up on too many objects one in another.
-/

namespace RecordGateway

namespace Json

namespace Reader

/-- Reading does not stop at a container that is nested too deeply. -/
def NotTooDeep {α : Type} (r : Except ReadError α) : Prop :=
  ∀ e, r = .error e → ∀ kind, e.expectation ≠ .lessNesting kind

/-- What is read was not given up on. -/
theorem notTooDeep_ok {α : Type} (a : α) : NotTooDeep (.ok a) := by
  intro e h
  cases h

/-- An error that asks for something else than less nesting is no giving up. -/
theorem notTooDeep_error {α : Type} {e : ReadError}
    (h : ∀ kind, e.expectation ≠ .lessNesting kind) :
    NotTooDeep (.error e : Except ReadError α) := by
  rintro e ⟨⟩
  exact h

/-- Of two steps the first alone can give up if the second never does. -/
theorem notTooDeep_bind_iff {α β : Type} {r : Except ReadError α} {next : α → Except ReadError β}
    (hnext : ∀ a, NotTooDeep (next a)) : NotTooDeep (r.bind next) ↔ NotTooDeep r := by
  cases r with
  | error e => exact ⟨fun h => notTooDeep_error (h e rfl), fun h => notTooDeep_error (h e rfl)⟩
  | ok a => exact iff_of_true (hnext a) (notTooDeep_ok a)

/-- Steps none of which gives up, one after another. -/
theorem NotTooDeep.bind {α β : Type} {r : Except ReadError α} {next : α → Except ReadError β}
    (h : NotTooDeep r) (hnext : ∀ a, NotTooDeep (next a)) : NotTooDeep (r.bind next) :=
  (notTooDeep_bind_iff hnext).mpr h

/-- Four digits hold no container. -/
theorem notTooDeep_hexEscape (c : Cursor) : NotTooDeep (hexEscape c) := by
  unfold hexEscape
  split
  · exact notTooDeep_error fun _ => Expectation.noConfusion
  · split
    · exact notTooDeep_ok _
    · exact notTooDeep_error fun _ => Expectation.noConfusion

/-- Nor does an escape, or a pair of them. -/
theorem notTooDeep_unicodeEscape (c : Cursor) : NotTooDeep (unicodeEscape c) := by
  unfold unicodeEscape
  refine (notTooDeep_hexEscape c).bind fun n => ?_
  split
  · split
    · refine (notTooDeep_hexEscape _).bind fun m => ?_
      split <;> exact notTooDeep_ok _
    · exact notTooDeep_ok _
  · exact notTooDeep_ok _

/-- Nor does the rest of a string. By induction on the fuel, with one case for each kind of letter.
    -/
theorem notTooDeep_stringRest (opened fuel : Nat) (c : Cursor) :
    NotTooDeep (stringRest opened fuel c) := by
  induction fuel generalizing c with
  | zero => exact notTooDeep_error fun _ => Expectation.noConfusion
  | succ fuel ih =>
      unfold stringRest
      split
      · exact notTooDeep_error fun _ => Expectation.noConfusion
      · exact notTooDeep_ok _
      · exact notTooDeep_error fun _ => Expectation.noConfusion
      · exact (notTooDeep_unicodeEscape _).bind fun p => (ih _).bind fun q => notTooDeep_ok _
      · split
        · exact notTooDeep_error fun _ => Expectation.noConfusion
        · exact (ih _).bind fun q => notTooDeep_ok _
      · split
        · exact notTooDeep_error fun _ => Expectation.noConfusion
        · exact (ih _).bind fun q => notTooDeep_ok _

/-- Nor does a string. -/
theorem notTooDeep_string (c : Cursor) : NotTooDeep (string c) :=
  (notTooDeep_stringRest _ _ _).bind fun _ => notTooDeep_ok _

/-- Nor does a word or a number, also where it cannot be read. -/
theorem notTooDeep_scalar (c : Cursor) : NotTooDeep (scalar c) := by
  unfold scalar
  split
  · exact notTooDeep_ok _
  · -- A number is read, is not there, or has too many digits.
    rcases number_cases c with ⟨v, k, -, -, hnumber⟩ | hnone | ⟨digits, hlong⟩
    · rw [hnumber]
      exact notTooDeep_ok _
    · rw [hnone]
      exact notTooDeep_error fun _ => Expectation.noConfusion
    · rw [hlong]
      exact notTooDeep_error fun _ => Expectation.noConfusion

/-- A part that is read to a depth without giving up is read alike to any greater depth. -/
def Steady {α : Type} (depth : Nat) (read : Nat → Except ReadError α) : Prop :=
  NotTooDeep (read depth) → ∀ more, read (depth + more) = read depth

section Steady

variable {α β : Type} {depth : Nat}

/-- What does not look at the depth is steady. -/
theorem Steady.const (r : Except ReadError α) : Steady depth fun _ => r :=
  fun _ _ => rfl

/-- Steps that are steady, one after another. -/
theorem Steady.bind {read : Nat → Except ReadError α} {next : Nat → α → Except ReadError β}
    (h : Steady depth read) (hnext : ∀ a, Steady depth fun n => next n a) :
    Steady depth fun n => (read n).bind (next n) := by
  intro hdeep more
  cases hread : read depth with
  -- The first step fails, and not for the nesting, so it fails alike with more depth.
  | error e =>
      simp only [hread, Except.bind] at hdeep
      have hmore := h (by rw [hread]; exact notTooDeep_error (hdeep e rfl)) more
      simp only [hmore, hread, Except.bind]
  -- The first step reads the same with more depth, so the second one starts alike.
  | ok a =>
      simp only [hread, Except.bind] at hdeep
      have hmore := h (by rw [hread]; exact notTooDeep_ok a) more
      simp only [hmore, hread, Except.bind]
      exact hnext a hdeep more

/-- What is made of what was read is of no account. -/
theorem Steady.map {read : Nat → Except ReadError α} (h : Steady depth read) (f : α → β) :
    Steady depth fun n => (read n).map f := by
  have hbind : ∀ r : Except ReadError α, r.map f = r.bind fun a => .ok (f a) := by
    intro r
    cases r <;> rfl
  simp only [hbind]
  exact h.bind fun a => .const _

/-- After a part comes the end, or a comma and more parts, and only these can be deep. -/
theorem steady_sequel {closing : Char} {part : α}
    {more : Nat → Cursor → Except ReadError (List α × Cursor)} (c : Cursor)
    (hmore : ∀ c, Steady depth fun n => more n c) :
    Steady depth fun n => sequel closing part (more n) c := by
  unfold sequel
  by_cases hend : c.skipSpace.At closing
  · simp only [if_pos hend]
    exact .const _
  · simp only [if_neg hend]
    by_cases hcomma : c.skipSpace.At ','
    · simp only [if_pos hcomma]
      exact (hmore _).map _
    · simp only [if_neg hcomma]
      exact .const _

/-- A container takes one of the depth for its parts. -/
theorem steady_enclosed {kind : Container} {closing : Char}
    {parts : Nat → Cursor → Except ReadError (List α × Cursor)} {make : List α → Json} (c : Cursor)
    (hparts : ∀ depth c, Steady depth fun n => parts n c) :
    Steady depth fun n => enclosed kind closing parts make n c := by
  cases depth with
  | zero =>
      -- Here the reader gives up.
      intro hdeep
      exact absurd rfl (hdeep _ rfl kind)
  -- One is left over for the container at either depth, and its parts are read to one less.
  | succ depth =>
      intro hdeep more
      rw [Nat.succ_add_eq_add_succ, Nat.add_succ]
      simp only [enclosed] at hdeep ⊢
      by_cases hend : (c.advance 1).skipSpace.At closing
      · simp only [if_pos hend]
      · simp only [if_neg hend] at hdeep ⊢
        exact (hparts depth _).map _ hdeep more

end Steady

/-- Reading is steady. By induction on the fuel, with all parts of the reader at once. -/
theorem steady_value (fuel : Nat) :
    (∀ depth c, Steady depth fun n => value fuel n c) ∧
    (∀ depth c, Steady depth fun n => items fuel n c) ∧
    ∀ depth c, Steady depth fun n => members fuel n c := by
  induction fuel with
  | zero => exact ⟨fun _ _ => .const _, fun _ _ => .const _, fun _ _ => .const _⟩
  | succ fuel ih =>
      rcases ih with ⟨hvalue, hitems, hmembers⟩
      -- A value may be a container; items and members go on with a value first, which is the same
      -- for any greater depth, and then with more of their kind.
      refine ⟨fun depth c => ?_, fun depth c => ?_, fun depth c => ?_⟩
      · simp only [value_succ]
        by_cases hquote : c.At '"'
        · simp only [if_pos hquote]
          exact .const _
        · simp only [if_neg hquote]
          by_cases hbracket : c.At '['
          · simp only [if_pos hbracket]
            exact steady_enclosed c hitems
          · simp only [if_neg hbracket]
            by_cases hbrace : c.At '\x7b'
            · simp only [if_pos hbrace]
              exact steady_enclosed c hmembers
            · simp only [if_neg hbrace]
              exact .const _
      · simp only [items_succ]
        exact (hvalue depth c).bind fun p => steady_sequel p.2 (hitems depth)
      · simp only [members_succ]
        by_cases hquote : c.At '"'
        · simp only [if_pos hquote]
          refine (Steady.const _).bind fun p => ?_
          by_cases hcolon : p.2.skipSpace.At ':'
          · simp only [if_pos hcolon]
            exact (hvalue depth _).bind fun q => steady_sequel q.2 (hmembers depth)
          · simp only [if_neg hcolon]
            exact .const _
        · simp only [if_neg hquote]
          exact .const _

/-- Read the value that a text begins with, to a depth at most. -/
def first (depth : Nat) (t : LooseText) : Except ReadError (Json × Cursor) :=
  value (2 * t.letters.length + 2) depth (Cursor.mk t.letters 0).skipSpace

end Reader

/-- A text is read to a depth as it is read to any greater depth: the bound on the depth does not
    show. -/
def NestsWithin (depth : Nat) (t : LooseText) : Prop :=
  ∀ more, Reader.first (depth + more) t = Reader.first depth t

/-- The bound on the depth does not show unless the reader gives up. -/
theorem nestsWithin_of_notTooDeep {depth : Nat} {t : LooseText}
    (h : Reader.NotTooDeep (Reader.first depth t)) : NestsWithin depth t :=
  (Reader.steady_value _).1 depth _ h

/-- The reader gives up on a text if it gives up on the value that the text begins with. -/
theorem notTooDeep_read_iff (t : LooseText) :
    Reader.NotTooDeep (read t) ↔ Reader.NotTooDeep (Reader.first maxDepth t) := by
  rw [read]
  split
  · next hmark =>
    -- Neither stops at a container, since the mark is no container.
    rcases List.head?_eq_some_iff.mp hmark with ⟨rest, hrest⟩
    have hstart : (Reader.Cursor.mk t.letters 0).skipSpace.letters = mark :: rest := by
      rw [Reader.Cursor.letters_skipSpace, hrest]
      rfl
    refine iff_of_true (Reader.notTooDeep_error fun _ => Expectation.noConfusion) ?_
    rw [Reader.first, Reader.value_succ,
      if_neg (Reader.Cursor.not_at_of_letters hstart (by decide)),
      if_neg (Reader.Cursor.not_at_of_letters hstart (by decide)),
      if_neg (Reader.Cursor.not_at_of_letters hstart (by decide))]
    exact Reader.notTooDeep_scalar _
  · refine Reader.notTooDeep_bind_iff fun p => ?_
    simp only []
    split
    · exact Reader.notTooDeep_ok _
    · exact Reader.notTooDeep_error fun _ => Expectation.noConfusion

/-- Objects that are opened one in another, each as the value of a member of the one before, and
    never closed. -/
def unclosed (n : Nat) : LooseText :=
  ⟨(List.replicate n [.char '\x7b', .char '"', .char '"', .char ':']).flatten⟩

namespace Reader

/-- The first object is opened, with a name that is empty, and then the others are. -/
theorem letters_unclosed_succ (n : Nat) :
    (unclosed (n + 1)).letters =
      .char '\x7b' :: .char '"' :: .char '"' :: .char ':' :: (unclosed n).letters := by
  simp only [unclosed, List.replicate_succ, List.flatten_cons, List.cons_append, List.nil_append]

/-- There is no space before an object that is opened. -/
theorem letters_skipSpace_unclosed {c : Cursor} {n : Nat} (hc : c.letters = (unclosed n).letters) :
    c.skipSpace.letters = (unclosed n).letters := by
  rw [Cursor.letters_skipSpace, hc]
  cases n with
  | zero => rfl
  | succ n =>
      rw [letters_unclosed_succ]
      rfl

/-- The reader gives up on more objects than it reads one in another. By induction on the depth,
    of which each object takes one. -/
theorem value_unclosed {n depth fuel : Nat} {c : Cursor} (hn : depth < n) (hfuel : 2 * depth < fuel)
    (hc : c.letters = (unclosed n).letters) :
    ∃ position, value fuel depth c = .error ⟨.lessNesting .object, position⟩ := by
  induction depth generalizing n fuel c with
  -- No depth is left, so the brace itself is where the reader gives up.
  | zero =>
      rcases Nat.exists_eq_succ_of_ne_zero (Nat.ne_zero_of_lt hn) with ⟨n, rfl⟩
      rcases Nat.exists_eq_succ_of_ne_zero (Nat.ne_zero_of_lt hfuel) with ⟨fuel, rfl⟩
      rw [letters_unclosed_succ] at hc
      refine ⟨c.offset, ?_⟩
      rw [value_succ, if_neg (Cursor.not_at_of_letters hc (by decide)),
        if_neg (Cursor.not_at_of_letters hc (by decide)), if_pos (Cursor.at_of_letters hc)]
      rfl
  | succ depth ih =>
      rcases Nat.exists_eq_succ_of_ne_zero (Nat.ne_zero_of_lt hn) with ⟨n, rfl⟩
      rcases Nat.exists_eq_add_of_le' (show 2 ≤ fuel by omega) with ⟨fuel, rfl⟩
      rw [letters_unclosed_succ] at hc
      -- Inside of the brace a name, a colon and the next object follow.
      have hinner : (c.advance 1).skipSpace.letters = .char '"' :: .char '"' :: .char ':' ::
          (unclosed n).letters := by
        rw [Cursor.letters_skipSpace, Cursor.advance, hc]
        rfl
      have hname : ((c.advance 1).skipSpace.advance 1).letters =
          .char '"' :: .char ':' :: (unclosed n).letters := by
        rw [Cursor.advance, hinner]
        rfl
      generalize hkey : ((c.advance 1).skipSpace.advance 1).advance 1 = key
      have hcolon : key.skipSpace.letters = .char ':' :: (unclosed n).letters := by
        rw [Cursor.letters_skipSpace, ← hkey, Cursor.advance, hname]
        rfl
      have hobject : (key.skipSpace.advance 1).letters = (unclosed n).letters := by
        rw [Cursor.advance, hcolon]
        rfl
      have hstring : string (c.advance 1).skipSpace = .ok (⟨[]⟩, key) := by
        rw [string, stringRest_end hname, hkey]
        rfl
      have hfuel : 2 * depth < fuel := by omega
      rcases ih (Nat.lt_of_succ_lt_succ hn) hfuel (letters_skipSpace_unclosed hobject) with
        ⟨position, hposition⟩
      refine ⟨position, ?_⟩
      -- The brace, the name and the colon are read, and the error of the next object is that of
      -- the whole.
      rw [value_succ, if_neg (Cursor.not_at_of_letters hc (by decide)),
        if_neg (Cursor.not_at_of_letters hc (by decide)), if_pos (Cursor.at_of_letters hc),
        enclosed, if_neg (Cursor.not_at_of_letters hinner (by decide)), members_succ,
        if_pos (Cursor.at_of_letters hinner), hstring, Except.bind,
        if_pos (Cursor.at_of_letters hcolon), hposition]
      rfl

end Reader

/-- So a text of more objects than that is not read. -/
theorem read_unclosed {n : Nat} (hn : maxDepth < n) :
    ∃ position, read (unclosed n) = .error ⟨.lessNesting .object, position⟩ := by
  -- There is fuel enough, as each object has four letters.
  have hlength : n ≤ (unclosed n).letters.length := by
    simp only [unclosed, List.length_flatten, List.map_replicate, List.sum_replicate_nat,
      List.length_cons, List.length_nil]
    omega
  have hmark : (unclosed n).letters.head? ≠ some mark := by
    rcases Nat.exists_eq_succ_of_ne_zero (Nat.ne_zero_of_lt hn) with ⟨m, rfl⟩
    rw [Reader.letters_unclosed_succ, List.head?_cons]
    decide
  have hstart : (Reader.Cursor.mk (unclosed n).letters 0).skipSpace.letters =
      (unclosed n).letters := Reader.letters_skipSpace_unclosed rfl
  have hfuel : 2 * maxDepth < 2 * (unclosed n).letters.length + 2 := by omega
  rcases Reader.value_unclosed hn hfuel hstart with ⟨position, hposition⟩
  refine ⟨position, ?_⟩
  rw [read, if_neg hmark, readUnmarked, hposition]
  rfl

end Json

end RecordGateway
