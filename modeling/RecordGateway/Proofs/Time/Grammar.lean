import RecordGateway.Proofs.Number.Spelling
import RecordGateway.Proofs.Text.Split
import RecordGateway.Proofs.Text.Uppercase
import RecordGateway.Proofs.Time.Calendar
import RecordGateway.Proofs.Time.Places

/-!
# The Grammar of Timestamps

What is written in a timestamp, and how its parts are read.

A timestamp is described by what is written in it: a date, a separator, hours and minutes, perhaps
seconds with a fraction, and a zone. The description says how all this is written, in upper case,
and which instant it names, and it does so without the reader.

Each part is then a pair of lemmas. What a reader of the part takes is how some such part is
written, and a part is read as it was written, whatever follows. For a fraction, which may be of any
length, something has to be said of what follows: it ends where no digit comes. A zone begins with
none, so the second before it ends there. The zone is the one part with a letter in it, and its
reader takes the small letter as well.

## Main definitions

* `Fraction`, `Zone`, `Spelling`: what is written in a timestamp.
* `Spelling.Valid`: the descriptions of timestamps.
* `Spelling.text`, `Spelling.instant`: how a timestamp is written, and the instant that it names.
* `Ends`: where a number ends.

## Theorems

* `date_eq_some`, `date_text`: dates.
* `microsOf_eq`: the digits of a fraction are cut to microseconds.
* `fraction_eq_some`, `fraction_text`: fractions.
* `seconds_eq_some`, `seconds_text`: seconds with their fractions.
* `zone_eq_some`, `zone_text`: zones.
-/

namespace RecordGateway

namespace Timestamp

/-! ### What is written -/

/-- A fraction of a second. -/
inductive Fraction where
  /-- Nothing is written. -/
  | none
  /-- A comma and digits. -/
  | comma (digits : List Char)
  /-- A point and digits, and more digits after the sixth. -/
  | point (digits more : List Char)

namespace Fraction

/-- How a fraction is written. -/
def text : Fraction → List Char
  | .none => []
  | .comma digits => ',' :: digits
  | .point digits more => '.' :: (digits ++ more)

/-- The digits that count. -/
def digits : Fraction → List Char
  | .none => []
  | .comma digits => digits
  | .point digits _ => digits

/-- There are digits after a comma, all of ASCII. After a point there are one to six of ASCII, and
    only after six there may be more, which may be of any script. -/
def Valid : Fraction → Prop
  | .none => True
  | .comma digits => digits ≠ [] ∧ ∀ c ∈ digits, Text.isAsciiDigit c = true
  | .point digits more => digits ≠ [] ∧ digits.length ≤ 6 ∧
      (∀ c ∈ digits, Text.isAsciiDigit c = true) ∧
      (∀ c ∈ more, Text.isDecimalDigit c = true) ∧ (more ≠ [] → digits.length = 6)

/-- The value of a fraction in microseconds, cut. -/
def micros (f : Fraction) : Nat :=
  Nat.ofDigitChars 10 f.digits 0 * 10 ^ 6 / 10 ^ f.digits.length

end Fraction

/-- A zone. -/
inductive Zone where
  /-- A `Z`. -/
  | utc
  /-- A sign, hours and minutes, with or without a colon between the two. -/
  | shifted (sign : Char) (hours : Nat) (colon : Bool) (minutes : Nat)

namespace Zone

/-- How a zone is written. -/
def text : Zone → List Char
  | .utc => ['Z']
  | .shifted sign hours colon minutes =>
    sign :: (places 2 hours ++ ((if colon then [':'] else []) ++ places 2 minutes))

/-- The sign is a plus or one of two minus signs, and the time is one on the clock. -/
def Valid : Zone → Prop
  | .utc => True
  | .shifted sign hours _ minutes => sign ∈ Text.offsetSigns ∧ hours ≤ 23 ∧ minutes ≤ 59

/-- The minutes by which a zone is ahead of UTC. -/
def ahead : Zone → Int
  | .utc => 0
  | .shifted sign hours _ minutes =>
    if sign = '+' then (hours * 60 + minutes : Nat) else -(hours * 60 + minutes : Nat)

end Zone

/-- What is written in a timestamp. -/
structure Spelling where
  /-- The date. -/
  date : Date
  /-- What stands between the date and the time. -/
  separator : Char
  /-- The hour. -/
  hour : Nat
  /-- The minute. -/
  minute : Nat
  /-- The second and its fraction, if there are any. -/
  second : Option (Nat × Fraction)
  /-- The zone. -/
  zone : Zone

/-- How a date is written. -/
def dateText (d : Date) : List Char :=
  places 4 d.year ++ '-' :: (places 2 d.month ++ '-' :: places 2 d.day)

/-- How the second and its fraction are written. -/
def secondText : Option (Nat × Fraction) → List Char
  | none => []
  | some (second, fraction) => ':' :: (places 2 second ++ fraction.text)

/-- How a time of day is written. -/
def clockText (hour minute : Nat) (second : Option (Nat × Fraction)) : List Char :=
  places 2 hour ++ ':' :: (places 2 minute ++ secondText second)

/-- The second that is written, zero if there is none, and its microseconds. -/
def secondValue : Option (Nat × Fraction) → Nat × Nat
  | none => (0, 0)
  | some (second, fraction) => (second, fraction.micros)

namespace Spelling

/-- How a timestamp is written. -/
def text (w : Spelling) : List Char :=
  dateText w.date ++ w.separator :: (clockText w.hour w.minute w.second ++ w.zone.text)

/-- A real date, a `T` or a space, a time on the clock, and a zone. -/
structure Valid (w : Spelling) : Prop where
  date : w.date.Valid
  separator : w.separator = 'T' ∨ w.separator = ' '
  hour : w.hour ≤ 23
  minute : w.minute ≤ 59
  second : ∀ second fraction, w.second = some (second, fraction) → second ≤ 59 ∧ fraction.Valid
  zone : w.zone.Valid

/-- The instant that a timestamp names: the microseconds from 1970 to the local time, without those
    by which the zone is ahead, in milliseconds rounded toward minus infinity. -/
def instant (w : Spelling) : Instant :=
  let seconds : Int := w.date.toDayNumber * 86400 + w.hour * 3600 + w.minute * 60 +
    (secondValue w.second).1 - w.zone.ahead * 60
  (seconds * 1000000 + (secondValue w.second).2).fdiv 1000

end Spelling

/-! ### Texts without letters -/

/-- Digits are no letters, and neither are the marks between them. -/
theorem isPlain_of_mem_places {c : Char} {w n : Nat} (h : c ∈ places w n) :
    Text.isPlain c = true :=
  Text.isPlain_of_isDecimalDigit
    (Text.isDecimalDigit_of_isAsciiDigit (isAsciiDigit_of_mem_places h))

/-- A hyphen is a mark. -/
theorem isPlain_hyphen : Text.isPlain '-' = true :=
  Text.isPlain_of_mem (by decide) (by decide)

/-- A colon is a mark. -/
theorem isPlain_colon : Text.isPlain ':' = true :=
  Text.isPlain_of_mem (by decide) (by decide)

/-- A date is written without letters. -/
theorem isPlain_dateText (d : Date) : ∀ c ∈ dateText d, Text.isPlain c = true := by
  rw [dateText, List.forall_mem_append, List.forall_mem_cons, List.forall_mem_append,
    List.forall_mem_cons]
  exact ⟨fun c hc => isPlain_of_mem_places hc, isPlain_hyphen,
    fun c hc => isPlain_of_mem_places hc, isPlain_hyphen, fun c hc => isPlain_of_mem_places hc⟩

/-- So is a fraction, whatever script its last digits are of. -/
theorem Fraction.isPlain_text {f : Fraction} (hf : f.Valid) :
    ∀ c ∈ f.text, Text.isPlain c = true := by
  have hascii : ∀ c, Text.isAsciiDigit c = true → Text.isPlain c = true := fun c hc =>
    Text.isPlain_of_isDecimalDigit (Text.isDecimalDigit_of_isAsciiDigit hc)
  cases f with
  | none => exact List.forall_mem_nil _
  | comma digits =>
      rw [Fraction.text, List.forall_mem_cons]
      exact ⟨Text.isPlain_of_mem (by decide) (by decide), fun c hc => hascii c (hf.2 c hc)⟩
  | point digits more =>
      rcases hf with ⟨-, -, hdigits, hmore, -⟩
      rw [Fraction.text, List.forall_mem_cons, List.forall_mem_append]
      exact ⟨Text.isPlain_of_mem (by decide) (by decide), fun c hc => hascii c (hdigits c hc),
        fun c hc => Text.isPlain_of_isDecimalDigit (hmore c hc)⟩

/-- So is a time of day. -/
theorem isPlain_clockText {hour minute : Nat} {second : Option (Nat × Fraction)}
    (h : ∀ s f, second = some (s, f) → f.Valid) :
    ∀ c ∈ clockText hour minute second, Text.isPlain c = true := by
  have hsecond : ∀ c ∈ secondText second, Text.isPlain c = true := by
    cases second with
    | none => exact List.forall_mem_nil _
    | some value =>
        rw [secondText, List.forall_mem_cons, List.forall_mem_append]
        exact ⟨isPlain_colon, fun c hc => isPlain_of_mem_places hc,
          Fraction.isPlain_text (h value.1 value.2 rfl)⟩
  rw [clockText, List.forall_mem_append, List.forall_mem_cons, List.forall_mem_append]
  exact ⟨fun c hc => isPlain_of_mem_places hc, isPlain_colon,
    fun c hc => isPlain_of_mem_places hc, hsecond⟩

/-- A zone that is written with a sign has no letter in it. -/
theorem Zone.isPlain_text {sign : Char} {hours minutes : Nat} {colon : Bool}
    (h : sign ∈ Text.offsetSigns) :
    ∀ c ∈ (Zone.shifted sign hours colon minutes).text, Text.isPlain c = true := by
  have hsigns : ∀ c ∈ Text.offsetSigns, c ∈ Text.marks ∧ c ∉ Text.letters := by
    simp [Text.offsetSigns, Text.marks, Text.letters, Text.minus]
  have hcolon : ∀ c ∈ (if colon then [':'] else []), Text.isPlain c = true := by
    intro c hc
    cases colon with
    | true =>
        rw [List.mem_singleton.mp hc]
        exact Text.isPlain_of_mem (by decide) (by decide)
    | false => cases hc
  rw [Zone.text, List.forall_mem_cons, List.forall_mem_append, List.forall_mem_append]
  exact ⟨Text.isPlain_of_mem (hsigns sign h).1 (hsigns sign h).2,
    fun c hc => isPlain_of_mem_places hc, hcolon,
    fun c hc => isPlain_of_mem_places hc⟩

/-- A zone is written with signs of timestamps, its letter included. -/
theorem Zone.isSign_text {z : Zone} (hz : z.Valid) : ∀ c ∈ z.text, Text.isSign c = true := by
  cases z with
  | utc =>
      intro c hc
      rw [List.mem_singleton.mp hc]
      decide
  | shifted sign hours colon minutes =>
      exact fun c hc => Text.isSign_of_isPlain (Zone.isPlain_text hz.1 c hc)

/-- A zone is in upper case as it is written. -/
theorem Zone.map_raised_text {z : Zone} (hz : z.Valid) : z.text.map Text.raised = z.text := by
  cases z with
  | utc => rfl
  | shifted sign hours colon minutes =>
      exact (Text.map_raised_eq_iff (Zone.isPlain_text hz.1)).mpr rfl

/-! ### The parts that are read -/

/-- A reader of one of some letters takes such a letter. -/
theorem oneOf_eq_some {allowed cs rest : List Char} (h : oneOf allowed cs = some ((), rest)) :
    ∃ c ∈ allowed, cs = c :: rest := by
  cases cs with
  | nil => cases h
  | cons c tail =>
      rw [oneOf] at h
      split_ifs at h with hc
      cases h
      exact ⟨c, List.contains_iff_mem.mp hc, rfl⟩

/-- What a reader of a date takes is how the date is written. -/
theorem date_eq_some {cs rest : List Char} {d : Date} (h : date cs = some (d, rest)) :
    cs = dateText d ++ rest := by
  simp only [date, Option.bind_eq_bind, Option.bind_eq_some_iff, Option.pure_def,
    Option.some.injEq, Prod.exists, Prod.mk.injEq, digits_eq_some_iff] at h
  rcases h with ⟨year, cs₁, ⟨-, rfl⟩, ⟨⟩, cs₂, hhyphen, month, cs₃, ⟨-, rfl⟩, ⟨⟩, cs₄, hhyphen',
    day, cs₅, ⟨-, rfl⟩, rfl, rfl⟩
  -- The three numbers are as they are written already; what is left are the hyphens.
  rcases oneOf_eq_some hhyphen with ⟨_, hc, rfl⟩
  rcases oneOf_eq_some hhyphen' with ⟨_, hc', rfl⟩
  rw [List.mem_singleton] at hc hc'
  subst hc hc'
  simp only [dateText, List.append_assoc, List.cons_append]

/-- A date is read as it was written, whatever follows. -/
theorem date_text {d : Date} (hd : d.Valid) (rest : List Char) :
    date (dateText d ++ rest) = some (d, rest) := by
  rcases hd.bounds with ⟨hyear, hmonth, hday⟩
  have hhyphen : ∀ cs, oneOf ['-'] ('-' :: cs) = some ((), cs) := fun _ => rfl
  simp only [date, dateText, List.append_assoc, List.cons_append, digits_places hyear,
    digits_places hmonth, digits_places hday, hhyphen, Option.bind_eq_bind, Option.bind_some,
    Option.pure_def]

/-! ### The fraction -/

/-- The value of digits is less than the power of ten with as many places. By induction on the
    digits. -/
theorem ofDigitChars_lt {ds : List Char} (h : ∀ c ∈ ds, Text.isAsciiDigit c = true) :
    Nat.ofDigitChars 10 ds 0 < 10 ^ ds.length := by
  induction ds with
  | nil => exact Nat.one_pos
  | cons c rest ih =>
      rcases List.forall_mem_cons.mp h with ⟨hc, hrest⟩
      have hdigit : c.toNat - '0'.toNat ≤ 9 := by
        simp only [Text.isAsciiDigit, Bool.and_eq_true, decide_eq_true_eq] at hc
        have hzero : '0'.toNat = 48 := rfl
        omega
      have hfirst : 10 ^ rest.length * (c.toNat - '0'.toNat) ≤ 10 ^ rest.length * 9 :=
        Nat.mul_le_mul_left _ hdigit
      have hlater := ih hrest
      rw [Nat.ofDigitChars_cons, Nat.ofDigitChars_eq_ofDigitChars_zero, Nat.mul_zero,
        Nat.zero_add, List.length_cons, Nat.pow_succ]
      omega

/-- Digits of a fraction are cut to microseconds: missing places are zero, and what comes after the
    sixth does not count. -/
theorem microsOf_eq {ds : List Char} (h : ∀ c ∈ ds, Text.isAsciiDigit c = true) :
    microsOf ds = Nat.ofDigitChars 10 ds 0 * 10 ^ 6 / 10 ^ ds.length := by
  have hvalue : microsOf ds = Nat.ofDigitChars 10 ((ds ++ List.replicate 6 '0').take 6) 0 :=
    Number.natOfChars_eq_ofDigitChars _
  rw [hvalue]
  rcases Nat.le_total ds.length 6 with hshort | hlong
  · -- Up to six digits, and zeros for the places that are missing.
    rcases Nat.exists_eq_add_of_le hshort with ⟨k, hk⟩
    have htake : (ds ++ List.replicate 6 '0').take 6 = ds ++ List.replicate k '0' := by
      rw [List.take_append, List.take_of_length_le hshort, List.take_replicate]
      congr 2
      omega
    have hpow : 10 ^ 6 = 10 ^ ds.length * 10 ^ k := by rw [← Nat.pow_add, ← hk]
    rw [htake, Nat.ofDigitChars_append, Nat.ofDigitChars_replicate_zero, hpow, Nat.mul_comm,
      Nat.mul_left_comm, Nat.mul_div_cancel_left _ (Nat.pow_pos (by decide))]
  · -- Six digits and `k` more, whose value is less than one in the sixth place.
    rcases Nat.exists_eq_add_of_le hlong with ⟨k, hk⟩
    have htake : (ds ++ List.replicate 6 '0').take 6 = ds.take 6 :=
      List.take_append_of_le_length hlong
    have hrest : (ds.drop 6).length = k := by
      rw [List.length_drop, hk, Nat.add_sub_cancel_left]
    have hsmall : Nat.ofDigitChars 10 (ds.drop 6) 0 < 10 ^ (ds.drop 6).length :=
      ofDigitChars_lt fun c hc => h c (List.mem_of_mem_drop hc)
    have hsplit : Nat.ofDigitChars 10 ds 0 =
        10 ^ k * Nat.ofDigitChars 10 (ds.take 6) 0 + Nat.ofDigitChars 10 (ds.drop 6) 0 := by
      conv_lhs => rw [← List.take_append_drop 6 ds, Nat.ofDigitChars_append,
        Nat.ofDigitChars_eq_ofDigitChars_zero, hrest]
    rw [hrest] at hsmall
    rw [htake, hsplit, hk, Nat.pow_add, Nat.mul_comm (10 ^ 6),
      Nat.mul_div_mul_right _ _ (by decide), Nat.mul_add_div (Nat.pow_pos (by decide)),
      Nat.div_eq_of_lt hsmall, Nat.add_zero]

/-- Only the first six digits count. -/
theorem microsOf_take {ds : List Char} (h : 6 ≤ ds.length) :
    microsOf ds = microsOf (ds.take 6) := by
  rw [microsOf, microsOf, List.take_append_of_le_length h,
    List.take_append_of_le_length (by rw [List.length_take]; omega), List.take_take, Nat.min_self]

/-- The reader cuts the digits to the value that the fraction has. -/
theorem Fraction.micros_eq {f : Fraction} (h : f.Valid) : microsOf f.digits = f.micros := by
  refine microsOf_eq ?_
  cases f with
  | none => exact List.forall_mem_nil _
  | comma ds => exact h.2
  | point ds more => exact h.2.2.1

/-- What is taken behind a comma is all digits, as many as there are. -/
theorem fraction_comma_eq_some {tail rest : List Char} {micros : Nat}
    (h : fraction (',' :: tail) = some (micros, rest)) :
    ∃ f : Fraction, f.Valid ∧ f.micros = micros ∧ ',' :: tail = f.text ++ rest := by
  rw [fraction] at h
  split_ifs at h with hempty
  cases h
  have hvalid : (Fraction.comma (tail.takeWhile Text.isAsciiDigit)).Valid :=
    ⟨mt List.isEmpty_iff.mpr hempty, fun c hc => List.mem_takeWhile_imp hc⟩
  refine ⟨_, hvalid, (Fraction.micros_eq hvalid).symm, ?_⟩
  rw [Fraction.text, List.cons_append, List.takeWhile_append_dropWhile]

/-- What is taken behind a point is up to six digits, and any more that follow. -/
theorem fraction_point_eq_some {tail rest : List Char} {micros : Nat}
    (h : fraction ('.' :: tail) = some (micros, rest)) :
    ∃ f : Fraction, f.Valid ∧ f.micros = micros ∧ '.' :: tail = f.text ++ rest := by
  have hascii : ∀ c ∈ tail.takeWhile Text.isAsciiDigit, Text.isAsciiDigit c = true := fun c hc =>
    List.mem_takeWhile_imp hc
  rw [fraction] at h
  split_ifs at h with hempty hshort
  · -- Fewer than six digits are read, and nothing more.
    cases h
    have hvalid : (Fraction.point (tail.takeWhile Text.isAsciiDigit) []).Valid :=
      ⟨mt List.isEmpty_iff.mpr hempty, Nat.le_of_lt hshort, hascii, List.forall_mem_nil _,
        fun hne => absurd rfl hne⟩
    refine ⟨_, hvalid, (Fraction.micros_eq hvalid).symm, ?_⟩
    rw [Fraction.text, Text.drop_length_takeWhile, List.append_nil, List.cons_append,
      List.takeWhile_append_dropWhile]
  · -- The first six of the digits are the first six characters, and any digits may follow.
    cases h
    have hlong : 6 ≤ (tail.takeWhile Text.isAsciiDigit).length := Nat.not_lt.mp hshort
    have hsix := Text.take_eq_take_takeWhile hlong
    have hlength : (tail.take 6).length = 6 := by
      rw [hsix, List.length_take]
      omega
    have hdigits : ∀ c ∈ tail.take 6, Text.isAsciiDigit c = true := by
      rw [hsix]
      exact fun c hc => hascii c (List.mem_of_mem_take hc)
    have hvalid : (Fraction.point (tail.take 6)
        ((tail.drop 6).takeWhile Text.isDecimalDigit)).Valid :=
      ⟨List.ne_nil_of_length_pos (by omega), Nat.le_of_eq hlength, hdigits,
        fun c hc => List.mem_takeWhile_imp hc, fun _ => hlength⟩
    refine ⟨_, hvalid, ?_, ?_⟩
    · rw [microsOf_take hlong, ← hsix]
      exact (Fraction.micros_eq hvalid).symm
    · rw [Fraction.text, List.cons_append, List.append_assoc, List.takeWhile_append_dropWhile,
        List.take_append_drop]

/-- What a reader of a fraction takes is one. -/
theorem fraction_eq_some {cs rest : List Char} {micros : Nat}
    (h : fraction cs = some (micros, rest)) :
    ∃ f : Fraction, f.Valid ∧ f.micros = micros ∧ cs = f.text ++ rest := by
  have hread := h
  unfold fraction at h
  split at h
  · exact fraction_comma_eq_some hread
  · exact fraction_point_eq_some hread
  · cases h
    exact ⟨.none, trivial, rfl, rfl⟩

/-- Where a number ends: what follows begins neither with a digit nor with a mark that goes on. -/
def Ends (rest : List Char) : Prop :=
  ∀ c, rest.head? = some c →
    Text.isDecimalDigit c = false ∧ c ≠ ',' ∧ c ≠ '.' ∧ c ≠ ':'

/-- Digits that end are taken as they are, and what follows is left. -/
theorem takeWhile_of_ends {p : Char → Bool} {ds rest : List Char} (hds : ∀ c ∈ ds, p c = true)
    (hrest : ∀ c, rest.head? = some c → p c = false) :
    (ds ++ rest).takeWhile p = ds ∧ (ds ++ rest).dropWhile p = rest := by
  rw [List.takeWhile_append_of_pos hds, List.dropWhile_append_of_pos hds]
  cases rest with
  | nil => exact ⟨List.append_nil ds, rfl⟩
  | cons c tail =>
      have hc := hrest c rfl
      rw [List.takeWhile_cons_of_neg (by rw [hc]; decide),
        List.dropWhile_cons_of_neg (by rw [hc]; decide)]
      exact ⟨List.append_nil ds, rfl⟩

/-- Where a number ends there is no digit of ASCII, as there is none of any script. -/
theorem Ends.notAscii {rest : List Char} (h : Ends rest) :
    ∀ c, rest.head? = some c → Text.isAsciiDigit c = false := by
  intro c hc
  rw [← Bool.not_eq_true]
  intro hascii
  exact absurd (Text.isDecimalDigit_of_isAsciiDigit hascii) (by rw [(h c hc).1]; decide)

/-- A comma and digits are read up to where the number ends. -/
theorem fraction_comma {ds rest : List Char} (hf : (Fraction.comma ds).Valid)
    (hrest : Ends rest) : fraction (',' :: (ds ++ rest)) = some (microsOf ds, rest) := by
  rcases takeWhile_of_ends hf.2 hrest.notAscii with ⟨htake, hdrop⟩
  rw [fraction, htake, hdrop, if_neg (mt List.isEmpty_iff.mp hf.1)]

/-- A point and digits are read up to where the number ends. -/
theorem fraction_point {ds more rest : List Char} (hf : (Fraction.point ds more).Valid)
    (hrest : Ends rest) : fraction ('.' :: (ds ++ (more ++ rest))) = some (microsOf ds, rest) := by
  rcases hf with ⟨hne, hsix, hascii, hdecimal, hmore⟩
  rw [fraction]
  by_cases hshort : ds.length < 6
  · -- Fewer than six digits have none of other scripts behind them.
    have hnil : more = [] := by
      by_contra hne'
      exact absurd (hmore hne') (Nat.ne_of_lt hshort)
    rcases takeWhile_of_ends hascii hrest.notAscii with ⟨htake, -⟩
    rw [hnil, List.nil_append, htake, if_neg (mt List.isEmpty_iff.mp hne), if_pos hshort,
      List.drop_left]
  · -- More digits of ASCII may follow the sixth, but they do not count.
    have hlength : ds.length = 6 := Nat.le_antisymm hsix (Nat.not_lt.mp hshort)
    have hdigits : (ds ++ (more ++ rest)).takeWhile Text.isAsciiDigit =
        ds ++ (more ++ rest).takeWhile Text.isAsciiDigit :=
      List.takeWhile_append_of_pos hascii
    have hempty : ¬(ds ++ (more ++ rest).takeWhile Text.isAsciiDigit).isEmpty = true := by
      rw [List.isEmpty_iff, List.append_eq_nil_iff]
      exact fun h => hne h.1
    have hlong : 6 ≤ (ds ++ (more ++ rest).takeWhile Text.isAsciiDigit).length := by
      rw [List.length_append]
      omega
    rcases takeWhile_of_ends hdecimal fun c hc => (hrest c hc).1 with ⟨-, hdrop⟩
    rw [hdigits, if_neg hempty, if_neg (Nat.not_lt.mpr hlong), microsOf_take hlong,
      List.take_left' hlength, List.drop_left' hlength, hdrop]

/-- A fraction is read as far as it goes. -/
theorem fraction_text {f : Fraction} (hf : f.Valid) {rest : List Char} (hrest : Ends rest) :
    fraction (f.text ++ rest) = some (f.micros, rest) := by
  rw [← Fraction.micros_eq hf]
  cases f with
  | none =>
      -- With nothing written, what follows is no fraction either, as it begins with neither mark.
      unfold fraction
      rw [Fraction.text, List.nil_append]
      split
      · exact absurd rfl (hrest ',' rfl).2.1
      · exact absurd rfl (hrest '.' rfl).2.2.1
      · rfl
  | comma ds =>
      rw [Fraction.text, List.cons_append]
      exact fraction_comma hf hrest
  | point ds more =>
      rw [Fraction.text, List.cons_append, List.append_assoc]
      exact fraction_point hf hrest

/-! ### The second -/

/-- What a reader of a second takes is one with a fraction, or nothing. -/
theorem seconds_eq_some {cs rest : List Char} {value : Nat × Nat}
    (h : seconds cs = some (value, rest)) :
    ∃ second, (∀ s f, second = some (s, f) → f.Valid) ∧ secondValue second = value ∧
      cs = secondText second ++ rest := by
  unfold seconds at h
  split at h
  · rename_i tail
    simp only [Option.bind_eq_bind, Option.bind_eq_some_iff, Option.pure_def, Option.some.injEq,
      Prod.exists, Prod.mk.injEq, digits_eq_some_iff] at h
    rcases h with ⟨s, cs₁, ⟨-, rfl⟩, micros, cs₂, hfraction, rfl, rfl⟩
    rcases fraction_eq_some hfraction with ⟨f, hf, rfl, rfl⟩
    refine ⟨some (s, f), ?_, rfl, ?_⟩
    · intro s' f' h
      cases h
      exact hf
    · rw [secondText, List.cons_append, List.append_assoc]
  · cases h
    exact ⟨none, fun _ _ h => (nomatch h), rfl, rfl⟩

/-- A second is read with its fraction. -/
theorem seconds_text {second : Option (Nat × Fraction)}
    (hsecond : ∀ s f, second = some (s, f) → s ≤ 59 ∧ f.Valid) {rest : List Char}
    (hrest : Ends rest) :
    seconds (secondText second ++ rest) = some (secondValue second, rest) := by
  cases second with
  | none =>
      unfold seconds
      rw [secondText, List.nil_append]
      split
      · exact absurd rfl (hrest ':' rfl).2.2.2
      · rfl
  | some value =>
      rcases hsecond value.1 value.2 rfl with ⟨hs, hf⟩
      have hplaces : value.1 < 10 ^ 2 := by omega
      rw [secondText, List.cons_append, List.append_assoc, seconds]
      simp only [digits_places hplaces, fraction_text hf hrest, Option.bind_eq_bind,
        Option.bind_some, Option.pure_def, secondValue]

/-! ### The zone -/

/-- What a reader of a sign takes is one, and only the plus means ahead. -/
theorem sign?_eq_some {c : Char} {s : Int} (h : sign? c = some s) :
    c ∈ Text.offsetSigns ∧ s = if c = '+' then 1 else -1 := by
  unfold sign? at h
  split_ifs at h with hplus hminus
  · cases h
    subst hplus
    exact ⟨List.mem_cons_self, rfl⟩
  · cases h
    rcases hminus with rfl | hminus
    · exact ⟨List.mem_cons_of_mem _ List.mem_cons_self, rfl⟩
    · have hc : c = Text.minus := Char.toNat_inj.mp hminus
      subst hc
      exact ⟨List.mem_cons_of_mem _ (List.mem_cons_of_mem _ List.mem_cons_self), rfl⟩

/-- A sign is read as the side of UTC that it means. -/
theorem sign?_of_mem {c : Char} (h : c ∈ Text.offsetSigns) :
    sign? c = some (if c = '+' then 1 else -1) := by
  rcases List.mem_cons.mp h with rfl | h
  · rfl
  rcases List.mem_cons.mp h with rfl | h
  · rfl
  rw [List.mem_singleton.mp h]
  rfl

/-- What a reader of an offset's minutes takes, with or without a colon. -/
theorem offsetMinutes_eq_some {cs rest : List Char} {minutes : Nat}
    (h : offsetMinutes cs = some (minutes, rest)) :
    ∃ colon : Bool, cs = (if colon then [':'] else []) ++ (places 2 minutes ++ rest) := by
  unfold offsetMinutes at h
  split at h
  · rcases digits_eq_some_iff.mp h with ⟨-, rfl⟩
    exact ⟨true, rfl⟩
  · rcases digits_eq_some_iff.mp h with ⟨-, rfl⟩
    exact ⟨false, rfl⟩

/-- The minutes of an offset are read, with or without a colon. -/
theorem offsetMinutes_text (colon : Bool) {minutes : Nat} (h : minutes < 10 ^ 2)
    (rest : List Char) :
    offsetMinutes ((if colon then [':'] else []) ++ (places 2 minutes ++ rest)) =
      some (minutes, rest) := by
  cases colon with
  | true => exact digits_places h rest
  | false =>
      unfold offsetMinutes
      split
      · -- The places begin with a digit, which is no colon.
        rename_i tail heq
        have hdigit : Text.isAsciiDigit ':' = true := by
          refine isAsciiDigit_of_mem_places (w := 2) (n := minutes) ?_
          have hlength := length_places 2 minutes
          cases hplaces : places 2 minutes with
          | nil =>
              rw [hplaces] at hlength
              cases hlength
          | cons c ds =>
              rw [hplaces] at heq
              cases heq
              exact List.mem_cons_self
        cases hdigit
      · exact digits_places h rest

/-- What a reader of a zone takes is one, up to a small letter. -/
theorem zone_eq_some {cs rest : List Char} {offset : Int} (h : zone cs = some (offset, rest)) :
    ∃ z : Zone, z.Valid ∧ z.ahead = offset ∧ ∃ read, read.map Text.raised = z.text ∧
      cs = read ++ rest := by
  cases cs with
  | nil => cases h
  | cons c tail =>
      rw [zone] at h
      split_ifs at h with hletter
      · -- A letter, of either case.
        cases h
        refine ⟨.utc, trivial, rfl, [c], ?_, rfl⟩
        rcases hletter with rfl | rfl
        · rfl
        · rfl
      · simp only [Option.bind_eq_bind, Option.bind_eq_some_iff, Option.ite_none_right_eq_some,
          Option.pure_def, Option.some.injEq, Prod.exists, Prod.mk.injEq, digits_eq_some_iff] at h
        rcases h with ⟨s, hs, hours, cs₁, ⟨-, rfl⟩, minutes, cs₂, hminutes, hclock, rfl, rfl⟩
        -- A sign, and then no letters, so upper case changes nothing.
        rcases sign?_eq_some hs with ⟨hsign, rfl⟩
        rcases offsetMinutes_eq_some hminutes with ⟨colon, rfl⟩
        refine ⟨.shifted c hours colon minutes, ⟨hsign, hclock⟩, ?_, _,
          (Text.map_raised_eq_iff (Zone.isPlain_text hsign)).mpr rfl, ?_⟩
        · rw [Zone.ahead]
          split_ifs
          · rw [Int.one_mul]
          · rw [Int.neg_one_mul]
        · simp only [Zone.text, List.cons_append, List.append_assoc]

/-- A zone is read, with a small letter as well. -/
theorem zone_text {z : Zone} (hz : z.Valid) {cs : List Char} (h : cs.map Text.raised = z.text) :
    zone cs = some (z.ahead, []) := by
  cases z with
  | utc =>
      rcases List.map_eq_singleton_iff.mp h with ⟨c, rfl, hc⟩
      rw [zone, if_pos (Text.raised_eq_Z hc), Zone.ahead]
  | shifted sign hours colon minutes =>
      rcases hz with ⟨hsign, hhours, hminutes⟩
      rw [Text.map_raised_eq_iff (Zone.isPlain_text hsign)] at h
      -- A sign is no letter, so the reader goes on to hours and minutes.
      have hletter : ¬(sign = 'Z' ∨ sign = 'z') := by
        rintro (rfl | rfl)
        · revert hsign
          decide
        · revert hsign
          decide
      have hplaces : hours < 10 ^ 2 := by omega
      have hplaces' : minutes < 10 ^ 2 := by omega
      have hrest : offsetMinutes ((if colon then [':'] else []) ++ places 2 minutes) =
          some (minutes, []) := by
        have htext := offsetMinutes_text colon hplaces' []
        rwa [List.append_nil] at htext
      rw [h, Zone.text, zone, if_neg hletter]
      simp only [sign?_of_mem hsign, digits_places hplaces, hrest, Option.bind_eq_bind,
        Option.bind_some, Option.pure_def]
      rw [if_pos ⟨hhours, hminutes⟩, Zone.ahead]
      split_ifs
      · rw [Int.one_mul]
      · rw [Int.neg_one_mul]

/-- What comes before a zone ends with it. -/
theorem ends_zone {z : Zone} (hz : z.Valid) {cs : List Char} (h : cs.map Text.raised = z.text) :
    Ends cs := by
  -- The first character is a letter or a sign, and none of these goes on with a number.
  have hfirst : ∀ c, cs.head? = some c → c ∈ Text.letters ++ Text.offsetSigns := by
    intro c hc
    rcases List.head?_eq_some_iff.mp hc with ⟨tail, rfl⟩
    cases z with
    | utc =>
        rcases List.cons.inj h with ⟨hc, -⟩
        rcases Text.raised_eq_Z hc with rfl | rfl
        · decide
        · decide
    | shifted sign hours colon minutes =>
        rw [Text.map_raised_eq_iff (Zone.isPlain_text hz.1)] at h
        rcases List.cons.inj h with ⟨rfl, -⟩
        exact List.mem_append_right _ hz.1
  have hmarks : ∀ c ∈ Text.letters ++ Text.offsetSigns, c ≠ ',' ∧ c ≠ '.' ∧ c ≠ ':' := by
    simp [Text.offsetSigns, Text.letters, Text.minus]
  exact fun c hc => ⟨Text.isDecimalDigit_eq_false (hfirst c hc), hmarks c (hfirst c hc)⟩

end Timestamp

end RecordGateway
