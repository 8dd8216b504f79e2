import RecordGateway.Proofs.Json.Nesting
import RecordGateway.Proofs.Json.Spelling
import RecordGateway.Proofs.Text.Split
import RecordGateway.Settings.Origins

/-!
# Two Notations for Origins

Origins are written as a JSON array or as a list with commas, and nothing but the text itself says
which. A text that reads as an array is one, so a list with commas has to be kept from reading as
one. It is, if its first origin does not begin with a bracket, because blanks and commas are all
that can stand before it.

A list with commas is described by its pieces: each holds an origin with blanks around it, or blanks
and nothing else. Every text is such a list, and the reading as one is the only one. Origins are
loose texts in both notations, so what is read of a text keeps the halves of surrogate pairs that
stand in it or that it writes.

What is left is how deeply a text may nest. The reader gives up on containers that are nested too
deeply before it has seen whether the text is an array, and then there are no origins in either
notation. A list with commas can be such a text.

## Main definitions

* `Origins.IsTidy`: an origin as it is kept.
* `Origins.Lists`: a text lists origins with commas.

## Theorems

* `Origins.lists_ofCommas`, `Origins.ofCommas_of_lists`: a list with commas, read and written.
* `Origins.parse_eq_error_iff`: when no origins are read.
* `Origins.notations_agree`: both notations, and what is read of any text.
-/

namespace RecordGateway

namespace Origins

/-- The letter between the origins of a list. -/
def comma : Letter :=
  .char ','

/-- Letters that are blanks. -/
def Blank (ls : List Letter) : Prop :=
  ∀ l ∈ ls, l.isOf Text.isBlank = true

instance (ls : List Letter) : Decidable (Blank ls) :=
  inferInstanceAs (Decidable (∀ l ∈ ls, l.isOf Text.isBlank = true))

/-- An origin as it is kept: not empty, and without blanks around it. -/
def IsTidy (x : LooseText) : Prop :=
  x ≠ "" ∧ x.trim = x

instance (x : LooseText) : Decidable (IsTidy x) :=
  inferInstanceAs (Decidable (x ≠ "" ∧ x.trim = x))

/-- Pieces that hold origins, each with blanks around it, and blank pieces anywhere. -/
inductive Holds : List (List Letter) → List LooseText → Prop where
  /-- There are no pieces. -/
  | nil : Holds [] []
  /-- A piece is blank. -/
  | blank {piece : List Letter} {pieces : List (List Letter)} {xs : List LooseText}
      (hblank : Blank piece) (h : Holds pieces xs) : Holds (piece :: pieces) xs
  /-- A piece holds an origin. -/
  | origin {before after : List Letter} {x : LooseText} {pieces : List (List Letter)}
      {xs : List LooseText} (hbefore : Blank before) (hafter : Blank after) (h : Holds pieces xs) :
      Holds ((before ++ x.letters ++ after) :: pieces) (x :: xs)

/-- A text is joined with commas of pieces that hold origins. -/
def Lists (t : LooseText) (xs : List LooseText) : Prop :=
  ∃ pieces, pieces ≠ [] ∧ Holds pieces xs ∧ t.letters = List.intercalate [comma] pieces

/-- Texts are tidied one by one. -/
theorem tidy_cons (x : LooseText) (xs : List LooseText) :
    tidy (x :: xs) = if x.trim = "" then tidy xs else x.trim :: tidy xs := by
  rw [tidy, List.map_cons, List.filter_cons]
  by_cases hx : x.trim = ""
  · rw [if_pos hx, if_neg (by simpa using hx), tidy]
  · rw [if_neg hx, if_pos (by simpa using hx), tidy]

/-- What is trimmed stays as it is. -/
theorem trim_trim (x : LooseText) : x.trim.trim = x.trim :=
  congrArg LooseText.mk (Text.trimWhile_trimWhile _ x.letters)

/-- Whatever the texts are, only tidy ones are left. -/
theorem isTidy_of_mem_tidy {texts : List LooseText} {x : LooseText} (h : x ∈ tidy texts) :
    IsTidy x := by
  rcases List.mem_filter.mp h with ⟨hmem, hne⟩
  rcases List.mem_map.mp hmem with ⟨text, -, rfl⟩
  exact ⟨of_decide_eq_true hne, trim_trim text⟩

/-- Of a blank piece nothing is left. -/
theorem trim_blank {piece : List Letter} (h : Blank piece) : LooseText.trim ⟨piece⟩ = "" := by
  have hpadded := Text.trimWhile_padding h []
    (List.forall_mem_nil fun l : Letter => l.isOf Text.isBlank = true)
  rw [List.append_nil, List.append_nil] at hpadded
  exact congrArg LooseText.mk hpadded

/-- Of an origin with blanks around it the origin is left, trimmed. -/
theorem trim_padded {before after : List Letter} (hbefore : Blank before) (x : LooseText)
    (hafter : Blank after) : LooseText.trim ⟨before ++ x.letters ++ after⟩ = x.trim :=
  congrArg LooseText.mk (Text.trimWhile_padding hbefore x.letters hafter)

/-- Tidy origins are left of the pieces that hold them. -/
theorem tidy_of_holds {pieces : List (List Letter)} {xs : List LooseText} (h : Holds pieces xs)
    (hxs : ∀ x ∈ xs, IsTidy x) : tidy (pieces.map LooseText.mk) = xs := by
  induction h with
  | nil => rfl
  | blank hblank h ih => rw [List.map_cons, tidy_cons, if_pos (trim_blank hblank), ih hxs]
  | @origin before after x pieces xs hbefore hafter h ih =>
      rw [List.forall_mem_cons] at hxs
      rcases hxs with ⟨⟨hne, htrim⟩, hxs⟩
      rw [List.map_cons, tidy_cons, trim_padded hbefore x hafter, htrim, if_neg hne, ih hxs]

/-- Pieces hold what is left of them. -/
theorem holds_tidy (pieces : List (List Letter)) :
    Holds pieces (tidy (pieces.map LooseText.mk)) := by
  induction pieces with
  | nil => exact .nil
  | cons piece pieces ih =>
      rcases Text.exists_padding (Letter.isOf Text.isBlank) piece with
        ⟨before, after, hbefore, hafter, hpiece⟩
      have hpiece : before ++ (LooseText.trim ⟨piece⟩).letters ++ after = piece := hpiece
      rw [List.map_cons, tidy_cons]
      -- A piece is blanks, something, and blanks again; it is blank if the something is empty.
      by_cases hempty : LooseText.trim ⟨piece⟩ = ""
      · have hnone : (LooseText.trim ⟨piece⟩).letters = [] := congrArg LooseText.letters hempty
        rw [hnone, List.append_nil] at hpiece
        rw [if_pos hempty, ← hpiece]
        exact .blank (List.forall_mem_append.mpr ⟨hbefore, hafter⟩) ih
      · rw [if_neg hempty]
        have hholds := Holds.origin (x := LooseText.trim ⟨piece⟩) hbefore hafter ih
        rwa [hpiece] at hholds

/-- No comma stands in the pieces that hold origins without commas. -/
theorem comma_notMem_of_holds {pieces : List (List Letter)} {xs : List LooseText}
    (h : Holds pieces xs) (hxs : ∀ x ∈ xs, comma ∉ x.letters) :
    ∀ piece ∈ pieces, comma ∉ piece := by
  induction h with
  | nil => exact List.forall_mem_nil _
  | blank hblank h ih =>
      exact List.forall_mem_cons.mpr ⟨Text.notMem_of_forall (by decide) hblank, ih hxs⟩
  | origin hbefore hafter h ih =>
      rw [List.forall_mem_cons] at hxs
      refine List.forall_mem_cons.mpr ⟨?_, ih hxs.2⟩
      simp only [List.mem_append, not_or]
      exact ⟨⟨Text.notMem_of_forall (by decide) hbefore, hxs.1⟩,
        Text.notMem_of_forall (by decide) hafter⟩

/-- The origins that a text lists are read, and no others. -/
theorem ofCommas_of_lists {t : LooseText} {xs : List LooseText} (h : Lists t xs)
    (hxs : ∀ x ∈ xs, IsTidy x ∧ comma ∉ x.letters) : ofCommas t = xs := by
  rcases h with ⟨pieces, hne, hholds, ht⟩
  have hcomma := comma_notMem_of_holds hholds fun x hx => (hxs x hx).2
  have hpieces : Text.splitOn comma t.letters = pieces := by
    rw [ht, Text.splitOn_intercalate hcomma hne]
  rw [ofCommas, LooseText.pieces, ← comma, hpieces]
  exact tidy_of_holds hholds fun x hx => (hxs x hx).1

/-- Every text lists the origins that are read of it. -/
theorem lists_ofCommas (t : LooseText) : Lists t (ofCommas t) :=
  ⟨Text.splitOn comma t.letters, Text.splitOn_ne_nil comma t.letters, holds_tidy _,
    (Text.intercalate_splitOn comma t.letters).symm⟩

/-- A single origin stands for itself. -/
theorem lists_singleton (x : LooseText) : Lists x [x] := by
  have hholds := Holds.origin (x := x) (List.forall_mem_nil _) (List.forall_mem_nil _) .nil
  rw [List.nil_append, List.append_nil] at hholds
  exact ⟨[x.letters], List.cons_ne_nil _ _, hholds, List.intercalate_singleton.symm⟩

/-- No origin that is read between commas has a comma in it. -/
theorem comma_notMem_of_mem_ofCommas {t x : LooseText} (h : x ∈ ofCommas t) :
    comma ∉ x.letters := by
  rcases List.mem_filter.mp h with ⟨hmem, -⟩
  rcases List.mem_map.mp hmem with ⟨text, htext, rfl⟩
  rcases List.mem_map.mp htext with ⟨piece, hpiece, rfl⟩
  rcases Text.exists_padding (Letter.isOf Text.isBlank) piece with
    ⟨before, after, -, -, hpadding⟩
  have hcomma : comma ∉ piece := Text.notMem_of_mem_splitOn hpiece
  rw [← hpadding] at hcomma
  exact fun hin => hcomma (List.mem_append_left _ (List.mem_append_right _ hin))

/-- A tidy origin does not begin with a blank. -/
theorem IsTidy.exists_head {x : LooseText} (h : IsTidy x) :
    ∃ d ds, x.letters = d :: ds ∧ d.isOf Text.isBlank = false := by
  rcases h with ⟨hne, htrim⟩
  have htrimmed : Text.trimWhile (Letter.isOf Text.isBlank) x.letters = x.letters :=
    congrArg LooseText.letters htrim
  cases hx : x.letters with
  | nil => exact absurd (congrArg LooseText.mk hx) hne
  | cons d ds =>
      rw [hx] at htrimmed
      exact ⟨d, ds, rfl, Text.head_of_trimWhile_eq_self htrimmed⟩

/-- A list with commas begins with its first piece. -/
theorem exists_intercalate_cons (piece : List Letter) (pieces : List (List Letter)) :
    ∃ rest, List.intercalate [comma] (piece :: pieces) = piece ++ rest := by
  cases pieces with
  | nil => exact ⟨[], by rw [List.intercalate_singleton, List.append_nil]⟩
  | cons next pieces => exact ⟨_, by rw [List.intercalate_cons_cons, List.append_assoc]⟩

/-- What is no blank and comes first in a list with commas is a comma or the start of the first
    origin. -/
theorem dropWhile_of_lists {t : LooseText} {xs : List LooseText} (h : Lists t xs)
    (hxs : ∀ x ∈ xs, IsTidy x) {l : Letter} {rest : List Letter}
    (ht : t.letters.dropWhile (Letter.isOf Text.isBlank) = l :: rest) :
    l = comma ∨ ∃ x, xs.head? = some x ∧ x.letters.head? = some l := by
  rcases h with ⟨pieces, -, hholds, hpieces⟩
  rw [hpieces] at ht
  cases hholds with
  | nil => cases ht
  -- A blank piece is passed over, and behind it stands a comma or nothing.
  | @blank piece pieces xs hblank h =>
      left
      cases pieces with
      | nil =>
          rw [List.intercalate_singleton, List.dropWhile_eq_nil_iff.mpr hblank] at ht
          cases ht
      | cons next pieces =>
          rw [List.intercalate_cons_cons, List.append_assoc, List.dropWhile_append_of_pos hblank,
            List.singleton_append, List.dropWhile_cons_of_neg (by decide)] at ht
          exact (List.cons.inj ht).1.symm
  -- The blanks before the first origin are passed over, and it does not begin with one.
  | @origin before after x pieces xs hbefore hafter h =>
      rcases (hxs x List.mem_cons_self).exists_head with ⟨d, ds, hx, hd⟩
      rcases exists_intercalate_cons (before ++ x.letters ++ after) pieces with ⟨behind, hbehind⟩
      rw [hbehind, hx, List.append_assoc, List.append_assoc, List.dropWhile_append_of_pos hbefore,
        List.cons_append, List.dropWhile_cons_of_neg (by rw [hd]; exact Bool.false_ne_true)] at ht
      right
      refine ⟨x, rfl, ?_⟩
      rw [hx, List.head?_cons, (List.cons.inj ht).1]

/-- A bracket in front of an array. -/
def bracket : Letter :=
  .char '['

/-- A list with commas does not read as an array, unless its first origin begins with a bracket. -/
theorem Lists.read_ne_arr {t : LooseText} {xs : List LooseText} (h : Lists t xs)
    (hxs : ∀ x ∈ xs, IsTidy x) (hbracket : ∀ x, xs.head? = some x → x.letters.head? ≠ some bracket)
    (items : List Json) : Json.read t ≠ .ok (.arr items) := by
  -- White space of JSON is blank, so what the reader passes over is passed over here.
  have hspace : ∀ l : Letter, l.isOf Json.Reader.isSpace = true → l.isOf Text.isBlank = true := by
    intro l hl
    cases l with
    | char c =>
        simp only [Letter.isOf, Json.Reader.isSpace, Bool.or_eq_true, beq_iff_eq] at hl
        rcases hl with ((rfl | rfl) | rfl) | rfl <;> decide
    | half half => cases hl
  intro hread
  rcases Json.dropWhile_of_read_eq_arr hread with ⟨rest, hrest⟩
  have ht : t.letters.dropWhile (Letter.isOf Text.isBlank) = bracket :: rest := by
    have hsplit := List.takeWhile_append_dropWhile (p := Letter.isOf Json.Reader.isSpace)
      (l := t.letters)
    have hblank : Blank (t.letters.takeWhile (Letter.isOf Json.Reader.isSpace)) :=
      fun l hl => hspace l (List.mem_takeWhile_imp hl)
    rw [← hsplit, List.dropWhile_append_of_pos hblank, hrest,
      List.dropWhile_cons_of_neg (by decide)]
    rfl
  rcases dropWhile_of_lists h hxs ht with hcomma | ⟨x, hx, hhead⟩
  · cases hcomma
  · exact hbracket x hx hhead

/-- The container that is too many is that of the error. -/
theorem tooDeep?_eq_some_iff (e : Json.ReadError) (kind : Json.Container) :
    tooDeep? e = some kind ↔ e.expectation = .lessNesting kind := by
  unfold tooDeep?
  split
  · next other hother =>
    rw [hother, Option.some_inj, Json.Expectation.lessNesting.injEq]
  · next hnone => exact iff_of_false (Option.some_ne_none kind ∘ Eq.symm) (hnone kind)

/-- A text that reads as an array holds the origins of the array. -/
theorem parse_of_read_arr {t : LooseText} {items : List Json}
    (h : Json.read t = .ok (.arr items)) : parse t = .ok (tidy (items.map Json.display)) := by
  rw [parse, h]

/-- A text that does not read as an array is a list with commas, if it does not nest too deeply. -/
theorem parse_of_read_ne_arr {t : LooseText} (h : ∀ items, Json.read t ≠ .ok (.arr items))
    (hdepth : Json.Reader.NotTooDeep (Json.read t)) : parse t = .ok (ofCommas t) := by
  unfold parse
  split
  · next items hread => exact absurd hread (h items)
  · rfl
  · next e hread =>
    split
    · next kind hkind => exact absurd ((tooDeep?_eq_some_iff e kind).mp hkind) (hdepth e hread kind)
    · rfl

/-- There are no origins exactly if the bound on the nesting shows. -/
theorem parse_eq_error_iff (t : LooseText) :
    (∃ kind, parse t = .error kind) ↔ ¬ Json.NestsWithin Json.maxDepth t := by
  rw [Json.nestsWithin_iff]
  constructor
  · rintro ⟨kind, hparse⟩ hdepth
    -- An array and a list with commas are both read, so it is neither.
    by_cases harr : ∃ items, Json.read t = .ok (.arr items)
    · rcases harr with ⟨items, harr⟩
      rw [parse_of_read_arr harr] at hparse
      cases hparse
    · rw [parse_of_read_ne_arr (not_exists.mp harr) hdepth] at hparse
      cases hparse
  · intro hdepth
    simp only [Json.Reader.NotTooDeep, not_forall, not_not] at hdepth
    rcases hdepth with ⟨e, hread, kind, hkind⟩
    refine ⟨kind, ?_⟩
    rw [parse, hread]
    simp only [(tooDeep?_eq_some_iff e kind).mpr hkind]

/-- More objects than are read one in another make a text without origins in either notation. -/
theorem parse_unclosed {n : Nat} (hn : Json.maxDepth < n) :
    parse (Json.unclosed n) = .error .object := by
  rcases Json.read_unclosed hn with ⟨position, hread⟩
  rw [parse, hread]
  rfl

/-- But as an origin it is as good as any. -/
theorem isTidy_unclosed {n : Nat} (hn : 0 < n) :
    IsTidy (Json.unclosed n) ∧ comma ∉ (Json.unclosed n).letters ∧
      (Json.unclosed n).letters.head? ≠ some bracket := by
  -- It is written with four letters, none of them a blank or a comma.
  have hletters : ∀ l ∈ (Json.unclosed n).letters,
      l ∈ ([.char '\x7b', .char '"', .char '"', .char ':'] : List Letter) := by
    intro l hl
    rcases List.mem_flatten.mp hl with ⟨ls, hls, hl⟩
    rwa [List.eq_of_mem_replicate hls] at hl
  have hnotBlank : ∀ l ∈ ([.char '\x7b', .char '"', .char '"', .char ':'] : List Letter),
      l.isOf Text.isBlank = false := by
    decide
  have htrim : (Json.unclosed n).trim = Json.unclosed n :=
    congrArg LooseText.mk (Text.trimWhile_eq_self fun l hl => hnotBlank l (hletters l hl))
  have hfirst : (Json.unclosed n).letters.head? = some (.char '\x7b') := by
    rcases Nat.exists_eq_succ_of_ne_zero (Nat.ne_zero_of_lt hn) with ⟨m, rfl⟩
    rw [Json.Reader.letters_unclosed_succ]
    rfl
  refine ⟨⟨fun hempty => ?_, htrim⟩, fun hcomma => ?_, ?_⟩
  · rw [hempty] at hfirst
    cases hfirst
  · exact absurd (hletters comma hcomma) (by decide)
  · rw [hfirst]
    decide

/-- Both notations of a list of origins are read alike. Of a JSON array of strings, in any spelling,
    the trimmed strings that are not blank are read. Of origins with commas, with blanks around them
    and blank pieces anywhere, the origins are read if the first one does not begin with a bracket.
    Every text at all is read, as an array if it is one and with commas otherwise, and only tidy
    origins come out. Commas are read, and texts of any kind, as long as containers are not nested
    beyond the depth of the reader. -/
theorem notations_agree :
    (∀ xs t, Json.SpellsArray xs t →
      parse t = .ok ((xs.map LooseText.trim).filter (· ≠ ""))) ∧
    (∀ xs t, (∀ x ∈ xs, IsTidy x ∧ comma ∉ x.letters) →
      (∀ x, xs.head? = some x → x.letters.head? ≠ some bracket) → Lists t xs →
      Json.NestsWithin Json.maxDepth t → parse t = .ok xs) ∧
    ∀ t, Json.NestsWithin Json.maxDepth t → ∃ origins, parse t = .ok origins ∧
      (∀ x ∈ origins, IsTidy x) ∧
      (∀ items, Json.read t = .ok (.arr items) →
        origins = (items.map fun v => v.display.trim).filter fun x : LooseText => x ≠ "") ∧
      ((∀ items, Json.read t ≠ .ok (.arr items)) →
        Lists t origins ∧ ∀ x ∈ origins, comma ∉ x.letters) := by
  refine ⟨fun xs t ht => ?_, fun xs t hxs hbracket ht hnests => ?_, fun t hnests => ?_⟩
  · -- The text is read as the array that it spells.
    rw [parse_of_read_arr (Json.read_of_spellsArray ht), tidy, List.map_map, List.map_map]
    rfl
  · have hnone := ht.read_ne_arr (fun x hx => (hxs x hx).1) hbracket
    rw [parse_of_read_ne_arr hnone ((Json.nestsWithin_iff t).mp hnests), ofCommas_of_lists ht hxs]
  · by_cases harr : ∃ items, Json.read t = .ok (.arr items)
    · rcases harr with ⟨items, harr⟩
      refine ⟨_, parse_of_read_arr harr, fun x hx => isTidy_of_mem_tidy hx,
        fun others hothers => ?_, fun hnone => absurd harr (hnone items)⟩
      rw [harr] at hothers
      cases hothers
      rw [tidy, List.map_map]
      rfl
    · have hnone := not_exists.mp harr
      exact ⟨_, parse_of_read_ne_arr hnone ((Json.nestsWithin_iff t).mp hnests),
        fun x hx => isTidy_of_mem_tidy hx, fun items harr => absurd harr (hnone items),
        fun _ => ⟨lists_ofCommas t, fun x hx => comma_notMem_of_mem_ofCommas hx⟩⟩

/-- An array with escapes, of which one names half of a surrogate pair, and a blank member; commas
    with nothing between two of them; and an array without an end, which is read as a list with
    commas. -/
theorem notations_agree_mixed :
    parse "[\"\\u0061\\ud800 \", \"\"]" = .ok [⟨[.char 'a', .half ⟨0⟩]⟩] ∧
    parse " a,,b " = .ok ["a", "b"] ∧
    ∃ origins, parse "[a" = .ok origins ∧ Lists "[a" origins := by
  rcases notations_agree with ⟨harray, hcommas, hany⟩
  have hspells : Json.SpellsArray [⟨[.char 'a', .half ⟨0⟩, .char ' ']⟩, ""]
      "[\"\\u0061\\ud800 \", \"\"]" := by
    have hnone : Json.Spacing [] := List.nil_subset _
    have hspace : Json.Spacing [.char ' '] := by
      unfold Json.Spacing
      decide
    have hletter : Json.WritesHex (Letter.char 'a').code
        [.char '0', .char '0', .char '6', .char '1'] :=
      ⟨0, 0, 6, 1, by decide, by decide⟩
    have hhalf : Json.WritesHex (Letter.half ⟨0⟩).code
        [.char 'd', .char '8', .char '0', .char '0'] :=
      ⟨13, 8, 0, 0, by decide, by decide⟩
    have hfirst : Json.Spells [.char 'a', .half ⟨0⟩, .char ' ']
        (LooseText.ofString "\\u0061\\ud800 ").letters :=
      .unicode hletter (by decide) (.unicode hhalf (by decide)
        (.plain (by decide) (by decide) (by decide) .nil))
    have hitems := Json.SpellsItems.more (x := ⟨[.char 'a', .half ⟨0⟩, .char ' ']⟩) hnone hfirst
      hnone (.last (x := "") hspace .nil hnone)
    exact ⟨[], _, [], hnone, .some hitems, hnone, by decide⟩
  have htidy : ∀ x ∈ (["a", "b"] : List LooseText), IsTidy x ∧ comma ∉ x.letters := by decide
  have hlists : Lists " a,,b " ["a", "b"] := by
    have hnone : Blank [] := List.forall_mem_nil _
    have hlast : Holds [[] ++ LooseText.letters "b" ++ [.char ' ']] ["b"] :=
      .origin hnone (by decide) .nil
    have hholds : Holds [[.char ' '] ++ LooseText.letters "a" ++ [], [],
        [] ++ LooseText.letters "b" ++ [.char ' ']] ["a", "b"] :=
      .origin (by decide) hnone (.blank hnone hlast)
    exact ⟨_, List.cons_ne_nil _ _, hholds, by decide⟩
  refine ⟨?_, ?_, ?_⟩
  · rw [harray _ _ hspells]
    decide
  · refine hcommas _ _ htidy ?_ hlists (Json.nestsWithin_of_nesting (by decide))
    rintro x ⟨⟩
    decide
  · rcases hany "[a" (Json.nestsWithin_of_nesting (by decide)) with ⟨origins, hparse, -, -, hrest⟩
    have hread : Json.read "[a" = .error ⟨.value, 1⟩ := rfl
    refine ⟨origins, hparse, (hrest fun items harr => ?_).1⟩
    rw [hread] at harr
    cases harr

/-- Without the bound on the nesting, a list with commas need not be read. -/
theorem lists_not_parsed :
    ¬ ∀ xs t, (∀ x ∈ xs, IsTidy x ∧ comma ∉ x.letters) →
      (∀ x, xs.head? = some x → x.letters.head? ≠ some bracket) → Lists t xs →
        parse t = .ok xs := by
  intro hall
  have hdeep : ∃ x, (IsTidy x ∧ comma ∉ x.letters ∧ x.letters.head? ≠ some bracket) ∧
      parse x = .error .object :=
    ⟨Json.unclosed 3001, isTidy_unclosed (by decide), parse_unclosed (by decide)⟩
  rcases hdeep with ⟨x, ⟨htidy, hcomma, hbracket⟩, hparse⟩
  have hread := hall [x] x (List.forall_mem_singleton.mpr ⟨htidy, hcomma⟩)
    (by rintro y ⟨⟩; exact hbracket) (lists_singleton x)
  rw [hparse] at hread
  cases hread

end Origins

end RecordGateway
