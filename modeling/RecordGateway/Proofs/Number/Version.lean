import RecordGateway.Connection
import RecordGateway.Proofs.Number.Spelling
import RecordGateway.Proofs.Text.Digit
import RecordGateway.Proofs.Text.Split

/-!
# Versions with Points

A version that is written with points, part after part in decimal, is read as the numbers that it is
written from.

The grammar of a part is wide, with signs, underscores, white space and the digits of all scripts,
but a number in decimal uses none of that. It is one run of digits that nothing follows, and each of
these has the value that it has in ASCII. The points do not occur in a number, and so the text falls
apart at them again.

## Main definitions

* `dotted`: numbers in decimal with points between them.

## Theorems

* `ungroup?_digits`: a run of digits has no underscores to take out.
* `VersionPart.parse_toString`: a part in decimal is the number.
* `Connection.versionParts_dotted`: a version with points is its numbers.
-/

namespace RecordGateway

/-- Numbers in decimal with points between them. -/
def dotted (ns : List Nat) : String :=
  String.intercalate "." (ns.map toString)

namespace Number

/-- A run of digits has no underscores to take out. -/
theorem ungroup?_digits {p : Char → Bool} (hsep : p '_' = false) {ds : List Char} (hne : ds ≠ [])
    (h : ∀ c ∈ ds, p c = true) : ungroup? p ds = some ds := by
  induction ds with
  | nil => exact absurd rfl hne
  | cons c rest ih =>
      rcases List.forall_mem_cons.mp h with ⟨hc, hrest⟩
      cases rest with
      | nil => rw [ungroup?, if_pos hc]
      | cons d rest =>
          have hd : d ≠ '_' := by
            rintro rfl
            rw [(List.forall_mem_cons.mp hrest).1] at hsep
            cases hsep
          rw [ungroup?, if_pos hc, if_neg hd, ih (List.cons_ne_nil _ _) hrest]
          rfl

/-- A number in decimal does not begin with a sign. -/
theorem splitSign_digits {ds : List Char} (h : ∀ c ∈ ds, Text.isAsciiDigit c = true) :
    splitSign ds = (false, ds) := by
  unfold splitSign
  split
  · exact absurd (h '+' List.mem_cons_self) (by decide)
  · exact absurd (h '-' List.mem_cons_self) (by decide)
  · rfl

end Number

namespace VersionPart

/-- A part of a version in decimal is the number, if it has no more digits than are read. -/
theorem parse_toString {n : Nat} (h : (Nat.toDigits 10 n).length ≤ Number.maxDigits) :
    parse (toString n) = .ok (n : Int) := by
  have hdigits : ∀ c ∈ Nat.toDigits 10 n, Text.isAsciiDigit c = true :=
    fun c => Number.isAsciiDigit_of_mem_toDigits
  have hdecimal : ∀ c ∈ Nat.toDigits 10 n, Text.isDecimalDigit c = true := by
    intro c hc
    rw [Text.isDecimalDigit, Text.decimalDigit?_of_isAsciiDigit (hdigits c hc), Option.isSome_some]
  have hrun : ∀ c ∈ Nat.toDigits 10 n, isOfRun c = true := by
    intro c hc
    rw [isOfRun, hdecimal c hc, Bool.true_or]
  have htrim : Text.trimWhile Text.isWhiteSpace (Nat.toDigits 10 n) = Nat.toDigits 10 n :=
    Text.trimWhile_eq_self fun c hc => Text.isWhiteSpace_of_isAsciiDigit (hdigits c hc)
  have htake : (Nat.toDigits 10 n).takeWhile isOfRun = Nat.toDigits 10 n :=
    List.takeWhile_eq_self_iff.mpr hrun
  have hdrop : (Nat.toDigits 10 n).dropWhile isOfRun = [] := List.dropWhile_eq_nil_iff.mpr hrun
  have hvalue : (Nat.toDigits 10 n).map (fun d => (Text.decimalDigit? d).getD 0) =
      (Nat.toDigits 10 n).map fun d => d.toNat - 0x30 := by
    refine List.map_congr_left fun c hc => ?_
    rw [Text.decimalDigit?_of_isAsciiDigit (hdigits c hc), Option.getD_some]
  unfold parse
  rw [LooseText.toString_ofString, Number.toList_toString, htrim, Number.splitSign_digits hdigits]
  simp only [htake, hdrop, Number.ungroup?_digits (by decide) Nat.toDigits_ne_nil hdecimal,
    if_neg (Nat.not_lt.mpr h), List.isEmpty_nil, Bool.not_true, Bool.false_eq_true, if_false]
  rw [hvalue, ← Number.natOfChars, Number.natOfChars_eq_ofDigitChars,
    Nat.ofDigitChars_ten_toDigits]
  rfl

end VersionPart

namespace Connection

/-- The points of a version stand between its parts, and nowhere else. -/
theorem pieces_dotted {ns : List Nat} (hne : ns ≠ []) :
    LooseText.pieces '.' (dotted ns) = ns.map fun n => LooseText.ofString (toString n) := by
  let parts : List LooseText := ns.map fun n => LooseText.ofString (toString n)
  have hpoint : ∀ piece ∈ parts.map LooseText.letters, Letter.char '.' ∉ piece := by
    intro piece hpiece hmem
    rcases List.mem_map.mp hpiece with ⟨part, hpart, rfl⟩
    rcases List.mem_map.mp hpart with ⟨n, -, rfl⟩
    rcases List.mem_map.mp hmem with ⟨c, hc, hpoint⟩
    cases hpoint
    rw [Number.toList_toString] at hc
    exact absurd (Number.isAsciiDigit_of_mem_toDigits hc) (by decide)
  have hletters : (LooseText.ofString (dotted ns)).letters =
      List.intercalate [.char '.'] (parts.map LooseText.letters) := by
    rw [LooseText.ofString, dotted, String.toList_intercalate, Text.map_intercalate]
    simp only [parts, List.map_map]
    rfl
  have hsome : parts.map LooseText.letters ≠ [] :=
    mt List.map_eq_nil_iff.mp (mt List.map_eq_nil_iff.mp hne)
  rw [LooseText.pieces, hletters, Text.splitOn_intercalate hpoint hsome, List.map_map]
  exact List.map_id parts

/-- A version with points is read as its numbers. -/
theorem versionParts_dotted {ns : List Nat} (hne : ns ≠ [])
    (hshort : ∀ n ∈ ns, (Nat.toDigits 10 n).length ≤ Number.maxDigits) :
    versionParts (dotted ns) = .ok (ns.map Int.ofNat) := by
  rw [versionParts, pieces_dotted hne]
  clear hne
  induction ns with
  | nil => rfl
  | cons n rest ih =>
      rcases List.forall_mem_cons.mp hshort with ⟨hn, hrest⟩
      rw [List.map_cons, List.mapM_cons, VersionPart.parse_toString hn, ih hrest]
      rfl

theorem dotted_ne_empty {ns : List Nat} (hne : ns ≠ []) :
    LooseText.ofString (dotted ns) ≠ "" := by
  intro hempty
  have hpieces := pieces_dotted hne
  rw [hempty] at hpieces
  cases ns with
  | nil => exact absurd rfl hne
  | cons n rest =>
      -- The only piece of the empty text is empty, and no number is written so.
      have hfirst : (LooseText.ofString "").letters = (LooseText.ofString (toString n)).letters :=
        congrArg LooseText.letters (List.cons.inj hpieces).1
      rw [LooseText.ofString, LooseText.ofString, Number.toList_toString] at hfirst
      exact absurd (List.map_eq_nil_iff.mp hfirst.symm) Nat.toDigits_ne_nil

end Connection

end RecordGateway
