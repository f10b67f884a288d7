import Mathlib.Algebra.Group.Nat.Defs
import Mathlib.Data.List.Basic
import GlyphGrid.Yaml.Resolve

/-!
# Numbers that are read back

The digits of a number stand for the number.  `foldl_toDigits` says so for any base and any way to
read a digit; the numbers of a configuration (`unsigned?_toString`) and those of escaped characters
(`hexNumber?_hexUpper`) are two cases of it.
-/

namespace GlyphGrid.Yaml

variable {base n : Nat} {c : Char}

/-! ## Digits in any base -/

/-- A digit more makes a number `base` times as large and adds to it. -/
lemma toDigits_induction {motive : Nat → List Char → Prop} (hbase : 1 < base)
    (digit : ∀ d < base, motive d [d.digitChar])
    (more : ∀ n, ∀ d < base, 0 < n → motive n (Nat.toDigits base n) →
      motive (n * base + d) (Nat.toDigits base n ++ [d.digitChar])) (n : Nat) :
    motive n (Nat.toDigits base n) := by
  induction n using Nat.strongRecOn with
  | ind n ih =>
    rw [Nat.toDigits_eq_if hbase]
    split
    · exact digit n ‹n < base›
    · have hpos : 0 < n / base := Nat.div_pos (by omega) (by omega)
      have hsmaller : n / base < n := Nat.div_lt_self (by omega) hbase
      have h := more (n / base) (n % base) (Nat.mod_lt n (by omega)) hpos (ih (n / base) hsmaller)
      rwa [Nat.div_add_mod'] at h

/-- Reading digits one by one gives the number that they were made from. -/
lemma foldl_toDigits (hbase : 1 < base) (value : Char → Option Nat)
    (hvalue : ∀ d < base, value d.digitChar = some d) (n : Nat) :
    (Nat.toDigits base n).foldl
      (fun total c => total.bind fun total => (value c).map (total * base + ·)) (some 0)
      = some n := by
  induction n using toDigits_induction hbase with
  | digit d hd => simp [hvalue d hd]
  | more n d hd _ ih => rw [List.foldl_append, ih]; simp [hvalue d hd]

lemma exists_digitChar_of_mem_toDigits (hbase : 1 < base) (h : c ∈ Nat.toDigits base n) :
    ∃ d < base, c = d.digitChar := by
  induction n using toDigits_induction hbase with
  | digit d hd => exact ⟨d, hd, List.mem_singleton.mp h⟩
  | more n d hd _ ih =>
    rcases List.mem_append.mp h with hbefore | hlast
    · exact ih hbefore
    · exact ⟨d, hd, List.mem_singleton.mp hlast⟩

/-- No number but zero begins with the digit zero. -/
lemma exists_toDigits_eq_cons (hbase : 1 < base) (n : Nat) :
    ∃ d rest, Nat.toDigits base n = d.digitChar :: rest ∧ d < base
      ∧ (d = 0 → n = 0 ∧ rest = []) := by
  induction n using toDigits_induction hbase with
  | digit d hd => exact ⟨d, [], rfl, hd, fun h => ⟨h, rfl⟩⟩
  | more n d hd hpos ih =>
    obtain ⟨first, rest, hcons, hfirst, hzero⟩ := ih
    refine ⟨first, rest ++ [d.digitChar], by rw [hcons, List.cons_append], hfirst, fun h => ?_⟩
    exact absurd (hzero h).1 (by omega)

/-! ## Decimal numbers -/

lemma digits?_toDigits (n : Nat) : digits? 10 (Nat.toDigits 10 n) = some n := by
  have hvalue : ∀ d < 10, digit? 10 d.digitChar = some d := by decide
  obtain ⟨d, rest, hcons, -⟩ := exists_toDigits_eq_cons (by decide : 1 < 10) n
  rw [digits?, if_neg (by rw [hcons]; exact Bool.false_ne_true)]
  exact foldl_toDigits (by decide) (digit? 10) hvalue n

/-- A number is read from its decimal digits. -/
lemma unsigned?_toString (n : Nat) : unsigned? (toString n) = some n := by
  have hdigits : (toString n).toList = Nat.toDigits 10 n := Nat.toList_repr
  have hsigns : ∀ d < 10, d.digitChar ≠ '+' ∧ d.digitChar ≠ '-' := by decide
  have hzeros : ∀ d < 10, d.digitChar = '0' → d = 0 := by decide
  obtain ⟨d, rest, hcons, hd, hzero⟩ := exists_toDigits_eq_cons (by decide : 1 < 10) n
  have hsign : startsWithSign (d.digitChar :: rest) = false := by
    unfold startsWithSign
    split
    · exact absurd (List.cons.inj ‹_›).1 (hsigns d hd).1
    · exact absurd (List.cons.inj ‹_›).1 (hsigns d hd).2
    · rfl
  have hnone : ∀ b more, d.digitChar :: rest ≠ '0' :: b :: more := by
    intro b more h
    have hrest := (hzero (hzeros d hd (List.cons.inj h).1)).2
    rw [hrest] at h
    cases (List.cons.inj h).2
  have hleading : hasLeadingZero (d.digitChar :: rest) = false := by
    rw [hasLeadingZero, hsign, if_neg Bool.false_ne_true]
    split
    · exact absurd ‹_› (hnone _ _)
    · rfl
  have hplain : magnitude? (d.digitChar :: rest) = digits? 10 (d.digitChar :: rest) := by
    unfold magnitude?
    split
    · exact absurd ‹_› (hnone _ _)
    · rfl
  have hplus : ¬(d.digitChar :: rest).head? = some '+' := by
    rw [List.head?_cons, Option.some.injEq]
    exact (hsigns d hd).1
  rw [unsigned?, hdigits, hcons]
  simp only [if_neg hplus, hsign, hleading, Bool.or_self, Bool.false_eq_true, if_false]
  rw [hplain, ← hcons, digits?_toDigits]

/-! ## Hexadecimal numbers -/

lemma length_hexDigits {width : Nat} (hwidth : 0 < width) (h : n < 16 ^ width) :
    (Text.hexDigits width n).length = width := by
  have hle : (Nat.toDigits 16 n).length ≤ width :=
    (Nat.length_toDigits_le_iff (by decide) hwidth).mpr h
  rw [Text.hexDigits, List.length_append, List.length_replicate]
  omega

lemma length_hexUpper {width : Nat} (hwidth : 0 < width) (h : n < 16 ^ width) :
    (Text.hexUpper width n).toList.length = width := by
  rw [Text.hexUpper, String.toList_ofList, List.length_map, length_hexDigits hwidth h]

/-- A hexadecimal number is read from its digits, however many zeros stand before them. -/
lemma hexNumber?_hexUpper (width n : Nat) : hexNumber? (Text.hexUpper width n).toList = some n := by
  have hvalue : ∀ d < 16, hexDigit? d.digitChar.toUpper = some d := by decide
  have hzeros (count : Nat) : (List.replicate count '0').foldl
      (fun total c => total.bind fun total => (hexDigit? c.toUpper).map (total * 16 + ·)) (some 0)
      = some 0 := by
    induction count with
    | zero => rfl
    | succ count ih => rw [List.replicate_succ, List.foldl_cons]; exact ih
  rw [hexNumber?, Text.hexUpper, String.toList_ofList, List.foldl_map, Text.hexDigits,
    List.foldl_append, hzeros]
  exact foldl_toDigits (by decide) (fun c => hexDigit? c.toUpper) hvalue n

lemma exists_digitChar_of_mem_hexUpper {width : Nat} (h : c ∈ (Text.hexUpper width n).toList) :
    ∃ d < 16, c = d.digitChar.toUpper := by
  rw [Text.hexUpper, String.toList_ofList, List.mem_map] at h
  obtain ⟨lower, hmem, rfl⟩ := h
  rcases List.mem_append.mp hmem with hzero | hdigit
  · exact ⟨0, by decide, by rw [List.eq_of_mem_replicate hzero]; rfl⟩
  · obtain ⟨d, hd, rfl⟩ := exists_digitChar_of_mem_toDigits (by decide) hdigit
    exact ⟨d, hd, rfl⟩

end GlyphGrid.Yaml
