import Mathlib.Data.List.DropRight
import Mathlib.Data.Nat.Digits.Defs
import Mathlib.Tactic.Lemma
import GlyphGrid.Text.Blank

/-!
# Numerals with white space around them

`Text.trimmed` and `Text.unsigned?` read a number from a text that a person wrote.  This file says
which texts are read, without the two readers: a `Core` is what is left of a text without the white
space at its ends (`trimmed_eq_iff`), and it `Writes` a number if it is made of decimal digits with
at most one plus sign before them (`unsigned?_eq_some_iff`).

The number has no bound, as there may be any digits.  A reader that keeps it in a byte, and gives up
as soon as it does not fit, comes to the same for numbers that are bytes and to nothing for all
others (`byte?_eq_some_iff`).  What carries this is that a number never gets less by another digit.
-/

namespace GlyphGrid.Text

/-! ## Texts without the white space around them -/

/-- `core` is a text without the white space at its two ends. -/
structure Core (cs core : List Char) : Prop where
  split : ∃ before after, cs = before ++ core ++ after ∧
    (∀ c ∈ before, isBlank c = true) ∧ ∀ c ∈ after, isBlank c = true
  head : ∀ c ∈ core.head?, isBlank c = false
  last : ∀ c ∈ core.getLast?, isBlank c = false

lemma trimmed_eq_rdropWhile (cs : List Char) :
    trimmed cs = (cs.dropWhile isBlank).rdropWhile isBlank := rfl

lemma dropWhile_eq_self_of_head? {p : Char → Bool} {cs : List Char}
    (h : ∀ c ∈ cs.head?, p c = false) : cs.dropWhile p = cs := by
  cases cs with
  | nil => rfl
  | cons c cs => exact List.dropWhile_cons_of_neg (by simp [h c rfl])

lemma trimmed_of_core {cs core : List Char} (h : Core cs core) : trimmed cs = core := by
  obtain ⟨before, after, rfl, hbefore, hafter⟩ := h.split
  have hfront : (before ++ core ++ after).dropWhile isBlank
      = (core ++ after).dropWhile isBlank := by
    rw [List.append_assoc, List.dropWhile_append_of_pos hbefore]
  have hback : (core ++ after).rdropWhile isBlank = core := by
    rw [List.rdropWhile, List.reverse_append, List.dropWhile_append_of_pos (by simpa using hafter),
      dropWhile_eq_self_of_head? (by simpa using h.last), List.reverse_reverse]
  rw [trimmed_eq_rdropWhile, hfront]
  cases core with
  | nil =>
    have hall : ([] ++ after).dropWhile isBlank = [] := List.dropWhile_eq_nil_iff.mpr hafter
    rw [hall, List.rdropWhile_nil]
  | cons c core =>
    rw [dropWhile_eq_self_of_head? (by simpa using h.head), hback]

lemma core_trimmed (cs : List Char) : Core cs (trimmed cs) := by
  rw [trimmed_eq_rdropWhile]
  have hrest : cs.dropWhile isBlank = (cs.dropWhile isBlank).rdropWhile isBlank
      ++ (cs.dropWhile isBlank).rtakeWhile isBlank := List.rdropWhile_append_rtakeWhile.symm
  refine ⟨⟨cs.takeWhile isBlank, (cs.dropWhile isBlank).rtakeWhile isBlank, ?_, ?_, ?_⟩, ?_, ?_⟩
  · rw [List.append_assoc, ← hrest, List.takeWhile_append_dropWhile]
  · exact fun c hc => List.mem_takeWhile_imp hc
  · exact fun c hc => List.mem_rtakeWhile_imp hc
  · -- What is left begins where the white space in front ended.
    intro c hc
    have hfront := cs.head?_dropWhile_not isBlank
    have hhead : (cs.dropWhile isBlank).head? = some c := by
      obtain ⟨rest, hrest⟩ := List.rdropWhile_prefix isBlank (l := cs.dropWhile isBlank)
      rw [← hrest, List.head?_append, Option.mem_def.mp hc, Option.some_or]
    rw [hhead] at hfront
    exact hfront
  · intro c hc
    obtain ⟨hne, rfl⟩ := List.mem_getLast?_eq_getLast hc
    exact Bool.not_eq_true _ ▸ List.rdropWhile_last_not isBlank _ hne

lemma trimmed_eq_iff {cs core : List Char} : trimmed cs = core ↔ Core cs core :=
  ⟨fun h => h ▸ core_trimmed cs, trimmed_of_core⟩

/-! ## Decimal digits -/

/-- One of the digits from 0 to 9, and not of those of another script. -/
def IsDecimalDigit (c : Char) : Prop := '0' ≤ c ∧ c ≤ '9'

/-- The number that decimal digits stand for, the last of them counting once. -/
def digitsValue (digits : List Char) : Nat :=
  Nat.ofDigits 10 (digits.reverse.map fun d => d.toNat - '0'.toNat)

/-- Some characters are the number `n` in decimal notation: digits, any number of them, and before
them a plus sign or none. -/
def Writes (cs : List Char) (n : Nat) : Prop :=
  ∃ sign digits, cs = sign ++ digits ∧ (sign = [] ∨ sign = ['+']) ∧ digits ≠ [] ∧
    (∀ d ∈ digits, IsDecimalDigit d) ∧ digitsValue digits = n

lemma isDigit_iff {c : Char} : c.isDigit = true ↔ IsDecimalDigit c := by
  rw [Char.isDigit, Bool.and_eq_true, decide_eq_true_iff, decide_eq_true_iff]
  rfl

/-- One digit more makes a number ten times as large and adds to it. -/
lemma digitsValue_append_singleton (digits : List Char) (d : Char) :
    digitsValue (digits ++ [d]) = digitsValue digits * 10 + (d.toNat - '0'.toNat) := by
  rw [digitsValue, List.reverse_append, List.reverse_singleton, List.singleton_append,
    List.map_cons, Nat.ofDigits_cons, Nat.add_comm, Nat.mul_comm]
  rfl

lemma foldl_eq_digitsValue (digits : List Char) :
    digits.foldl (fun n c => n * 10 + (c.toNat - '0'.toNat)) 0 = digitsValue digits := by
  induction digits using List.reverseRecOn with
  | nil => rfl
  | append_singleton digits d ih =>
    rw [List.foldl_append, ih, digitsValue_append_singleton]
    rfl

/-- Zeros in front count for nothing. -/
lemma digitsValue_replicate_append (zeros : Nat) (digits : List Char) :
    digitsValue (List.replicate zeros '0' ++ digits) = digitsValue digits := by
  rw [digitsValue, List.reverse_append, List.reverse_replicate, List.map_append, List.map_replicate]
  exact Nat.ofDigits_append_replicate_zero _

lemma decimal?_eq_some_iff {digits : List Char} {n : Nat} : decimal? digits = some n ↔
    digits ≠ [] ∧ (∀ d ∈ digits, IsDecimalDigit d) ∧ digitsValue digits = n := by
  have hall : (∀ d ∈ digits, IsDecimalDigit d) ↔ digits.all Char.isDigit = true := by
    simp only [List.all_eq_true, isDigit_iff]
  have hrefused : (digits.isEmpty || !digits.all Char.isDigit) = true ↔
      ¬(digits ≠ [] ∧ ∀ d ∈ digits, IsDecimalDigit d) := by
    rw [hall, Bool.or_eq_true, List.isEmpty_iff, Bool.not_eq_true', ← Bool.not_eq_true]
    tauto
  rw [decimal?, foldl_eq_digitsValue, ← and_assoc]
  by_cases h : digits ≠ [] ∧ ∀ d ∈ digits, IsDecimalDigit d
  · rw [if_neg (hrefused.not_left.mpr h), Option.some.injEq]
    exact (and_iff_right h).symm
  · rw [if_pos (hrefused.mpr h)]
    exact iff_of_false (Option.some_ne_none n).symm fun hvalue => h hvalue.1

lemma not_isDecimalDigit_plus : ¬ IsDecimalDigit '+' := by
  rintro ⟨h, -⟩
  exact absurd h (by decide)

/-! ## Signs -/

/-- Reads digits behind an optional plus sign in some way. -/
def unsignedBy {α : Type} (read : List Char → Option α) : List Char → Option α
  | '+' :: digits => read digits
  | digits => read digits

/-- What is read with an optional sign can be written with one. -/
lemma unsignedBy_eq_some_iff {α : Type} {read : List Char → Option α} {a : α} {n : Nat}
    (hread : ∀ digits, read digits = some a ↔
      digits ≠ [] ∧ (∀ d ∈ digits, IsDecimalDigit d) ∧ digitsValue digits = n) {cs : List Char} :
    unsignedBy read cs = some a ↔ Writes cs n := by
  constructor
  · intro h
    unfold unsignedBy at h
    split at h
    · next digits => exact ⟨['+'], digits, rfl, .inr rfl, (hread digits).mp h⟩
    · exact ⟨[], cs, rfl, .inl rfl, (hread cs).mp h⟩
  · rintro ⟨sign, digits, rfl, rfl | rfl, hdigits⟩
    · have h := (hread digits).mpr hdigits
      unfold unsignedBy
      split
      · -- Digits without a sign are not taken for a sign and digits.
        next more heq =>
        rw [List.nil_append] at heq
        exact absurd (hdigits.2.1 '+' (heq ▸ List.mem_cons_self)) not_isDecimalDigit_plus
      · exact h
    · exact (hread digits).mpr hdigits

lemma unsigned?_eq_unsignedBy (cs : List Char) : unsigned? cs = unsignedBy decimal? cs := rfl

lemma unsigned?_eq_some_iff {cs : List Char} {n : Nat} : unsigned? cs = some n ↔ Writes cs n := by
  rw [unsigned?_eq_unsignedBy]
  exact unsignedBy_eq_some_iff fun _ => decimal?_eq_some_iff

/-! ## Numbers that are kept in a byte -/

/-- A number in a byte with one more digit behind it, if this is a byte again. -/
def pushDigit? (b : UInt8) (c : Char) : Option UInt8 :=
  if c.isDigit ∧ b.toNat * 10 + (c.toNat - '0'.toNat) < 256
  then some (b * 10 + UInt8.ofNat (c.toNat - '0'.toNat)) else none

/-- As `decimal?`, and keeps the number in a byte. -/
def decimalByte? (digits : List Char) : Option UInt8 :=
  if digits.isEmpty then none else digits.foldlM pushDigit? 0

/-- As `unsigned?`, and keeps the number in a byte. -/
def byte? : List Char → Option UInt8 := unsignedBy decimalByte?

lemma pushDigit?_eq_some_iff {b later : UInt8} {c : Char} : pushDigit? b c = some later ↔
    IsDecimalDigit c ∧ b.toNat * 10 + (c.toNat - '0'.toNat) = later.toNat := by
  rw [pushDigit?, ← isDigit_iff]
  generalize c.toNat - '0'.toNat = d
  by_cases h : c.isDigit ∧ b.toNat * 10 + d < 256
  · have hsum : (b * 10 + UInt8.ofNat d).toNat = b.toNat * 10 + d := by
      rw [UInt8.toNat_add, UInt8.toNat_mul, UInt8.toNat_ofNat']
      change (b.toNat * 10 % 256 + d % 256) % 256 = _
      omega
    rw [if_pos h, Option.some.injEq, ← UInt8.toNat_inj, hsum]
    exact (and_iff_right h.1).symm
  · rw [if_neg h]
    refine iff_of_false (Option.some_ne_none later).symm fun hsum => h ⟨hsum.1, ?_⟩
    rw [hsum.2]
    exact later.toNat_lt

/-- Digits fit into a byte one by one if their number does: it is greater than all those before. -/
lemma foldlM_pushDigit?_eq_some_iff {digits : List Char} {b : UInt8} :
    digits.foldlM pushDigit? 0 = some b ↔
      (∀ d ∈ digits, IsDecimalDigit d) ∧ digitsValue digits = b.toNat := by
  induction digits using List.reverseRecOn generalizing b with
  | nil => simp [digitsValue, ← UInt8.toNat_inj]
  | append_singleton digits d ih =>
    rw [List.foldlM_append, digitsValue_append_singleton]
    constructor
    · intro h
      obtain ⟨before, hbefore, hpush⟩ := Option.bind_eq_some_iff.mp h
      obtain ⟨hdigits, hvalue⟩ := ih.mp hbefore
      rw [List.foldlM_cons] at hpush
      obtain ⟨hd, hsum⟩ := pushDigit?_eq_some_iff.mp ((bind_pure _).symm.trans hpush)
      refine ⟨fun c hc => ?_, hvalue ▸ hsum⟩
      rcases List.mem_append.mp hc with hc | hc
      · exact hdigits c hc
      · exact List.mem_singleton.mp hc ▸ hd
    · rintro ⟨hdigits, hsum⟩
      have hlt : b.toNat < 256 := b.toNat_lt
      have hvalue : digitsValue digits = (UInt8.ofNat (digitsValue digits)).toNat :=
        (UInt8.toNat_ofNat_of_lt' (by change _ < 256; omega)).symm
      have hbefore := ih.mpr ⟨fun c hc => hdigits c (List.mem_append_left [d] hc), hvalue⟩
      have hd := hdigits d (List.mem_append_right digits List.mem_cons_self)
      have hpush : pushDigit? (UInt8.ofNat (digitsValue digits)) d = some b :=
        pushDigit?_eq_some_iff.mpr ⟨hd, hvalue ▸ hsum⟩
      rw [hbefore]
      simp [hpush]

lemma byte?_eq_some_iff {cs : List Char} {b : UInt8} : byte? cs = some b ↔ Writes cs b.toNat := by
  refine unsignedBy_eq_some_iff fun digits => ?_
  cases digits with
  | nil => exact iff_of_false (Option.some_ne_none b).symm fun h => h.1 rfl
  | cons d digits =>
    change (d :: digits).foldlM pushDigit? 0 = some b ↔ _
    rw [foldlM_pushDigit?_eq_some_iff]
    exact (and_iff_right (List.cons_ne_nil d digits)).symm

end GlyphGrid.Text
