import GlyphGrid.Log.Level
import GlyphGrid.Proofs.Text.Numerals

/-!
# Thresholds that are named by their numbers

The text of an environment variable names a threshold if it is the number of one, in decimal
notation and with any white space around it.  `ReadsNumbers` says that there is no other way to name
one and that each of these ways does: signs, digits and white space may be combined as they like, in
texts of any length, and it is their value alone that decides.

There are five numbers, so that a number which does not fit into a byte names nothing.  To keep the
number in a byte while its digits are read makes no difference, since it is noticed at the first
digit that is too many and never comes round to a small number again.
-/

namespace GlyphGrid.LogLevel

open Text

/-- The thresholds that have a number, each of them at the place of its number. -/
def numbered : List LogLevel := [.off, .error, .info, .debug, .trace]

/-- How a text names a threshold by its number. -/
structure ReadsNumbers (text : String) : Prop where
  /-- A text is the number of a threshold, or it names none. -/
  eq_some_iff : ∀ n level, numbered[n]? = some level →
    (ofVariable? text = some level ↔ ∃ core, Core text.toList core ∧ Writes core n)
  eq_none_iff : ofVariable? text = none ↔ ∀ core n, Core text.toList core → Writes core n → 4 < n
  /-- A character that is neither a digit nor a plus sign spoils a text: a minus sign, white space
  between digits, a digit of another script. -/
  stray : ∀ core, Core text.toList core → ∀ c ∈ core, c ≠ '+' → ¬ IsDecimalDigit c →
    ofVariable? text = none
  /-- A plus sign must stand in front. -/
  late_plus : ∀ core, Core text.toList core → '+' ∈ core.tail → ofVariable? text = none
  /-- There must be a digit. -/
  bare : ∀ core, Core text.toList core → core = [] ∨ core = ['+'] → ofVariable? text = none
  /-- Zeros in front count for nothing, however many there are. -/
  leading_zeros : ∀ sign zeros digits,
    Core text.toList (sign ++ (List.replicate zeros '0' ++ digits)) → sign = [] ∨ sign = ['+'] →
      digits ≠ [] → (∀ d ∈ digits, IsDecimalDigit d) →
      ofVariable? text = numbered[digitsValue digits]?
  /-- No number that is too great is taken for a small one. -/
  too_great : ∀ core n, Core text.toList core → Writes core n → 4 < n → ofVariable? text = none
  /-- A byte is enough to read the number in, one digit after the other. -/
  in_byte : ∀ core, Core text.toList core →
    ofVariable? text = (byte? core).bind fun b => numbered[b.toNat]?

lemma ofNumber?_eq_getElem? (n : Nat) : ofNumber? n = numbered[n]? := by
  match n with
  | 0 | 1 | 2 | 3 | 4 => rfl
  | n + 5 => rfl

lemma eq_of_numbered {m n : Nat} {level : LogLevel} (hm : numbered[m]? = some level)
    (hn : numbered[n]? = some level) : m = n := by
  obtain ⟨hlt, -⟩ := List.getElem?_eq_some_iff.mp hm
  exact (List.getElem?_inj hlt (by decide)).mp (hm.trans hn.symm)

lemma numbered_eq_none_iff {n : Nat} : numbered[n]? = none ↔ 4 < n :=
  List.getElem?_eq_none_iff

variable {text : String} {core : List Char}

lemma ofVariable?_eq (h : Core text.toList core) :
    ofVariable? text = (unsigned? core).bind fun n => numbered[n]? := by
  rw [ofVariable?, trimmed_of_core h]
  congr 1
  funext n
  exact ofNumber?_eq_getElem? n

lemma ofVariable?_of_writes (h : Core text.toList core) {n : Nat} (hn : Writes core n) :
    ofVariable? text = numbered[n]? := by
  rw [ofVariable?_eq h, unsigned?_eq_some_iff.mpr hn, Option.bind_some]

lemma ofVariable?_eq_none_of_not_writes (h : Core text.toList core) (hn : ∀ n, ¬ Writes core n) :
    ofVariable? text = none := by
  have hread : unsigned? core = none :=
    Option.eq_none_iff_forall_ne_some.mpr fun n hread => hn n (unsigned?_eq_some_iff.mp hread)
  rw [ofVariable?_eq h, hread, Option.bind_none]

/-- Only digits, and a plus sign in front, stand in a number. -/
lemma not_writes_of_stray {c : Char} (hmem : c ∈ core) (hplus : c ≠ '+')
    (hdigit : ¬ IsDecimalDigit c) (n : Nat) : ¬ Writes core n := by
  rintro ⟨sign, digits, rfl, hsign, -, hdigits, -⟩
  rcases List.mem_append.mp hmem with h | h
  · rcases hsign with rfl | rfl
    · cases h
    · exact hplus (List.mem_singleton.mp h)
  · exact hdigit (hdigits c h)

lemma not_writes_of_late_plus (h : '+' ∈ core.tail) (n : Nat) : ¬ Writes core n := by
  rintro ⟨sign, digits, rfl, rfl | rfl, -, hdigits, -⟩
  · exact not_isDecimalDigit_plus (hdigits '+' (List.mem_of_mem_tail h))
  · exact not_isDecimalDigit_plus (hdigits '+' h)

lemma not_writes_of_bare (h : core = [] ∨ core = ['+']) (n : Nat) : ¬ Writes core n := by
  rintro ⟨sign, digits, rfl, hsign, hne, hdigits, -⟩
  obtain ⟨d, digits, rfl⟩ := List.exists_cons_of_ne_nil hne
  rcases hsign with rfl | rfl
  · rcases h with h | h
    · cases h
    · obtain ⟨rfl, -⟩ := List.cons.inj h
      exact not_isDecimalDigit_plus (hdigits '+' List.mem_cons_self)
  · rcases h with h | h
    · cases h
    · cases (List.cons.inj h).2

/-- A number that is one of the thresholds' is a byte, and all others name nothing. -/
lemma bind_byte? : (unsigned? core).bind (fun n => numbered[n]?)
    = (byte? core).bind fun b => numbered[b.toNat]? := by
  ext level
  simp only [Option.bind_eq_some_iff, unsigned?_eq_some_iff, byte?_eq_some_iff]
  constructor
  · rintro ⟨n, hn, hlevel⟩
    have hlt : n < 5 := (List.getElem?_eq_some_iff.mp hlevel).1
    have hbyte : (UInt8.ofNat n).toNat = n :=
      UInt8.toNat_ofNat_of_lt' (Nat.lt_trans hlt (by decide))
    exact ⟨UInt8.ofNat n, hbyte.symm ▸ hn, hbyte.symm ▸ hlevel⟩
  · rintro ⟨b, hb, hlevel⟩
    exact ⟨b.toNat, hb, hlevel⟩

/-- **A threshold is named by its number.**  Whatever the text of the variable is, it names the
threshold whose number it writes between white space, and none if it writes no such number. -/
theorem ofVariable_readsNumbers (text : String) : ReadsNumbers text := by
  have htrimmed := core_trimmed text.toList
  constructor
  case eq_some_iff =>
    intro n level hlevel
    constructor
    · intro h
      rw [ofVariable?_eq htrimmed] at h
      obtain ⟨m, hm, hsame⟩ := Option.bind_eq_some_iff.mp h
      rw [← eq_of_numbered hsame hlevel]
      exact ⟨_, htrimmed, unsigned?_eq_some_iff.mp hm⟩
    · rintro ⟨core, hcore, hn⟩
      exact (ofVariable?_of_writes hcore hn).trans hlevel
  case eq_none_iff =>
    constructor
    · intro h core n hcore hn
      exact numbered_eq_none_iff.mp ((ofVariable?_of_writes hcore hn).symm.trans h)
    · intro h
      rw [ofVariable?_eq htrimmed, Option.bind_eq_none_iff]
      intro n hn
      exact numbered_eq_none_iff.mpr (h _ n htrimmed (unsigned?_eq_some_iff.mp hn))
  case stray =>
    intro core hcore c hmem hplus hdigit
    exact ofVariable?_eq_none_of_not_writes hcore (not_writes_of_stray hmem hplus hdigit)
  case late_plus =>
    intro core hcore h
    exact ofVariable?_eq_none_of_not_writes hcore (not_writes_of_late_plus h)
  case bare =>
    intro core hcore h
    exact ofVariable?_eq_none_of_not_writes hcore (not_writes_of_bare h)
  case leading_zeros =>
    intro sign zeros digits hcore hsign hne hdigits
    refine ofVariable?_of_writes hcore ⟨sign, _, rfl, hsign, ?_, ?_, ?_⟩
    · exact List.append_ne_nil_of_right_ne_nil _ hne
    · intro d hd
      rcases List.mem_append.mp hd with h | h
      · exact List.eq_of_mem_replicate h ▸ isDigit_iff.mp (by decide)
      · exact hdigits d h
    · exact digitsValue_replicate_append zeros digits
  case too_great =>
    intro core n hcore hn hgreat
    exact (ofVariable?_of_writes hcore hn).trans (numbered_eq_none_iff.mpr hgreat)
  case in_byte =>
    intro core hcore
    rw [ofVariable?_eq hcore, bind_byte?]

example : ofVariable? "\u3000+003\n" = some .debug ∧ ofVariable? "260" = none ∧
    ofVariable? "-0" = none ∧ ofVariable? "٣" = none := by
  decide

end GlyphGrid.LogLevel
