import Mathlib.Data.List.Basic
import Mathlib.Tactic.Common
import GlyphGrid.Proofs.Text.Decoding

/-!
# Broken bytes

Bytes that are no text are cut into characters and broken pieces.  Where no character can be read,
the piece that is broken is the longest one with which some character begins, or a single byte if
none begins so (`IsMaximalSubpart`), and reading goes on behind it.  `Decodes` states this cut of
the bytes without a word about how they are read.

`Reader` finds it without looking back.  While it reads a character, every byte between its two
bounds and then any continuation bytes lead to a character, and no other byte does
(`Reader.Awaits`): this is what lets it end a piece at the first byte that does not fit.  So the cut
that it finds is the one there is (`decodes_iff`).

Only the first byte of a character is no continuation byte.  Bytes that begin with none are
therefore cut as they are on their own, whatever broken bytes stand before them (`units_append`).
-/

namespace GlyphGrid.Utf8

/-- Bytes are UTF-8 if they are the bytes of some characters. -/
def IsUtf8 (bytes : List UInt8) : Prop := bytes.toByteArray.IsValidUTF8

/-- A byte that stands in a character behind its first byte. -/
def IsContinuation (b : UInt8) : Prop := 0x80 ≤ b ∧ b ≤ 0xBF

instance (b : UInt8) : Decidable (IsContinuation b) := inferInstanceAs (Decidable (_ ∧ _))

/-- Some character begins with these bytes. -/
def BeginsChar (piece : List UInt8) : Prop := ∃ c, piece <+: String.utf8EncodeChar c

/-- What is broken where no character can be read: the longest piece with which a character begins,
and one byte if there is none. -/
structure IsMaximalSubpart (piece bytes : List UInt8) : Prop where
  atFront : piece <+: bytes
  nonempty : piece ≠ []
  begins : piece.length = 1 ∨ BeginsChar piece
  longest : ∀ other, other <+: bytes → BeginsChar other → other.length ≤ piece.length

/-- Bytes are cut into characters and broken pieces, for which `none` stands. -/
inductive Decodes : List UInt8 → List (Option Char) → Prop
  | nil : Decodes [] []
  | char (c : Char) {rest : List UInt8} {us : List (Option Char)} (later : Decodes rest us) :
      Decodes (String.utf8EncodeChar c ++ rest) (some c :: us)
  | broken {piece rest : List UInt8} {us : List (Option Char)}
      (noChar : ∀ c, ¬ String.utf8EncodeChar c <+: piece ++ rest)
      (subpart : IsMaximalSubpart piece (piece ++ rest)) (later : Decodes rest us) :
      Decodes (piece ++ rest) (none :: us)

/-! ## Pieces -/

section

variable {piece other rest bytes : List UInt8}

lemma BeginsChar.of_prefix (h : BeginsChar piece) (hfront : other <+: piece) : BeginsChar other :=
  h.imp fun _ hc => hfront.trans hc

/-- A piece is as long as it can be if no character goes on with the byte behind it. -/
lemma isMaximalSubpart_of_stops (nonempty : piece ≠ [])
    (begins : piece.length = 1 ∨ BeginsChar piece)
    (stops : ∀ b ∈ rest.head?, ¬ BeginsChar (piece ++ [b])) :
    IsMaximalSubpart piece (piece ++ rest) := by
  refine ⟨List.prefix_append _ _, nonempty, begins, fun other hfront hother => ?_⟩
  by_contra hlong
  rw [Nat.not_le] at hlong
  cases rest with
  | nil =>
    rw [List.append_nil] at hfront
    exact Nat.not_lt.mpr hfront.length_le hlong
  | cons b rest =>
    have hpiece : piece ++ [b] <+: piece ++ b :: rest := by simp
    have hnext : piece ++ [b] <+: other :=
      List.prefix_of_prefix_length_le hpiece hfront (by simpa [Nat.succ_le_iff] using hlong)
    exact stops b rfl (hother.of_prefix hnext)

lemma IsMaximalSubpart.length_le (h : IsMaximalSubpart piece bytes)
    (hother : IsMaximalSubpart other bytes) : piece.length ≤ other.length := by
  rcases h.begins with hone | hbegins
  · rw [hone]
    exact List.length_pos_iff.mpr hother.nonempty
  · exact hother.longest piece h.atFront hbegins

lemma IsMaximalSubpart.unique (h : IsMaximalSubpart piece bytes)
    (hother : IsMaximalSubpart other bytes) : piece = other :=
  (List.prefix_of_prefix_length_le h.atFront hother.atFront (h.length_le hother)).eq_of_length
    (Nat.le_antisymm (h.length_le hother) (hother.length_le h))

end

/-! ## The bytes of a character -/

lemma toNat_ofNat_of_isValidChar {n : Nat} (h : n.isValidChar) : (Char.ofNat n).toNat = n := by
  rw [Char.ofNat, dif_pos h]
  rfl

lemma isContinuation_ofNat {n : Nat} (hn : n < 64) : IsContinuation (UInt8.ofNat (n + 128)) := by
  have hbyte : (UInt8.ofNat (n + 128)).toNat = n + 128 :=
    UInt8.toNat_ofNat_of_lt' (Nat.lt_trans (Nat.add_lt_add_right hn 128) (by decide))
  rw [IsContinuation, UInt8.le_iff_toNat_le, UInt8.le_iff_toNat_le, hbyte]
  change 128 ≤ n + 128 ∧ n + 128 ≤ 191
  omega

/-- A byte between two bounds among the continuation bytes has six bits. -/
lemma exists_bits {low high b : UInt8} (hlow : 0x80 ≤ low) (hhigh : high ≤ 0xBF) (h : low ≤ b)
    (h' : b ≤ high) :
    ∃ n < 64, b = UInt8.ofNat (n + 128) ∧ low.toNat ≤ n + 128 ∧ n + 128 ≤ high.toNat := by
  rw [UInt8.le_iff_toNat_le] at hlow hhigh h h'
  have hleast : 128 ≤ b.toNat := Nat.le_trans hlow h
  have hmost : b.toNat ≤ 191 := Nat.le_trans h' hhigh
  refine ⟨b.toNat - 128, by omega, ?_⟩
  rw [Nat.sub_add_cancel hleast, UInt8.ofNat_toNat]
  exact ⟨rfl, h, h'⟩

lemma IsContinuation.exists_bits {b : UInt8} (h : IsContinuation b) :
    ∃ n < 64, b = UInt8.ofNat (n + 128) := by
  obtain ⟨n, hn, hb, -⟩ := Utf8.exists_bits (UInt8.le_refl _) (UInt8.le_refl _) h.1 h.2
  exact ⟨n, hn, hb⟩

lemma isContinuation_of_mem_tail {c : Char} {b : UInt8} (h : b ∈ (String.utf8EncodeChar c).tail) :
    IsContinuation b := by
  unfold String.utf8EncodeChar at h
  simp only at h
  split_ifs at h
  all_goals simp only [List.tail_cons, List.mem_cons, List.not_mem_nil, or_false] at h
  · rw [h]
    exact isContinuation_ofNat (Nat.mod_lt _ (by decide))
  · rcases h with rfl | rfl
    all_goals exact isContinuation_ofNat (Nat.mod_lt _ (by decide))
  · rcases h with rfl | rfl | rfl
    all_goals exact isContinuation_ofNat (Nat.mod_lt _ (by decide))

section

variable {a b d e : Nat}

lemma utf8EncodeChar_one (ha : a < 128) :
    String.utf8EncodeChar (Char.ofNat a) = [UInt8.ofNat a] := by
  have hval : (Char.ofNat a).val.toNat = a := toNat_ofNat_of_isValidChar (.inl (by omega))
  simp only [String.utf8EncodeChar, hval]
  rw [if_pos (by omega)]

lemma utf8EncodeChar_two (ha : a < 32) (hlong : 2 ≤ a) (hb : b < 64) :
    String.utf8EncodeChar (Char.ofNat (a * 64 + b))
      = [UInt8.ofNat (a + 192), UInt8.ofNat (b + 128)] := by
  have hval : (Char.ofNat (a * 64 + b)).val.toNat = a * 64 + b :=
    toNat_ofNat_of_isValidChar (.inl (by omega))
  have hfirst : (a * 64 + b) / 64 % 32 = a := by omega
  have hsecond : (a * 64 + b) % 64 = b := by omega
  simp only [String.utf8EncodeChar, hval]
  rw [if_neg (by omega), if_pos (by omega), hfirst, hsecond]

lemma utf8EncodeChar_three (ha : a < 16) (hb : b < 64) (hd : d < 64) (hlong : a = 0 → 32 ≤ b)
    (hsurrogate : a = 13 → b < 32) :
    String.utf8EncodeChar (Char.ofNat ((a * 64 + b) * 64 + d))
      = [UInt8.ofNat (a + 224), UInt8.ofNat (b + 128), UInt8.ofNat (d + 128)] := by
  have hval : (Char.ofNat ((a * 64 + b) * 64 + d)).val.toNat = (a * 64 + b) * 64 + d := by
    refine toNat_ofNat_of_isValidChar ?_
    unfold Nat.isValidChar
    omega
  have hfirst : ((a * 64 + b) * 64 + d) / 4096 % 16 = a := by omega
  have hsecond : ((a * 64 + b) * 64 + d) / 64 % 64 = b := by omega
  have hthird : ((a * 64 + b) * 64 + d) % 64 = d := by omega
  simp only [String.utf8EncodeChar, hval]
  rw [if_neg (by omega), if_neg (by omega), if_pos (by omega), hfirst, hsecond, hthird]

lemma utf8EncodeChar_four (ha : a < 5) (hb : b < 64) (hd : d < 64) (he : e < 64)
    (hlong : a = 0 → 16 ≤ b) (hlast : a = 4 → b < 16) :
    String.utf8EncodeChar (Char.ofNat (((a * 64 + b) * 64 + d) * 64 + e))
      = [UInt8.ofNat (a + 240), UInt8.ofNat (b + 128), UInt8.ofNat (d + 128),
        UInt8.ofNat (e + 128)] := by
  have hval : (Char.ofNat (((a * 64 + b) * 64 + d) * 64 + e)).val.toNat
      = ((a * 64 + b) * 64 + d) * 64 + e := by
    refine toNat_ofNat_of_isValidChar (.inr ?_)
    omega
  have hfirst : (((a * 64 + b) * 64 + d) * 64 + e) / 262144 % 8 = a := by omega
  have hsecond : (((a * 64 + b) * 64 + d) * 64 + e) / 4096 % 64 = b := by omega
  have hthird : (((a * 64 + b) * 64 + d) * 64 + e) / 64 % 64 = d := by omega
  have hfourth : (((a * 64 + b) * 64 + d) * 64 + e) % 64 = e := by omega
  simp only [String.utf8EncodeChar, hval]
  rw [if_neg (by omega), if_neg (by omega), if_neg (by omega), hfirst, hsecond, hthird, hfourth]

end

/-! ## What a reader waits for -/

/-- A reader was given bytes with which a character begins.  It waits for a byte between two bounds
and for `more` continuation bytes behind that one, and any such bytes end a character. -/
structure Reader.Awaits (read : List UInt8) (more : Nat) (low high : UInt8) (bits : Nat) :
    Prop where
  nonempty : read ≠ []
  run_eq : ∀ rest,
    Reader.idle.run (read ++ rest) = (Reader.pending (more + 1) low high bits).run rest
  low_le_high : low ≤ high
  complete : ∀ b rest, low ≤ b → b ≤ high → rest.length = more → (∀ x ∈ rest, IsContinuation x) →
    ∃ c, String.utf8EncodeChar c = read ++ b :: rest

/-- A byte that is not waited for ends the piece before it, and is read as if nothing stood
there. -/
lemma Reader.run_pending_stop {due bits : Nat} {low high b : UInt8} (hb : ¬ (low ≤ b ∧ b ≤ high))
    (rest : List UInt8) :
    (Reader.pending due low high bits).run (b :: rest) = none :: Reader.idle.run (b :: rest) := by
  rw [Reader.run, Reader.step, if_neg hb]
  rfl

namespace Reader.Awaits

variable {read : List UInt8} {more bits : Nat} {low high b : UInt8}

lemma beginsChar (h : Awaits read more low high bits) : BeginsChar read := by
  obtain ⟨c, hc⟩ := h.complete low (List.replicate more 0x80) (UInt8.le_refl _) h.low_le_high
    List.length_replicate fun x hx => by rw [List.eq_of_mem_replicate hx]; decide
  exact ⟨c, _, hc.symm⟩

/-- No character goes on with a byte that is not waited for. -/
lemma not_beginsChar (h : Awaits read more low high bits) (hb : ¬ (low ≤ b ∧ b ≤ high)) :
    ¬ BeginsChar (read ++ [b]) := by
  rintro ⟨c, rest, hc⟩
  have hrun := run_utf8EncodeChar [] c
  rw [← hc, List.append_assoc, List.append_assoc, h.run_eq, List.singleton_append,
    Reader.run_pending_stop hb] at hrun
  cases List.head_eq_of_cons_eq hrun

/-- A byte that is waited for leads on. -/
lemma next (h : Awaits read (more + 1) low high bits) (hlow : low ≤ b) (hhigh : b ≤ high) :
    Awaits (read ++ [b]) more 0x80 0xBF (bits * 64 + (b.toNat - 0x80)) where
  nonempty := List.append_ne_nil_of_right_ne_nil _ (List.cons_ne_nil _ _)
  run_eq rest := by
    rw [List.append_assoc, h.run_eq, List.singleton_append, Reader.run, Reader.step,
      if_pos ⟨hlow, hhigh⟩]
    rfl
  low_le_high := by decide
  complete x rest hx hx' hlength hrest := by
    obtain ⟨c, hc⟩ := h.complete b (x :: rest) hlow hhigh (by rw [List.length_cons, hlength])
      (List.forall_mem_cons.mpr ⟨⟨hx, hx'⟩, hrest⟩)
    exact ⟨c, by rw [hc, List.append_assoc, List.singleton_append]⟩

end Reader.Awaits

/-! ## First bytes -/

section

variable {n : Nat}

lemma Reader.awaits_two (hn : n < 32) (hlong : 2 ≤ n) :
    Reader.Awaits [UInt8.ofNat (n + 192)] 0 0x80 0xBF n where
  nonempty := List.cons_ne_nil _ _
  run_eq rest := by
    rw [List.singleton_append, Reader.run, Reader.step, Reader.lead_two n hn hlong]
    rfl
  low_le_high := by decide
  complete x rest hx hx' hlength _ := by
    obtain ⟨b, hb, rfl⟩ := IsContinuation.exists_bits ⟨hx, hx'⟩
    rw [List.eq_nil_of_length_eq_zero hlength]
    exact ⟨_, utf8EncodeChar_two hn hlong hb⟩

lemma Reader.awaits_three (hn : n < 16) :
    Reader.Awaits [UInt8.ofNat (n + 224)] 1 (if n = 0 then 0xA0 else 0x80)
      (if n = 13 then 0x9F else 0xBF) n where
  nonempty := List.cons_ne_nil _ _
  run_eq rest := by
    rw [List.singleton_append, Reader.run, Reader.step, Reader.lead_three n hn]
    rfl
  low_le_high := by
    split_ifs
    · omega
    all_goals decide
  complete x rest hx hx' hlength hrest := by
    obtain ⟨y, rfl⟩ := List.length_eq_one_iff.mp hlength
    obtain ⟨d, hd, rfl⟩ := (List.forall_mem_singleton.mp hrest).exists_bits
    obtain ⟨b, hb, rfl, hlow, hhigh⟩ :=
      exists_bits (by split_ifs <;> decide) (by split_ifs <;> decide) hx hx'
    refine ⟨_, utf8EncodeChar_three hn hb hd ?_ ?_⟩
    · rintro rfl
      change 160 ≤ b + 128 at hlow
      omega
    · rintro rfl
      change b + 128 ≤ 159 at hhigh
      omega

lemma Reader.awaits_four (hn : n < 5) :
    Reader.Awaits [UInt8.ofNat (n + 240)] 2 (if n = 0 then 0x90 else 0x80)
      (if n = 4 then 0x8F else 0xBF) n where
  nonempty := List.cons_ne_nil _ _
  run_eq rest := by
    rw [List.singleton_append, Reader.run, Reader.step, Reader.lead_four n hn]
    rfl
  low_le_high := by
    split_ifs
    · omega
    all_goals decide
  complete x rest hx hx' hlength hrest := by
    obtain ⟨y, z, rfl⟩ := List.length_eq_two.mp hlength
    rw [List.forall_mem_cons, List.forall_mem_singleton] at hrest
    obtain ⟨d, hd, rfl⟩ := hrest.1.exists_bits
    obtain ⟨e, he, rfl⟩ := hrest.2.exists_bits
    obtain ⟨b, hb, rfl, hlow, hhigh⟩ :=
      exists_bits (by split_ifs <;> decide) (by split_ifs <;> decide) hx hx'
    refine ⟨_, utf8EncodeChar_four hn hb hd he ?_ ?_⟩
    · rintro rfl
      change 144 ≤ b + 128 at hlow
      omega
    · rintro rfl
      change b + 128 ≤ 143 at hhigh
      omega

lemma Reader.lead_broken :
    ∀ n < 256, 128 ≤ n ∧ n < 194 ∨ 245 ≤ n → Reader.lead (UInt8.ofNat n) = ([none], .idle) := by
  decide +kernel

lemma Reader.run_broken {b : UInt8} (hb : Reader.lead b = ([none], .idle)) (rest : List UInt8) :
    Reader.idle.run (b :: rest) = none :: Reader.idle.run rest := by
  rw [Reader.run, Reader.step, hb]
  rfl

end

lemma not_beginsChar_of_broken {b : UInt8} (hb : Reader.lead b = ([none], .idle)) :
    ¬ BeginsChar [b] := by
  rintro ⟨c, rest, hc⟩
  have hrun := run_utf8EncodeChar [] c
  rw [← hc, List.append_nil, List.singleton_append, Reader.run_broken hb] at hrun
  cases List.head_eq_of_cons_eq hrun

/-- A character begins with no continuation byte. -/
lemma not_isContinuation_of_mem_head? {c : Char} {b : UInt8}
    (h : b ∈ (String.utf8EncodeChar c).head?) : ¬ IsContinuation b := by
  intro hcontinues
  obtain ⟨n, hn, rfl⟩ := hcontinues.exists_bits
  obtain ⟨rest, hrest⟩ := List.head?_eq_some_iff.mp h
  refine not_beginsChar_of_broken (Reader.lead_broken (n + 128) (by omega) (by omega)) ⟨c, rest, ?_⟩
  rw [List.singleton_append, hrest]

variable {bytes rest : List UInt8}

/-- A first byte is a character, or broken, or leads to more bytes. -/
lemma Reader.lead_cases (b : UInt8) : (∃ c, String.utf8EncodeChar c = [b]) ∨
    Reader.lead b = ([none], .idle) ∨
      ∃ more low high bits, Reader.Awaits [b] more low high bits := by
  obtain ⟨n, hn, rfl⟩ : ∃ n < 256, b = UInt8.ofNat n :=
    ⟨b.toNat, b.toNat_lt, UInt8.ofNat_toNat.symm⟩
  by_cases hascii : n < 128
  · exact .inl ⟨_, utf8EncodeChar_one hascii⟩
  by_cases hbroken : n < 194 ∨ 245 ≤ n
  · exact .inr (.inl (Reader.lead_broken n hn (by omega)))
  refine .inr (.inr ?_)
  by_cases htwo : n < 224
  · obtain ⟨m, rfl⟩ := Nat.exists_eq_add_of_le' (show 192 ≤ n by omega)
    exact ⟨_, _, _, _, Reader.awaits_two (by omega) (by omega)⟩
  by_cases hthree : n < 240
  · obtain ⟨m, rfl⟩ := Nat.exists_eq_add_of_le' (show 224 ≤ n by omega)
    exact ⟨_, _, _, _, Reader.awaits_three (by omega)⟩
  · obtain ⟨m, rfl⟩ := Nat.exists_eq_add_of_le' (show 240 ≤ n by omega)
    exact ⟨_, _, _, _, Reader.awaits_four (by omega)⟩

/-! ## Cutting bytes -/

/-- Where no character can be read a reader that waits for more ends the broken piece, and goes on
behind it. -/
lemma Reader.Awaits.exists_broken {read : List UInt8} {more bits : Nat} {low high : UInt8}
    (h : Reader.Awaits read more low high bits)
    (noChar : ∀ c, ¬ String.utf8EncodeChar c <+: read ++ rest) :
    ∃ piece left, read ++ rest = piece ++ left ∧ IsMaximalSubpart piece (piece ++ left) ∧
      units (piece ++ left) = none :: units left := by
  -- Each byte that fits is moved to those that were read; the one that would be the last of a
  -- character cannot fit, as no character can be read.
  induction rest generalizing read more low high bits with
  | nil =>
    refine ⟨read, [], rfl, isMaximalSubpart_of_stops h.nonempty (.inr h.beginsChar) ?_, ?_⟩
    · exact fun _ hb => absurd hb (Option.not_mem_none _)
    · rw [units, h.run_eq]
      rfl
  | cons b rest ih =>
    by_cases hrange : low ≤ b ∧ b ≤ high
    · cases more with
      | zero =>
        obtain ⟨c, hc⟩ := h.complete b [] hrange.1 hrange.2 rfl (List.forall_mem_nil _)
        refine absurd ?_ (noChar c)
        rw [hc]
        exact ⟨rest, by rw [List.append_assoc, List.singleton_append]⟩
      | succ more =>
        rw [← List.singleton_append, ← List.append_assoc] at noChar ⊢
        exact ih (h.next hrange.1 hrange.2) noChar
    · refine ⟨read, b :: rest, rfl, isMaximalSubpart_of_stops h.nonempty (.inr h.beginsChar) ?_, ?_⟩
      · intro x hx
        rw [← Option.some.inj hx]
        exact h.not_beginsChar hrange
      · rw [units, h.run_eq, Reader.run_pending_stop hrange]
        rfl

/-- Where no character can be read, a reader takes the maximal subpart for broken. -/
lemma exists_broken (nonempty : bytes ≠ [])
    (noChar : ∀ c, ¬ String.utf8EncodeChar c <+: bytes) :
    ∃ piece left, bytes = piece ++ left ∧ IsMaximalSubpart piece (piece ++ left) ∧
      units (piece ++ left) = none :: units left := by
  obtain ⟨b, rest, rfl⟩ := List.exists_cons_of_ne_nil nonempty
  rw [← List.singleton_append] at noChar ⊢
  obtain ⟨c, hc⟩ | hbroken | ⟨more, low, high, bits, hawaits⟩ := Reader.lead_cases b
  · rw [← hc] at noChar
    exact absurd (List.prefix_append _ _) (noChar c)
  · refine ⟨[b], rest, rfl, isMaximalSubpart_of_stops (List.cons_ne_nil _ _) (.inl rfl) ?_, ?_⟩
    · exact fun x _ h => not_beginsChar_of_broken hbroken (h.of_prefix (List.prefix_append [b] [x]))
    · exact Reader.run_broken hbroken rest
  · exact hawaits.exists_broken noChar

/-- What is read is a cut of the bytes. -/
lemma decodes_units (bytes : List UInt8) : Decodes bytes (units bytes) := by
  induction hsize : bytes.length using Nat.strongRecOn generalizing bytes with
  | _ size ih =>
    subst hsize
    by_cases nonempty : bytes = []
    · rw [nonempty]
      exact .nil
    by_cases hchar : ∃ c, String.utf8EncodeChar c <+: bytes
    · obtain ⟨c, rest, rfl⟩ := hchar
      rw [units, run_utf8EncodeChar]
      refine .char c (ih rest.length ?_ rest rfl)
      rw [List.length_append, String.length_utf8EncodeChar]
      exact Nat.lt_add_of_pos_left c.utf8Size_pos
    · obtain ⟨piece, left, rfl, subpart, hunits⟩ := exists_broken nonempty (not_exists.mp hchar)
      rw [hunits]
      refine .broken (not_exists.mp hchar) subpart (ih left.length ?_ left rfl)
      rw [List.length_append]
      exact Nat.lt_add_of_pos_left (List.length_pos_iff.mpr subpart.nonempty)

/-- There is one cut of the bytes, and it is what is read. -/
lemma decodes_iff {us : List (Option Char)} : Decodes bytes us ↔ us = units bytes := by
  refine ⟨fun h => ?_, fun h => h ▸ decodes_units bytes⟩
  induction h with
  | nil => rfl
  | char c _ ih => rw [units, run_utf8EncodeChar, ih, units]
  | @broken piece rest us noChar subpart _ ih =>
    have nonempty : piece ++ rest ≠ [] := List.append_ne_nil_of_left_ne_nil subpart.nonempty _
    obtain ⟨other, left, hsplit, hother, hunits⟩ := exists_broken nonempty noChar
    rw [hsplit] at subpart
    obtain rfl := subpart.unique hother
    rw [hsplit, hunits, ih, List.append_cancel_left hsplit]

/-! ## Bytes that are a text -/

lemma isUtf8_iff : IsUtf8 bytes ↔ ∃ cs, bytes = encode cs := by
  constructor
  · rintro ⟨cs, h⟩
    exact ⟨cs, List.toByteArray_inj.mp h⟩
  · rintro ⟨cs, rfl⟩
    exact ⟨cs, rfl⟩

/-- Bytes in which nothing is broken are the bytes of characters. -/
lemma Decodes.isUtf8 {us : List (Option Char)} (h : Decodes bytes us) (whole : none ∉ us) :
    IsUtf8 bytes := by
  rw [isUtf8_iff]
  induction h with
  | nil => exact ⟨[], rfl⟩
  | char c _ ih =>
    obtain ⟨cs, rfl⟩ := ih (List.not_mem_of_not_mem_cons whole)
    exact ⟨c :: cs, rfl⟩
  | broken => exact absurd List.mem_cons_self whole

lemma none_not_mem_units_iff : none ∉ units bytes ↔ IsUtf8 bytes := by
  refine ⟨(decodes_units bytes).isUtf8, fun h => ?_⟩
  obtain ⟨cs, rfl⟩ := isUtf8_iff.mp h
  rw [units_encode]
  simp

/-! ## Bytes behind bytes -/

variable {a b : List UInt8}

/-- Where bytes begin with no continuation byte, a character that has begun before them has not gone
on with them. -/
lemma BeginsChar.prefix_left {other : List UInt8} (h : BeginsChar other) (nonempty : a ≠ [])
    (hfront : other <+: a ++ b) (hhead : ∀ x ∈ b.head?, ¬ IsContinuation x) : other <+: a := by
  by_cases hshort : other.length ≤ a.length
  · exact List.prefix_of_prefix_length_le hfront (List.prefix_append a b) hshort
  rw [Nat.not_le] at hshort
  exfalso
  obtain ⟨more, rfl⟩ :=
    List.prefix_of_prefix_length_le (List.prefix_append a b) hfront (Nat.le_of_lt hshort)
  rw [List.prefix_append_right_inj] at hfront
  cases more with
  | nil => simp at hshort
  | cons x more =>
    obtain ⟨rest, rfl⟩ := hfront
    obtain ⟨c, left, hc⟩ := h
    obtain ⟨y, a, rfl⟩ := List.exists_cons_of_ne_nil nonempty
    have hbehind : x ∈ (String.utf8EncodeChar c).tail := by
      rw [← hc]
      simp
    exact hhead x rfl (isContinuation_of_mem_tail hbehind)

lemma Decodes.append {us vs : List (Option Char)} (ha : Decodes a us) (hb : Decodes b vs)
    (hhead : ∀ x ∈ b.head?, ¬ IsContinuation x) : Decodes (a ++ b) (us ++ vs) := by
  induction ha with
  | nil => exact hb
  | char c _ ih =>
    rw [List.append_assoc]
    exact .char c ih
  | @broken piece rest us noChar subpart _ ih =>
    have nonempty : piece ++ rest ≠ [] := List.append_ne_nil_of_left_ne_nil subpart.nonempty _
    rw [List.append_assoc, List.cons_append]
    -- Neither a character nor a longer piece can reach beyond `rest`, where no byte continues one.
    refine .broken (fun c hc => noChar c ?_) ?_ ih
    · rw [← List.append_assoc] at hc
      exact BeginsChar.prefix_left ⟨c, List.prefix_rfl⟩ nonempty hc hhead
    · refine ⟨List.prefix_append _ _, subpart.nonempty, subpart.begins,
        fun other hfront hother => ?_⟩
      rw [← List.append_assoc] at hfront
      exact subpart.longest other (hother.prefix_left nonempty hfront hhead) hother

lemma units_append (hhead : ∀ x ∈ b.head?, ¬ IsContinuation x) :
    units (a ++ b) = units a ++ units b :=
  (decodes_iff.mp ((decodes_units a).append (decodes_units b) hhead)).symm

end GlyphGrid.Utf8
