import Mathlib.Tactic.Lemma
import GlyphGrid.Text.Utf8

/-!
# Reading what was encoded

Encoding and decoding are inverse on texts (`Utf8.decode?_encode`).  The argument is one character
long: whatever follows, a reader that expects nothing reads the bytes of one character as this
character and expects nothing after them (`run_utf8EncodeChar`).
-/

namespace GlyphGrid.Utf8

/-- A continuation byte within the range that is due adds its six bits. -/
lemma Reader.step_pending {due bits n : Nat} {low high : UInt8} (hlow : low.toNat ≤ n + 128)
    (hhigh : n + 128 ≤ high.toNat) :
    (Reader.pending due low high bits).step (UInt8.ofNat (n + 128)) =
      if due ≤ 1 then ([some (Char.ofNat (bits * 64 + n))], .idle)
      else ([], .pending (due - 1) 0x80 0xBF (bits * 64 + n)) := by
  have hbyte : (UInt8.ofNat (n + 128)).toNat = n + 128 :=
    UInt8.toNat_ofNat_of_lt' (Nat.lt_of_le_of_lt hhigh high.toNat_lt)
  have hrange : low ≤ UInt8.ofNat (n + 128) ∧ UInt8.ofNat (n + 128) ≤ high := by
    rw [UInt8.le_iff_toNat_le, UInt8.le_iff_toNat_le, hbyte]
    exact ⟨hlow, hhigh⟩
  rw [Reader.step, if_pos hrange, hbyte, Nat.add_sub_cancel]

/-- The last continuation byte completes a character. -/
lemma Reader.run_pending_one {bits n : Nat} {low high : UInt8} (hlow : low.toNat ≤ n + 128)
    (hhigh : n + 128 ≤ high.toNat) (bytes : List UInt8) :
    (Reader.pending 1 low high bits).run (UInt8.ofNat (n + 128) :: bytes) =
      some (Char.ofNat (bits * 64 + n)) :: Reader.idle.run bytes := by
  rw [Reader.run, Reader.step_pending hlow hhigh]
  rfl

/-- A continuation byte before the last is kept. -/
lemma Reader.run_pending_more {due bits n : Nat} {low high : UInt8} (hlow : low.toNat ≤ n + 128)
    (hhigh : n + 128 ≤ high.toNat) (bytes : List UInt8) :
    (Reader.pending (due + 2) low high bits).run (UInt8.ofNat (n + 128) :: bytes) =
      (Reader.pending (due + 1) 0x80 0xBF (bits * 64 + n)).run bytes := by
  rw [Reader.run, Reader.step_pending hlow hhigh, if_neg (by omega)]
  rfl

/-! ## First bytes -/

lemma Reader.lead_one {n : Nat} (hn : n < 128) :
    Reader.lead (UInt8.ofNat n) = ([some (Char.ofNat n)], .idle) := by
  have hbyte : (UInt8.ofNat n).toNat = n := UInt8.toNat_ofNat_of_lt' (Nat.lt_trans hn (by decide))
  have hlt : UInt8.ofNat n < 0x80 := by rw [UInt8.lt_iff_toNat_lt, hbyte]; exact hn
  rw [Reader.lead, if_pos hlt, hbyte]

lemma Reader.lead_two :
    ∀ n < 32, 2 ≤ n → Reader.lead (UInt8.ofNat (n + 192)) = ([], .pending 1 0x80 0xBF n) := by
  decide

/-- The second of three bytes is bounded where the character could be written shorter, or would be
a surrogate. -/
lemma Reader.lead_three : ∀ n < 16, Reader.lead (UInt8.ofNat (n + 224)) =
    ([], .pending 2 (if n = 0 then 0xA0 else 0x80) (if n = 13 then 0x9F else 0xBF) n) := by
  decide

/-- The second of four bytes is bounded where the character could be written shorter, or would be
beyond the last one. -/
lemma Reader.lead_four : ∀ n < 5, Reader.lead (UInt8.ofNat (n + 240)) =
    ([], .pending 3 (if n = 0 then 0x90 else 0x80) (if n = 4 then 0x8F else 0xBF) n) := by
  decide

/-! ## Whole characters -/

variable {a b d e : Nat} (bytes : List UInt8)

lemma run_two (ha : a < 32) (hlong : 2 ≤ a) (hb : b < 64) :
    Reader.idle.run (UInt8.ofNat (a + 192) :: UInt8.ofNat (b + 128) :: bytes) =
      some (Char.ofNat (a * 64 + b)) :: Reader.idle.run bytes := by
  rw [Reader.run, Reader.step, Reader.lead_two a ha hlong]
  exact Reader.run_pending_one (Nat.le_add_left 128 b) (by change b + 128 ≤ 191; omega) bytes

lemma run_three (ha : a < 16) (hb : b < 64) (hd : d < 64) (hlong : a = 0 → 32 ≤ b)
    (hsurrogate : a = 13 → b < 32) :
    Reader.idle.run
        (UInt8.ofNat (a + 224) :: UInt8.ofNat (b + 128) :: UInt8.ofNat (d + 128) :: bytes) =
      some (Char.ofNat ((a * 64 + b) * 64 + d)) :: Reader.idle.run bytes := by
  rw [Reader.run, Reader.step, Reader.lead_three a ha]
  refine (Reader.run_pending_more ?_ ?_ _).trans
    (Reader.run_pending_one (Nat.le_add_left 128 d) (by change d + 128 ≤ 191; omega) bytes)
  · split
    · change 160 ≤ b + 128
      omega
    · exact Nat.le_add_left 128 b
  · split
    · change b + 128 ≤ 159
      omega
    · change b + 128 ≤ 191
      omega

lemma run_four (ha : a < 5) (hb : b < 64) (hd : d < 64) (he : e < 64) (hlong : a = 0 → 16 ≤ b)
    (hlast : a = 4 → b < 16) :
    Reader.idle.run
        (UInt8.ofNat (a + 240) :: UInt8.ofNat (b + 128) :: UInt8.ofNat (d + 128)
          :: UInt8.ofNat (e + 128) :: bytes) =
      some (Char.ofNat (((a * 64 + b) * 64 + d) * 64 + e)) :: Reader.idle.run bytes := by
  rw [Reader.run, Reader.step, Reader.lead_four a ha]
  refine (Reader.run_pending_more ?_ ?_ _).trans <|
    (Reader.run_pending_more (Nat.le_add_left 128 d) (by change d + 128 ≤ 191; omega) _).trans
      (Reader.run_pending_one (Nat.le_add_left 128 e) (by change e + 128 ≤ 191; omega) bytes)
  · split
    · change 144 ≤ b + 128
      omega
    · exact Nat.le_add_left 128 b
  · split
    · change b + 128 ≤ 143
      omega
    · change b + 128 ≤ 191
      omega

/-- The bytes of a character are read as the character, whatever follows them. -/
lemma run_utf8EncodeChar (c : Char) :
    Reader.idle.run (String.utf8EncodeChar c ++ bytes) = some c :: Reader.idle.run bytes := by
  have hchar : Char.ofNat c.toNat = c := Char.ofNat_toNat c
  have hscalar : c.toNat < 55296 ∨ 57343 < c.toNat ∧ c.toNat < 1114112 := c.valid
  have hval : c.val.toNat = c.toNat := rfl
  unfold String.utf8EncodeChar
  simp only [hval]
  generalize c.toNat = n at hchar hscalar
  subst hchar
  split
  · rw [List.singleton_append, Reader.run, Reader.step, Reader.lead_one (by omega)]
    rfl
  · split
    · have hsplit : n / 64 % 32 * 64 + n % 64 = n := by omega
      have h := run_two (a := n / 64 % 32) (b := n % 64) bytes (by omega) (by omega) (by omega)
      rwa [hsplit] at h
    · split
      · have hsplit : (n / 4096 % 16 * 64 + n / 64 % 64) * 64 + n % 64 = n := by omega
        have h := run_three (a := n / 4096 % 16) (b := n / 64 % 64) (d := n % 64) bytes
          (by omega) (by omega) (by omega) (by omega) (by omega)
        rwa [hsplit] at h
      · have hsplit :
            ((n / 262144 % 8 * 64 + n / 4096 % 64) * 64 + n / 64 % 64) * 64 + n % 64 = n := by
          omega
        have h := run_four (a := n / 262144 % 8) (b := n / 4096 % 64) (d := n / 64 % 64)
          (e := n % 64) bytes (by omega) (by omega) (by omega) (by omega) (by omega) (by omega)
        rwa [hsplit] at h

lemma encode_append (cs ds : List Char) : encode (cs ++ ds) = encode cs ++ encode ds :=
  List.flatMap_append

lemma encode_singleton (c : Char) : encode [c] = String.utf8EncodeChar c :=
  List.flatMap_singleton _ _

/-- Encoded characters are read back one by one, and what follows them as it is on its own. -/
lemma units_encode_append (cs : List Char) :
    units (encode cs ++ bytes) = cs.map some ++ units bytes := by
  unfold units encode
  induction cs with
  | nil => rfl
  | cons c cs ih =>
    rw [List.flatMap_cons, List.append_assoc, run_utf8EncodeChar, ih, List.map_cons,
      List.cons_append]

lemma units_encode (cs : List Char) : units (encode cs) = cs.map some := by
  have hread := units_encode_append [] cs
  have hnothing : units [] = [] := rfl
  rwa [List.append_nil, hnothing, List.append_nil] at hread

/-- What was encoded is decoded to what it was. -/
lemma decode?_encode (cs : List Char) : decode? (encode cs) = some cs := by
  rw [decode?, units_encode]
  induction cs with
  | nil => rfl
  | cons c cs ih => rw [List.map_cons, List.mapM_cons, ih]; rfl

/-- In what was encoded there is nothing to replace. -/
lemma decodeLossy_encode (cs : List Char) : decodeLossy (encode cs) = cs := by
  rw [decodeLossy, units_encode, List.map_map]
  exact List.map_id cs

lemma textLossy_encode (cs : List Char) : textLossy (encode cs) = String.ofList cs := by
  rw [textLossy, decodeLossy_encode]

lemma encodeText_ofList (cs : List Char) : encodeText (String.ofList cs) = encode cs := by
  rw [encodeText, String.toList_ofList]

lemma textLossy_encodeText (text : String) : textLossy (encodeText text) = text := by
  rw [encodeText, textLossy_encode, String.ofList_toList]

/-! ## Bytes that are no text

They are read as something too: the piece that a byte begins or ends is a character or broken. -/

/-- A reader that expects more bytes finds something before it ends. -/
lemma Reader.run_pending_ne_nil (due : Nat) (low high : UInt8) (bits : Nat) :
    (Reader.pending due low high bits).run bytes ≠ [] := by
  induction bytes generalizing due low high bits with
  | nil => exact List.cons_ne_nil _ _
  | cons b bytes ih =>
    rw [Reader.run, Reader.step]
    by_cases hrange : low ≤ b ∧ b ≤ high
    · rw [if_pos hrange]
      by_cases hlast : due ≤ 1
      · simp only [if_pos hlast]
        exact List.cons_ne_nil _ _
      · simp only [if_neg hlast]
        exact ih _ _ _ _
    · rw [if_neg hrange]
      exact List.cons_ne_nil _ _

/-- A byte that is read has completed a piece, or more bytes are expected after it. -/
def Reader.Begins (read : List (Option Char) × Reader) : Prop :=
  read.1 ≠ [] ∨ ∃ due low high bits, read = ([], .pending due low high bits)

lemma Reader.begins_lead (b : UInt8) : Begins (lead b) := by
  rw [lead]
  repeat' refine iteInduction (motive := Begins) (fun _ => ?_) (fun _ => ?_)
  all_goals first
    | exact .inl (List.cons_ne_nil _ _)
    | exact .inr ⟨_, _, _, _, rfl⟩

/-- Bytes are read as a text that is not empty. -/
lemma decodeLossy_ne_nil {bytes : List UInt8} (h : bytes ≠ []) : decodeLossy bytes ≠ [] := by
  obtain ⟨b, rest, rfl⟩ := List.exists_cons_of_ne_nil h
  rw [decodeLossy, ne_eq, List.map_eq_nil_iff, units, Reader.run, Reader.step]
  obtain hout | ⟨due, low, high, bits, hpending⟩ := Reader.begins_lead b
  · exact fun hnil => hout (List.append_eq_nil_iff.mp hnil).1
  · rw [hpending]
    exact Reader.run_pending_ne_nil rest due low high bits

end GlyphGrid.Utf8
