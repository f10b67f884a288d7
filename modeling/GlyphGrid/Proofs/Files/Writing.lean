import Mathlib.Data.List.Basic
import GlyphGrid.Files

/-!
# What writing a file changes

A regular file is put where a path leads to.  This changes what is at that one place and no
directory, so that every path leads where it led before.  `FileTree.Keeps` says both of two trees,
with the places where they may differ, and it is what the steps of a run are composed by.
-/

namespace GlyphGrid.FileTree

/-- `later` differs from `t` at most in the regular files at `places`. -/
structure Keeps (t later : FileTree) (places : List Location) : Prop where
  get?_eq : ∀ place, place ∉ places → later.get? place = t.get? place
  isDirectory_eq : ∀ place, later.isDirectory place = t.isDirectory place

variable {t later last : FileTree} {working place : Location} {path : String}

/-! ## Putting something at a place -/

lemma get?_set_of_ne {other : Location} (h : other ≠ place) (entry : FileEntry) :
    (t.set place entry).get? other = t.get? other := by
  have hhead : (place == other) = false := beq_false_of_ne h.symm
  have htail : (t.entries.filter (·.1 != place)).find? (·.1 == other)
      = t.entries.find? (·.1 == other) := by
    rw [List.find?_filter]
    congr 1
    funext e
    by_cases he : e.1 = other
    · simp [he, h]
    · simp [he]
  unfold get? set
  rw [List.find?_cons, hhead, htail]

lemma get?_set_self (h : place ≠ []) (entry : FileEntry) :
    (t.set place entry).get? place = some entry := by
  have hplace : place.isEmpty = false := List.isEmpty_eq_false_iff.mpr h
  simp [get?, set, hplace]

lemma isDirectory_nil (t : FileTree) : t.isDirectory [] = true := rfl

lemma ne_nil_of_isDirectory_eq_false (h : t.isDirectory place = false) : place ≠ [] := by
  rintro rfl
  cases h

/-- Where no directory was there is none after a regular file was put there. -/
lemma isDirectory_set (h : t.isDirectory place = false) {entry : FileEntry}
    (hentry : entry ≠ .directory) (other : Location) :
    (t.set place entry).isDirectory other = t.isDirectory other := by
  by_cases hother : other = place
  · subst hother
    rw [h, isDirectory, get?_set_self (ne_nil_of_isDirectory_eq_false h)]
    cases entry with
    | directory => exact absurd rfl hentry
    | file bytes => rfl
    | picture image patches => rfl
  · rw [isDirectory, isDirectory, get?_set_of_ne hother]

/-! ## Where paths lead -/

namespace Keeps

lemma refl (t : FileTree) (places : List Location) : t.Keeps t places :=
  ⟨fun _ _ => rfl, fun _ => rfl⟩

lemma trans {places : List Location} (h : t.Keeps later places) (h' : later.Keeps last places) :
    t.Keeps last places :=
  ⟨fun place hplace => (h'.get?_eq place hplace).trans (h.get?_eq place hplace),
    fun place => (h'.isDirectory_eq place).trans (h.isDirectory_eq place)⟩

lemma mono {places more : List Location} (h : t.Keeps later places) (hmore : places ⊆ more) :
    t.Keeps later more :=
  ⟨fun place hplace => h.get?_eq place fun hmem => hplace (hmore hmem), h.isDirectory_eq⟩

variable {places : List Location} (h : t.Keeps later places)

include h in
lemma follow?_eq (place : Location) (names : List String) :
    later.follow? place names = t.follow? place names := by
  induction names generalizing place with
  | nil => rfl
  | cons name names ih => rw [follow?, follow?, h.isDirectory_eq, ih]

include h in
/-- Paths lead where they led before. -/
lemma locate?_eq (working : Location) (path : String) :
    later.locate? working path = t.locate? working path := by
  simp only [locate?, h.follow?_eq, h.isDirectory_eq]

end Keeps

/-! ## Putting a file where a path leads to -/

/-- What a tree was like into which a file was put, and what it is then. -/
structure Puts (t : FileTree) (working : Location) (path : String) (entry : FileEntry)
    (place : Location) (later : FileTree) : Prop where
  locate?_eq : t.locate? working path = some place
  not_directory : t.isDirectory place = false
  eq_set : later = t.set place entry

lemma exists_puts {entry : FileEntry} (h : t.put? working path entry = some later) :
    ∃ place, t.Puts working path entry place later := by
  obtain ⟨place, hplace, hput⟩ := Option.bind_eq_some_iff.mp h
  cases hdirectory : t.isDirectory place with
  | true => simp [hdirectory] at hput
  | false =>
    cases haround : t.isDirectory place.dropLast with
    | false => simp [haround] at hput
    | true =>
      have hset : t.set place entry = later := by simpa [hdirectory, haround] using hput
      exact ⟨place, hplace, hdirectory, hset.symm⟩

namespace Puts

variable {entry : FileEntry} (h : t.Puts working path entry place later)

include h in
lemma get?_eq : later.get? place = some entry := by
  rw [h.eq_set, get?_set_self (ne_nil_of_isDirectory_eq_false h.not_directory)]

include h in
lemma keeps (hentry : entry ≠ .directory) : t.Keeps later [place] := by
  refine ⟨fun other hother => ?_, fun other => ?_⟩
  · rw [h.eq_set, get?_set_of_ne (List.ne_of_not_mem_cons hother)]
  · rw [h.eq_set, isDirectory_set h.not_directory hentry]

include h in
/-- The path leads to what was put there. -/
lemma find?_eq (hentry : entry ≠ .directory) : later.find? working path = some entry := by
  rw [find?, (h.keeps hentry).locate?_eq, h.locate?_eq]
  exact h.get?_eq

end Puts

/-- Putting a regular file somewhere keeps everything else. -/
lemma keeps_of_put? {entry : FileEntry} (hentry : entry ≠ .directory)
    (h : t.put? working path entry = some later) :
    t.Keeps later (t.locate? working path).toList := by
  obtain ⟨place, hputs⟩ := exists_puts h
  rw [hputs.locate?_eq]
  exact hputs.keeps hentry

lemma keeps_of_write? {bytes : List UInt8} (h : t.write? working path bytes = some later) :
    t.Keeps later (t.locate? working path).toList :=
  keeps_of_put? FileEntry.noConfusion h

/-- What a regular file becomes when bytes are written over its own: a regular file. -/
lemma ne_directory_of_overwrite? {old entry : FileEntry} {position : Nat} {bytes : List UInt8}
    (h : old.overwrite? position bytes = some entry) : entry ≠ .directory := by
  rintro rfl
  cases old <;> cases h

/-- Writing over a file puts another one in its place. -/
lemma exists_puts_of_overwrite? {position : Nat} {bytes : List UInt8}
    (h : t.overwrite? working path position bytes = some later) : ∃ old entry place,
      t.get? place = some old ∧ old.overwrite? position bytes = some entry ∧
        t.Puts working path entry place later := by
  obtain ⟨old, hfind, hput⟩ := Option.bind_eq_some_iff.mp h
  obtain ⟨entry, hentry, hput⟩ := Option.bind_eq_some_iff.mp hput
  obtain ⟨place, hputs⟩ := exists_puts hput
  rw [find?, hputs.locate?_eq] at hfind
  exact ⟨old, entry, place, hfind, hentry, hputs⟩

lemma keeps_of_overwrite? {position : Nat} {bytes : List UInt8}
    (h : t.overwrite? working path position bytes = some later) :
    t.Keeps later (t.locate? working path).toList := by
  obtain ⟨_, entry, place, -, hentry, hputs⟩ := exists_puts_of_overwrite? h
  rw [hputs.locate?_eq]
  exact hputs.keeps (ne_directory_of_overwrite? hentry)

end GlyphGrid.FileTree
