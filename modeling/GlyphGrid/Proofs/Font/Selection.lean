import Mathlib.Data.List.Basic
import Mathlib.Tactic.Lemma
import GlyphGrid.Font.Catalogue

/-!
# Which fonts a stack is made of

Of any database `FontStack.select` takes a primary face and its fallbacks.  `FontDatabase.IsPrimary`
says which face is the primary one: the regular face of the family that is asked for, and where this
cannot be loaded a monospace face, which is the one that the generic family leads to or, where that
leads nowhere, the upright monospace face nearest to the regular weight.  There is at most one such
face (`FontDatabase.IsPrimary.unique`), and selecting fails just where there is none.

The fallbacks are the usual families that can be loaded, in their order, without the one that the
primary face is named after (`FontDatabase.IsChain`); their places in the stack are the numbers by
which faces are asked for.  Nothing is assumed of how a database matches a family.
-/

namespace GlyphGrid

/-! ## The first of the least -/

section FirstLeast

variable {α : Type} {key : α → Nat} {l : List α} {a : α}

/-- Nothing in a list is less under a key, and all that comes before is greater. -/
def IsFirstLeast (key : α → Nat) (l : List α) (a : α) : Prop :=
  ∃ before after, l = before ++ a :: after ∧
    (∀ b ∈ before, key a < key b) ∧ ∀ b ∈ after, key a ≤ key b

lemma IsFirstLeast.le (h : IsFirstLeast key l a) : ∀ b ∈ l, key a ≤ key b := by
  obtain ⟨before, after, rfl, hbefore, hafter⟩ := h
  intro b hb
  rcases List.mem_append.mp hb with hb | hb
  · exact Nat.le_of_lt (hbefore b hb)
  · rcases List.mem_cons.mp hb with rfl | hb
    · exact Nat.le_refl _
    · exact hafter b hb

lemma firstLeast?_eq_none_iff : firstLeast? key l = none ↔ l = [] := by
  cases l with
  | nil => exact iff_of_true rfl rfl
  | cons b l =>
    refine iff_of_false ?_ (List.cons_ne_nil b l)
    rw [firstLeast?]
    split
    · exact Option.some_ne_none b
    · split <;> exact Option.some_ne_none _

lemma isFirstLeast_of_firstLeast? (h : firstLeast? key l = some a) : IsFirstLeast key l a := by
  induction l generalizing a with
  | nil => cases h
  | cons b l ih =>
    rw [firstLeast?] at h
    split at h
    · next hrest =>
      cases h
      rw [firstLeast?_eq_none_iff.mp hrest]
      exact ⟨[], [], rfl, List.forall_mem_nil _, List.forall_mem_nil _⟩
    · next c hrest =>
      have hleast := ih hrest
      split at h
      · next hle =>
        cases h
        exact ⟨[], l, rfl, List.forall_mem_nil _, fun d hd => Nat.le_trans hle (hleast.le d hd)⟩
      · next hlt =>
        cases h
        obtain ⟨before, after, rfl, hbefore, hafter⟩ := hleast
        exact ⟨b :: before, after, rfl,
          List.forall_mem_cons.mpr ⟨Nat.lt_of_not_le hlt, hbefore⟩, hafter⟩

lemma firstLeast?_of_isFirstLeast (h : IsFirstLeast key l a) : firstLeast? key l = some a := by
  obtain ⟨before, after, rfl, hbefore, hafter⟩ := h
  induction before with
  | nil =>
    rw [List.nil_append, firstLeast?]
    split
    · rfl
    · next c hrest =>
      obtain ⟨_, _, rfl, -, -⟩ := isFirstLeast_of_firstLeast? hrest
      exact if_pos (hafter c (List.mem_append_right _ List.mem_cons_self))
  | cons b before ih =>
    rw [List.forall_mem_cons] at hbefore
    rw [List.cons_append, firstLeast?, ih hbefore.2]
    exact if_neg (Nat.not_le_of_lt hbefore.1)

lemma firstLeast?_eq_some_iff : firstLeast? key l = some a ↔ IsFirstLeast key l a :=
  ⟨isFirstLeast_of_firstLeast?, firstLeast?_of_isFirstLeast⟩

/-- The first of the least elements that satisfy `p`, seen in the list itself. -/
lemma isFirstLeast_filter_iff {p : α → Bool} :
    IsFirstLeast key (l.filter p) a ↔ p a = true ∧ ∃ before after, l = before ++ a :: after ∧
      (∀ b ∈ before, p b = true → key a < key b) ∧ ∀ b ∈ after, p b = true → key a ≤ key b := by
  constructor
  · rintro ⟨before, after, hsplit, hbefore, hafter⟩
    obtain ⟨first, rest, rfl, hfirst, hrest⟩ := List.filter_eq_append_iff.mp hsplit
    obtain ⟨skipped, last, rfl, hskipped, ha, hlast⟩ := List.filter_eq_cons_iff.mp hrest
    refine ⟨ha, first ++ skipped, last, (List.append_assoc _ _ _).symm, ?_, ?_⟩
    · intro b hb hp
      rcases List.mem_append.mp hb with hb | hb
      · exact hbefore b (hfirst ▸ List.mem_filter.mpr ⟨hb, hp⟩)
      · exact absurd hp (hskipped b hb)
    · exact fun b hb hp => hafter b (hlast ▸ List.mem_filter.mpr ⟨hb, hp⟩)
  · rintro ⟨ha, before, after, rfl, hbefore, hafter⟩
    refine ⟨before.filter p, after.filter p, ?_, ?_, ?_⟩
    · rw [List.filter_append, List.filter_cons_of_pos ha]
    · intro b hb
      obtain ⟨hmem, hp⟩ := List.mem_filter.mp hb
      exact hbefore b hmem hp
    · intro b hb
      obtain ⟨hmem, hp⟩ := List.mem_filter.mp hb
      exact hafter b hmem hp

end FirstLeast

/-! ## Loading faces -/

/-- A face that is loaded is one of a file, under the name that it was asked for. -/
lemma FontFile.load?_eq_some_iff {file : FontFile} {label : String} {index : Nat}
    {face : LoadedFace} : file.load? label index = some face ↔
      ∃ faces own, file = .readable faces ∧ faces[index]? = some own ∧ own.isUsable = true ∧
        face = ⟨label, index, own⟩ := by
  cases file with
  | unreadable => exact iff_of_false nofun fun ⟨_, _, h, _⟩ => nomatch h
  | readable faces =>
    constructor
    · intro h
      obtain ⟨own, hown, hface⟩ := Option.bind_eq_some_iff.mp h
      split at hface
      · next husable => exact ⟨faces, own, rfl, hown, husable, (Option.some.inj hface).symm⟩
      · cases hface
    · rintro ⟨faces', own, hfaces, hown, husable, rfl⟩
      cases hfaces
      exact Option.bind_eq_some_iff.mpr ⟨own, hown, if_pos husable⟩

namespace FontDatabase

variable {db : FontDatabase} {family? : Option String} {id : Nat} {face : LoadedFace}

lemma label_of_load? {label : String} (h : db.load? id label = some face) :
    face.label = label := by
  obtain ⟨file, -, hfile⟩ := Option.bind_eq_some_iff.mp h
  obtain ⟨_, _, -, -, -, rfl⟩ := FontFile.load?_eq_some_iff.mp hfile
  rfl

lemma loadFamily?_eq_some_iff {family : String} : db.loadFamily? family = some face ↔
    ∃ id, db.regular? family = some id ∧ db.load? id family = some face := by
  rw [loadFamily?, Option.bind_eq_some_iff]

lemma label_of_loadFamily? {family : String} (h : db.loadFamily? family = some face) :
    face.label = family := by
  obtain ⟨id, -, hid⟩ := loadFamily?_eq_some_iff.mp h
  exact label_of_load? hid

/-! ## The primary face -/

/-- The upright monospace face whose weight is nearest to regular, and of several the first. -/
structure IsNearestMonospace (db : FontDatabase) (r : FontRecord) : Prop where
  upright : r.isUprightMonospace = true
  exists_split : ∃ before after, db.records = before ++ r :: after ∧
    (∀ s ∈ before, s.isUprightMonospace = true →
      weightDistance r.weight < weightDistance s.weight) ∧
    ∀ s ∈ after, s.isUprightMonospace = true → weightDistance r.weight ≤ weightDistance s.weight

/-- The monospace face of a database, with its number there. -/
inductive IsMonospace (db : FontDatabase) : Nat → LoadedFace → Prop
  | generic {id : Nat} {face : LoadedFace} (regular : db.regular? db.monospaceFamily = some id)
      (loads : db.load? id genericLabel = some face) : db.IsMonospace id face
  | nearest {r : FontRecord} {face : LoadedFace}
      (unresolved : db.regular? db.monospaceFamily = none) (isNearest : db.IsNearestMonospace r)
      (loads : db.load? r.id r.label = some face) : db.IsMonospace r.id face

/-- No family is asked for, or one that cannot be loaded. -/
def IsUnusable (db : FontDatabase) (family? : Option String) : Prop :=
  ∀ family ∈ family?, db.loadFamily? family = none

/-- The primary face where a family may be asked for, with its number in the database. -/
inductive IsPrimary (db : FontDatabase) (family? : Option String) : Nat → LoadedFace → Prop
  | named {family : String} {id : Nat} {face : LoadedFace} (asked : family? = some family)
      (regular : db.regular? family = some id) (loads : db.load? id family = some face) :
      db.IsPrimary family? id face
  | monospace {id : Nat} {face : LoadedFace} (unusable : db.IsUnusable family?)
      (isMonospace : db.IsMonospace id face) : db.IsPrimary family? id face

lemma nearestMonospace?_eq_some_iff {r : FontRecord} :
    db.nearestMonospace? = some r ↔ db.IsNearestMonospace r := by
  rw [nearestMonospace?, firstLeast?_eq_some_iff, isFirstLeast_filter_iff]
  exact ⟨fun h => ⟨h.1, h.2⟩, fun h => ⟨h.upright, h.exists_split⟩⟩

lemma value_loadMonospace_eq_some_iff :
    db.loadMonospace.value = some face ↔ ∃ id, db.IsMonospace id face := by
  unfold loadMonospace
  split
  · next own hregular =>
    constructor
    · exact fun h => ⟨own, .generic hregular h⟩
    · rintro ⟨id, hmonospace⟩
      cases hmonospace with
      | generic regular loads =>
        rw [hregular] at regular
        cases regular
        exact loads
      | nearest unresolved =>
        rw [hregular] at unresolved
        cases unresolved
  · next hregular =>
    split
    · next hnone =>
      refine iff_of_false nofun ?_
      rintro ⟨id, hmonospace⟩
      cases hmonospace with
      | generic regular =>
        rw [hregular] at regular
        cases regular
      | nearest unresolved isNearest =>
        rw [nearestMonospace?_eq_some_iff.mpr isNearest] at hnone
        cases hnone
    · next r hsome =>
      constructor
      · exact fun h => ⟨r.id, .nearest hregular (nearestMonospace?_eq_some_iff.mp hsome) h⟩
      · rintro ⟨id, hmonospace⟩
        cases hmonospace with
        | generic regular =>
          rw [hregular] at regular
          cases regular
        | nearest unresolved isNearest loads =>
          rw [nearestMonospace?_eq_some_iff.mpr isNearest] at hsome
          cases hsome
          exact loads

lemma isUnusable_none : db.IsUnusable none := fun _ h => nomatch h

lemma value_loadPrimary_of_isUnusable (h : db.IsUnusable family?) :
    (db.loadPrimary family?).value = db.loadMonospace.value := by
  cases family? with
  | none => rfl
  | some family =>
    rw [loadPrimary, Noted.value_bind, h family rfl]
    rfl

lemma value_loadPrimary_of_loads {family : String} (h : db.loadFamily? family = some face) :
    (db.loadPrimary (some family)).value = some face := by
  rw [loadPrimary, Noted.value_bind, h]
  rfl

lemma isUnusable_or_loads (db : FontDatabase) (family? : Option String) : db.IsUnusable family? ∨
    ∃ family face, family? = some family ∧ db.loadFamily? family = some face := by
  cases family? with
  | none => exact .inl isUnusable_none
  | some family =>
    cases hloads : db.loadFamily? family with
    | none => exact .inl fun _ h => by rw [← Option.some.inj h, hloads]
    | some face => exact .inr ⟨family, face, rfl, hloads⟩

lemma value_loadPrimary_eq_some_iff :
    (db.loadPrimary family?).value = some face ↔ ∃ id, db.IsPrimary family? id face := by
  rcases db.isUnusable_or_loads family? with hunusable | ⟨family, own, rfl, hown⟩
  · rw [value_loadPrimary_of_isUnusable hunusable, value_loadMonospace_eq_some_iff]
    constructor
    · exact fun ⟨id, h⟩ => ⟨id, .monospace hunusable h⟩
    · rintro ⟨id, hprimary⟩
      cases hprimary with
      | named asked regular loads =>
        have hloads := loadFamily?_eq_some_iff.mpr ⟨_, regular, loads⟩
        rw [hunusable _ asked] at hloads
        cases hloads
      | monospace unusable isMonospace => exact ⟨id, isMonospace⟩
  · rw [value_loadPrimary_of_loads hown]
    constructor
    · intro h
      cases h
      obtain ⟨id, hregular, hloads⟩ := loadFamily?_eq_some_iff.mp hown
      exact ⟨id, .named rfl hregular hloads⟩
    · rintro ⟨id, hprimary⟩
      cases hprimary with
      | named asked regular loads =>
        cases asked
        rw [← hown]
        exact loadFamily?_eq_some_iff.mpr ⟨_, regular, loads⟩
      | monospace unusable =>
        rw [unusable family rfl] at hown
        cases hown

lemma IsMonospace.unique {id' : Nat} {face' : LoadedFace} (h : db.IsMonospace id face)
    (h' : db.IsMonospace id' face') : id = id' ∧ face = face' := by
  cases h with
  | generic regular loads =>
    cases h' with
    | generic regular' loads' =>
      rw [regular] at regular'
      cases regular'
      exact ⟨rfl, Option.some.inj (loads.symm.trans loads')⟩
    | nearest unresolved' => exact absurd (regular.symm.trans unresolved') nofun
  | nearest unresolved isNearest loads =>
    cases h' with
    | generic regular' => exact absurd (regular'.symm.trans unresolved) nofun
    | nearest _ isNearest' loads' =>
      have hsame := (nearestMonospace?_eq_some_iff.mpr isNearest).symm.trans
        (nearestMonospace?_eq_some_iff.mpr isNearest')
      cases hsame
      exact ⟨rfl, Option.some.inj (loads.symm.trans loads')⟩

/-- A database has at most one primary face for a family. -/
lemma IsPrimary.unique {id' : Nat} {face' : LoadedFace} (h : db.IsPrimary family? id face)
    (h' : db.IsPrimary family? id' face') : id = id' ∧ face = face' := by
  have hclash {family : String} {id : Nat} {face : LoadedFace} (asked : family? = some family)
      (regular : db.regular? family = some id) (loads : db.load? id family = some face) :
      ¬db.IsUnusable family? := by
    intro unusable
    have hloads := loadFamily?_eq_some_iff.mpr ⟨id, regular, loads⟩
    exact absurd (hloads.symm.trans (unusable family asked)) nofun
  cases h with
  | named asked regular loads =>
    cases h' with
    | named asked' regular' loads' =>
      cases asked.symm.trans asked'
      rw [regular] at regular'
      cases regular'
      exact ⟨rfl, Option.some.inj (loads.symm.trans loads')⟩
    | monospace unusable' => exact absurd unusable' (hclash asked regular loads)
  | monospace unusable isMonospace =>
    cases h' with
    | named asked' regular' loads' => exact absurd unusable (hclash asked' regular' loads')
    | monospace _ isMonospace' => exact isMonospace.unique isMonospace'

/-! ## The fallbacks -/

/-- The usual families that can be loaded, in their order, without the one that has a label. -/
structure IsChain (db : FontDatabase) (label : String) (chain : List LoadedFace) : Prop where
  sublist : (chain.map LoadedFace.label).Sublist fallbackFamilies
  nodup : (chain.map LoadedFace.label).Nodup
  mem_iff : ∀ face, face ∈ chain ↔ face.label ∈ fallbackFamilies ∧ face.label ≠ label ∧
    db.loadFamily? face.label = some face

lemma nodup_fallbackFamilies : fallbackFamilies.Nodup := by decide +kernel

lemma value_loadFallbacks (label : String) (families : List String) :
    (db.loadFallbacks label families).value
      = (families.filter (· ≠ label)).filterMap db.loadFamily? := by
  induction families with
  | nil => rfl
  | cons family families ih =>
    rw [loadFallbacks]
    split
    · next hsame =>
      rw [ih, List.filter_cons_of_neg (by simpa using hsame)]
    · next hother =>
      rw [List.filter_cons_of_pos (by simpa using hother), List.filterMap_cons]
      split
      · next hnone => rw [ih, hnone]
      · next own hsome =>
        rw [hsome, Noted.value_bind, Noted.value_bind, ih]
        rfl

variable (db) in
/-- Faces that are loaded for families are named after them. -/
lemma map_label_filterMap_sublist (families : List String) :
    ((families.filterMap db.loadFamily?).map LoadedFace.label).Sublist families := by
  induction families with
  | nil => exact .refl []
  | cons family families ih =>
    rw [List.filterMap_cons]
    split
    · exact ih.cons family
    · next own hown =>
      rw [List.map_cons, label_of_loadFamily? hown]
      exact ih.cons_cons family

lemma isChain_loadFallbacks (label : String) :
    db.IsChain label (db.loadFallbacks label fallbackFamilies).value := by
  rw [value_loadFallbacks]
  have hsublist := (db.map_label_filterMap_sublist
    (fallbackFamilies.filter (· ≠ label))).trans List.filter_sublist
  refine ⟨hsublist, nodup_fallbackFamilies.sublist hsublist, fun face => ?_⟩
  rw [List.mem_filterMap]
  constructor
  · rintro ⟨family, hfamily, hloads⟩
    obtain ⟨hmem, hother⟩ := List.mem_filter.mp hfamily
    rw [label_of_loadFamily? hloads]
    exact ⟨hmem, of_decide_eq_true hother, hloads⟩
  · rintro ⟨hmem, hother, hloads⟩
    exact ⟨face.label, List.mem_filter.mpr ⟨hmem, decide_eq_true hother⟩, hloads⟩

end FontDatabase

/-! ## Stacks -/

/-- The faces of a stack are numbered from the primary one on. -/
structure FontStack.IsNumbered (stack : FontStack) : Prop where
  get?_zero : stack.get? 0 = some stack.primary
  get?_succ : ∀ i, stack.get? (i + 1) = stack.fallbacks[i]?
  isSome_get?_iff : ∀ i, (stack.get? i).isSome = true ↔ i < stack.count
  count_eq : stack.count = 1 + stack.fallbacks.length

lemma FontStack.isNumbered (stack : FontStack) : stack.IsNumbered where
  get?_zero := rfl
  get?_succ _ := rfl
  isSome_get?_iff _ := by rw [get?, isSome_getElem?, count]
  count_eq := Nat.add_comm _ _

namespace FontDatabase

variable {db : FontDatabase} {family? : Option String}

/-- An answer for a family: a stack of the faces that the database has for it, or a failure. -/
structure Selects (db : FontDatabase) (family? : Option String)
    (answer : Except GlyphError FontStack) : Prop where
  primary_iff : ∀ face, (∃ stack, answer = .ok stack ∧ stack.primary = face) ↔
    ∃ id, db.IsPrimary family? id face
  /-- There is one primary face at most. -/
  unique : ∀ id face id' face', db.IsPrimary family? id face → db.IsPrimary family? id' face' →
    id = id' ∧ face = face'
  error_iff : ∀ e, answer = .error e ↔
    e = .fontUnavailable "no monospace font is installed" ∧ ¬∃ id face, db.IsPrimary family? id face
  /-- A family that cannot be loaded is as good as none. -/
  unusable_name : db.IsUnusable family? → answer = (FontStack.select db none).value
  chain : ∀ stack, answer = .ok stack → db.IsChain stack.primary.label stack.fallbacks
  numbered : ∀ stack, answer = .ok stack → stack.IsNumbered

lemma value_select_of_none (h : (db.loadPrimary family?).value = none) :
    (FontStack.select db family?).value
      = .error (.fontUnavailable "no monospace font is installed") := by
  rw [FontStack.select, Noted.value_bind, Noted.value_bind, h]
  rfl

lemma value_select_of_some {primary : LoadedFace}
    (h : (db.loadPrimary family?).value = some primary) : (FontStack.select db family?).value
      = .ok ⟨primary, (db.loadFallbacks primary.label fallbackFamilies).value⟩ := by
  rw [FontStack.select, Noted.value_bind, Noted.value_bind, h]
  rfl

/-- The fallbacks of a stack are those behind its primary face. -/
lemma isChain_of_value_select {stack : FontStack}
    (h : (FontStack.select db family?).value = .ok stack) :
    db.IsChain stack.primary.label stack.fallbacks := by
  cases hprimary : (db.loadPrimary family?).value with
  | none => exact absurd ((value_select_of_none hprimary).symm.trans h) nofun
  | some primary =>
    cases (value_select_of_some hprimary).symm.trans h
    exact isChain_loadFallbacks primary.label

lemma value_select_congr {family' : Option String}
    (h : (db.loadPrimary family?).value = (db.loadPrimary family').value) :
    (FontStack.select db family?).value = (FontStack.select db family').value := by
  cases hprimary : (db.loadPrimary family').value with
  | none => rw [value_select_of_none hprimary, value_select_of_none (h.trans hprimary)]
  | some primary => rw [value_select_of_some hprimary, value_select_of_some (h.trans hprimary)]

/-- **Selecting takes what the database has.**  For every database and whatever family is asked for,
the stack has the one face that is the primary one and the chain of its fallbacks, under their
numbers; where no face is the primary one, no font is available. -/
theorem select_selects (db : FontDatabase) (family? : Option String) :
    db.Selects family? (FontStack.select db family?).value := by
  have hunusable : db.IsUnusable family? →
      (FontStack.select db family?).value = (FontStack.select db none).value := by
    intro h
    refine value_select_congr ((value_loadPrimary_of_isUnusable h).trans ?_)
    exact (value_loadPrimary_of_isUnusable isUnusable_none).symm
  have hunique : ∀ id face id' face', db.IsPrimary family? id face →
      db.IsPrimary family? id' face' → id = id' ∧ face = face' := fun _ _ _ _ h h' => h.unique h'
  cases hprimary : (db.loadPrimary family?).value with
  | none =>
    have hno : ¬∃ id face, db.IsPrimary family? id face := by
      rintro ⟨id, face, hface⟩
      exact absurd (hprimary.symm.trans (value_loadPrimary_eq_some_iff.mpr ⟨id, hface⟩)) nofun
    have hanswer := value_select_of_none hprimary
    refine ⟨fun face => iff_of_false ?_ fun ⟨id, h⟩ => hno ⟨id, face, h⟩, hunique, ?_, hunusable,
      fun _ => isChain_of_value_select, fun stack _ => stack.isNumbered⟩
    · rintro ⟨stack, hstack, -⟩
      exact absurd (hanswer.symm.trans hstack) nofun
    · intro e
      rw [hanswer]
      exact ⟨fun h => ⟨(Except.error.inj h).symm, hno⟩, fun h => by rw [h.1]⟩
  | some primary =>
    have hfound := value_loadPrimary_eq_some_iff.mp hprimary
    have hanswer := value_select_of_some hprimary
    refine ⟨fun face => ?_, hunique, ?_, hunusable, fun _ => isChain_of_value_select,
      fun stack _ => stack.isNumbered⟩
    · rw [← value_loadPrimary_eq_some_iff, hprimary, hanswer]
      constructor
      · rintro ⟨stack, hstack, rfl⟩
        rw [← Except.ok.inj hstack]
      · exact fun h => ⟨_, rfl, Option.some.inj h⟩
    · intro e
      rw [hanswer]
      refine iff_of_false nofun fun h => h.2 ?_
      obtain ⟨id, hid⟩ := hfound
      exact ⟨id, primary, hid⟩

end FontDatabase
end GlyphGrid
