import Mathlib.Data.String.Basic
import GlyphGrid.Proofs.Files.Writing

/-!
# Making a place for a file

The path of the directory around a path names what the path does without its last name
(`pathNames_parentPath`).  `FileTree.Admits` says what is needed of a tree so that a file can be
written under a path once the directories around it are made, and `exists_write?` that it is enough:
what is written does not matter.
-/

namespace GlyphGrid

/-! ## The names in a path -/

open String in
/-- Reading on from some place, with the piece that has begun before it. -/
lemma splitOnAux_eq (separator : Char) (before begun rest : List Char) (pieces : List String) :
    splitOnAux (ofList (before ++ begun ++ rest)) (singleton separator) ⟨utf8Len before⟩
        ⟨utf8Len before + utf8Len begun⟩ 0 pieces
      = pieces.reverse ++ (rest.splitOnPPrepend (· == separator) begun.reverse).map ofList := by
  have hsingle : singleton separator = ofList [separator] := singleton_eq_ofList
  have hget : Pos.Raw.get (singleton separator) 0 = separator := by
    rw [hsingle]
    exact get_of_valid [] [separator]
  have hnext : Pos.Raw.next (singleton separator) 0 = ⟨separator.utf8Size⟩ := by
    rw [hsingle]
    simpa using next_of_valid [] separator []
  have hend : Pos.Raw.atEnd (singleton separator) ⟨separator.utf8Size⟩ = true := by
    rw [hsingle, atEnd_iff, rawEndPos_ofList]
    simp
  induction rest generalizing before begun pieces with
  | nil =>
    have hlast : Pos.Raw.atEnd (ofList (before ++ begun ++ [])) ⟨utf8Len before + utf8Len begun⟩
        = true := by
      rw [atEnd_iff, rawEndPos_ofList]
      simp
    rw [splitOnAux, if_pos hlast, extract_of_valid]
    simp
  | cons c rest ih =>
    have hmore : ¬Pos.Raw.atEnd (ofList (before ++ begun ++ c :: rest))
        ⟨utf8Len before + utf8Len begun⟩ = true := by
      have hpos := c.utf8Size_pos
      rw [atEnd_iff, rawEndPos_ofList]
      simp only [utf8Len_append, utf8Len_cons, Pos.Raw.mk_le_mk]
      omega
    have hc : Pos.Raw.get (ofList (before ++ begun ++ c :: rest)) ⟨utf8Len before + utf8Len begun⟩
        = c := by
      simpa [-ofList_append] using get_of_valid (before ++ begun) (c :: rest)
    have hstep : Pos.Raw.next (ofList (before ++ begun ++ c :: rest))
        ⟨utf8Len before + utf8Len begun⟩ = ⟨utf8Len before + utf8Len begun + c.utf8Size⟩ := by
      simpa [-ofList_append] using next_of_valid (before ++ begun) c rest
    rw [splitOnAux, if_neg hmore, hget, hc]
    simp only [hnext, hend, hstep]
    split
    · next heq =>
      have hback : Pos.Raw.unoffsetBy ⟨utf8Len before + utf8Len begun + c.utf8Size⟩
          ⟨separator.utf8Size⟩ = ⟨utf8Len before + utf8Len begun⟩ := by
        rw [eq_of_beq heq]
        simp [Pos.Raw.unoffsetBy]
      have htext : before ++ begun ++ [c] ++ [] ++ rest = before ++ begun ++ c :: rest := by simp
      have hplace : utf8Len (before ++ begun ++ [c])
          = utf8Len before + utf8Len begun + c.utf8Size := by
        simp [Nat.add_assoc]
      have hrest := ih (before ++ begun ++ [c]) [] (ofList begun :: pieces)
      rw [htext, hplace, utf8Len_nil, Nat.add_zero] at hrest
      rw [if_true, hback, extract_of_valid, hrest, List.splitOnPPrepend_cons_eq_if, if_pos heq]
      simp
    · next hne =>
      have hback : Pos.Raw.unoffsetBy ⟨utf8Len before + utf8Len begun⟩ 0
          = ⟨utf8Len before + utf8Len begun⟩ := rfl
      have htext : before ++ (begun ++ [c]) ++ rest = before ++ begun ++ c :: rest := by simp
      have hplace : utf8Len before + utf8Len (begun ++ [c])
          = utf8Len before + utf8Len begun + c.utf8Size := by
        rw [utf8Len_append, utf8Len_cons, utf8Len_nil]
        omega
      have hrest := ih before (begun ++ [c]) pieces
      rw [htext, hplace] at hrest
      rw [hback, hstep, hrest, List.splitOnPPrepend_cons_eq_if, if_neg hne]
      simp

/-- A path is cut at its slashes. -/
lemma splitOn_slash (path : String) :
    path.splitOn "/" = (path.toList.splitOn '/').map String.ofList := by
  have h := splitOnAux_eq '/' [] [] path.toList []
  rw [List.nil_append, List.nil_append, String.ofList_toList] at h
  exact h

lemma slash_notMem_of_mem_splitOn {cs piece : List Char} (h : piece ∈ cs.splitOn '/') :
    '/' ∉ piece := by
  induction cs generalizing piece with
  | nil =>
    rw [List.splitOn_nil, List.mem_singleton] at h
    rw [h]
    exact List.not_mem_nil
  | cons c cs ih =>
    rw [List.splitOn_cons_eq_if_modifyHead] at h
    split at h
    · rcases List.mem_cons.mp h with rfl | hrest
      · exact List.not_mem_nil
      · exact ih hrest
    · next hc =>
      obtain ⟨first, rest, hsplit⟩ := List.exists_cons_of_ne_nil (List.splitOn_ne_nil '/' cs)
      rw [hsplit, List.modifyHead_cons] at h
      rcases List.mem_cons.mp h with rfl | hrest
      · rw [List.mem_cons, not_or]
        refine ⟨?_, ih (by rw [hsplit]; exact List.mem_cons_self)⟩
        rintro rfl
        exact hc rfl
      · exact ih (by rw [hsplit]; exact List.mem_cons_of_mem _ hrest)

/-- A name says something and has no slash in it. -/
structure IsName (name : String) : Prop where
  slash_notMem : '/' ∉ name.toList
  ne_empty : name ≠ ""
  ne_dot : name ≠ "."

lemma isName_of_mem_pathNames {path name : String} (h : name ∈ pathNames path) : IsName name := by
  rw [pathNames, List.mem_filter, Bool.and_eq_true, bne_iff_ne, bne_iff_ne, splitOn_slash,
    List.mem_map] at h
  obtain ⟨⟨piece, hpiece, rfl⟩, hempty, hdot⟩ := h
  refine ⟨?_, hempty, hdot⟩
  rw [String.toList_ofList]
  exact slash_notMem_of_mem_splitOn hpiece

/-- Joined names are the names of what they are joined to. -/
lemma pathNames_intercalate {names : List String} (h : ∀ name ∈ names, IsName name) :
    pathNames ("/".intercalate names) = names := by
  cases names with
  | nil =>
    rw [pathNames, splitOn_slash]
    rfl
  | cons name names =>
    have hpieces : ("/".intercalate (name :: names)).toList.splitOn '/'
        = (name :: names).map String.toList := by
      have hslash : "/".toList = ['/'] := rfl
      rw [String.toList_intercalate, hslash]
      refine List.splitOn_intercalate '/' (fun piece hpiece => ?_) (by simp)
      obtain ⟨name, hname, rfl⟩ := List.mem_map.mp hpiece
      exact (h name hname).slash_notMem
    have hmap : ((name :: names).map String.toList).map String.ofList = name :: names := by
      rw [List.map_map]
      exact (List.map_congr_left fun name _ => String.ofList_toList).trans (List.map_id _)
    rw [pathNames, splitOn_slash, hpieces, hmap, List.filter_eq_self]
    intro name hname
    rw [bne_iff_ne.mpr (h name hname).ne_empty, bne_iff_ne.mpr (h name hname).ne_dot]
    rfl

lemma pathNames_slash_append (path : String) : pathNames ("/" ++ path) = pathNames path := by
  have hpieces : ("/" ++ path).toList.splitOn '/' = [] :: path.toList.splitOn '/' := by
    rw [String.toList_append]
    exact (List.splitOn_cons_eq_if_modifyHead '/' path.toList).trans (if_pos rfl)
  rw [pathNames, splitOn_slash, hpieces, List.map_cons, List.filter_cons_of_neg (by decide),
    pathNames, splitOn_slash]

/-- The path of the directory around a path names what the path does without its last name. -/
lemma pathNames_parentPath (path : String) :
    pathNames (parentPath path) = (pathNames path).dropLast := by
  have hnames : ∀ name ∈ (pathNames path).dropLast, IsName name :=
    fun name h => isName_of_mem_pathNames (List.dropLast_subset _ h)
  rw [parentPath]
  split
  · rw [pathNames_slash_append, pathNames_intercalate hnames]
  · rw [String.empty_append, pathNames_intercalate hnames]

lemma isAbsolute_parentPath (path : String) : isAbsolute (parentPath path) = isAbsolute path := by
  rw [parentPath]
  split
  · next habsolute =>
    rw [habsolute, isAbsolute, String.toList_append]
    rfl
  · next habsolute =>
    rw [Bool.not_eq_true] at habsolute
    rw [habsolute, String.empty_append, isAbsolute, decide_eq_false_iff_not]
    cases hnames : (pathNames path).dropLast with
    | nil => simp
    | cons name names =>
      have hname : IsName name := isName_of_mem_pathNames
        (List.dropLast_subset _ (by rw [hnames]; exact List.mem_cons_self))
      have hne : name.toList ≠ [] := by
        rw [ne_eq, String.toList_eq_nil_iff]
        exact hname.ne_empty
      obtain ⟨c, cs, hcs⟩ := List.exists_cons_of_ne_nil hne
      have hhead : ("/".intercalate (name :: names)).toList.head? = some c := by
        rw [String.toList_intercalate, List.map_cons, hcs]
        cases names <;> simp [List.intercalate]
      have hslash := hname.slash_notMem
      rw [hcs, List.mem_cons, not_or] at hslash
      rw [hhead, Option.some.injEq]
      exact fun h => hslash.1 h.symm

namespace FileTree

variable {t later : FileTree} {place : Location} {names : List String} {working : Location}
  {path : String}

lemma origin_parentPath (working : Location) (path : String) :
    origin working (parentPath path) = origin working path := by
  rw [origin, origin, isAbsolute_parentPath]

/-! ## Making directories -/

lemma mem_placesFrom_self (place : Location) (names : List String) :
    place ∈ placesFrom place names := by
  cases names with
  | nil => exact List.mem_singleton_self place
  | cons name names => exact List.mem_cons_self

lemma foldl_step_mem_placesFrom (place : Location) (names : List String) :
    names.foldl step place ∈ placesFrom place names := by
  induction names generalizing place with
  | nil => exact List.mem_singleton_self place
  | cons name names ih => exact List.mem_cons_of_mem _ (ih (step place name))

lemma isDirectory_congr (h : later.get? place = t.get? place) :
    later.isDirectory place = t.isDirectory place := by
  rw [isDirectory, isDirectory, h]

/-- Directories can be made where names lead through if nothing else is there. -/
lemma exists_makeDirectoriesFrom? (hstart : t.isDirectory place = true)
    (hfree : ∀ other ∈ placesFrom place names, t.get? other = none ∨ t.isDirectory other = true) :
    ∃ later, t.makeDirectoriesFrom? place names = some later
      ∧ (∀ other ∈ placesFrom place names, later.isDirectory other = true)
      ∧ ∀ other ∉ placesFrom place names, later.get? other = t.get? other := by
  induction names generalizing t place with
  | nil =>
    refine ⟨t, rfl, fun other hother => ?_, fun _ _ => rfl⟩
    rw [placesFrom, List.mem_singleton] at hother
    rw [hother]
    exact hstart
  | cons name names ih =>
    -- What is made further on keeps `place` a directory, whether the names lead through it again
    -- or not.
    have hback {middle later : FileTree} (hplace : middle.isDirectory place = true)
        (hmade : ∀ other ∈ placesFrom (step place name) names, later.isDirectory other = true)
        (hsame : ∀ other ∉ placesFrom (step place name) names,
          later.get? other = middle.get? other) :
        ∀ other ∈ placesFrom place (name :: names), later.isDirectory other = true := by
      intro other hother
      rcases List.mem_cons.mp hother with rfl | hother
      · by_cases hagain : other ∈ placesFrom (step other name) names
        · exact hmade other hagain
        · rw [isDirectory_congr (hsame other hagain), hplace]
      · exact hmade other hother
    have hnext := mem_placesFrom_self (step place name) names
    have hrest : ∀ other ∈ placesFrom (step place name) names,
        t.get? other = none ∨ t.isDirectory other = true :=
      fun other hother => hfree other (List.mem_cons_of_mem _ hother)
    cases hget : t.get? (step place name) with
    | none =>
      have hne : step place name ≠ [] := by
        intro hnil
        rw [hnil] at hget
        cases hget
      have hmade : (t.set (step place name) .directory).isDirectory (step place name) = true := by
        rw [isDirectory, get?_set_self hne]
      have hkept {other : Location} (hother : t.isDirectory other = true) :
          (t.set (step place name) .directory).isDirectory other = true := by
        by_cases heq : other = step place name
        · rw [heq, hmade]
        · rw [isDirectory_congr (get?_set_of_ne heq _), hother]
      obtain ⟨later, hlater, hdirectories, hsame⟩ := ih hmade (by
        intro other hother
        by_cases heq : other = step place name
        · exact .inr (by rw [heq, hmade])
        · rw [get?_set_of_ne heq]
          exact (hrest other hother).imp_right hkept)
      refine ⟨later, by rwa [makeDirectoriesFrom?, hget], hback (hkept hstart) hdirectories hsame,
        fun other hother => ?_⟩
      rw [placesFrom, List.mem_cons, not_or] at hother
      rw [hsame other hother.2, get?_set_of_ne]
      rintro rfl
      exact hother.2 hnext
    | some entry =>
      have hdirectory : t.isDirectory (step place name) = true := by
        rcases hrest _ hnext with hnone | hdirectory
        · rw [hget] at hnone
          cases hnone
        · exact hdirectory
      cases entry with
      | directory =>
        obtain ⟨later, hlater, hdirectories, hsame⟩ := ih hdirectory hrest
        refine ⟨later, by rwa [makeDirectoriesFrom?, hget], hback hstart hdirectories hsame,
          fun other hother => ?_⟩
        rw [placesFrom, List.mem_cons, not_or] at hother
        exact hsame other hother.2
      | file bytes =>
        rw [isDirectory, hget] at hdirectory
        cases hdirectory
      | picture image patches =>
        rw [isDirectory, hget] at hdirectory
        cases hdirectory

/-- Names are followed to where they lead through directories. -/
lemma follow?_append_singleton (name : String)
    (h : ∀ other ∈ placesFrom place names, t.isDirectory other = true) :
    t.follow? place (names ++ [name]) = some (step (names.foldl step place) name) := by
  induction names generalizing place with
  | nil =>
    rw [List.nil_append, follow?, h place (List.mem_singleton_self place)]
    rfl
  | cons first names ih =>
    rw [List.cons_append, follow?, h place List.mem_cons_self]
    exact ih fun other hother => h other (List.mem_cons_of_mem _ hother)

/-! ## Writing a file -/

/-- The last name in the path of a file is a name, and not the one of the directory around. -/
lemma exists_pathNames_eq_append (h : endsInDirectory path = false) :
    ∃ names name, pathNames path = names ++ [name] ∧ name ≠ ".." := by
  rcases List.eq_nil_or_concat' (path.splitOn "/") with hnil | ⟨pieces, last, hpieces⟩
  · rw [splitOn_slash, List.map_eq_nil_iff] at hnil
    exact absurd hnil (List.splitOn_ne_nil '/' path.toList)
  · rw [endsInDirectory, hpieces, List.getLast?_concat] at h
    simp only [Bool.or_eq_false_iff, beq_eq_false_iff_ne] at h
    refine ⟨pieces.filter fun name => name != "" && name != ".", last, ?_, h.2⟩
    rw [pathNames, hpieces, List.filter_append, List.filter_cons_of_pos, List.filter_nil]
    rw [bne_iff_ne.mpr h.1.1, bne_iff_ne.mpr h.1.2]
    rfl

/-- Where a path leads, if the names on the way are those of directories. -/
def destination (working : Location) (path : String) : Location :=
  (pathNames path).foldl step (origin working path)

/-- A tree in which a file can be written under a path, once the directories around it are made: the
path is one of a file, nothing but directories is on the way, and none is where the file will be. -/
structure Admits (t : FileTree) (working : Location) (path : String) : Prop where
  names_file : endsInDirectory path = false
  start : t.isDirectory (origin working path) = true
  free : ∀ place ∈ placesFrom (origin working path) (pathNames path).dropLast,
    t.get? place = none ∨ t.isDirectory place = true
  not_around : destination working path
    ∉ placesFrom (origin working path) (pathNames path).dropLast
  not_directory : t.isDirectory (destination working path) = false

/-- What is written under a path does not matter to whether it can be. -/
lemma Admits.exists_write? (h : t.Admits working path) (bytes : List UInt8) :
    ∃ middle later, t.makeDirectories? working (parentPath path) = some middle
      ∧ middle.write? working path bytes = some later := by
  obtain ⟨names, name, hnames, hname⟩ := exists_pathNames_eq_append h.names_file
  have hfree := h.free
  have haround := h.not_around
  have hdestination : destination working path
      = names.foldl step (origin working path) ++ [name] := by
    rw [destination, hnames, List.foldl_append, List.foldl_cons, List.foldl_nil, step,
      if_neg (by rwa [beq_iff_eq])]
  rw [hnames, List.dropLast_concat] at hfree haround
  obtain ⟨middle, hmade, hdirectories, hsame⟩ := exists_makeDirectoriesFrom? h.start hfree
  have hlocated : middle.locate? working path = some (destination working path) := by
    have hnonempty : path.isEmpty = false := by
      rw [Bool.eq_false_iff]
      intro hempty
      have hnone : pathNames path = [] := by
        rw [String.isEmpty_iff.mp hempty]
        exact pathNames_intercalate (List.forall_mem_nil IsName)
      rw [hnames] at hnone
      exact absurd hnone (List.append_ne_nil_of_right_ne_nil _ (List.cons_ne_nil name []))
    rw [locate?, hnonempty, hnames, follow?_append_singleton name hdirectories, h.names_file,
      destination, hnames, List.foldl_append]
    rfl
  have hnot : middle.isDirectory (destination working path) = false := by
    rw [isDirectory_congr (hsame _ haround), h.not_directory]
  have hparent : middle.isDirectory (destination working path).dropLast = true := by
    rw [hdestination, List.dropLast_concat]
    exact hdirectories _ (foldl_step_mem_placesFrom _ names)
  have hput : middle.write? working path bytes
      = some (middle.set (destination working path) (.file bytes)) := by
    rw [write?, put?, hlocated]
    simp [hnot, hparent]
  refine ⟨middle, _, ?_, hput⟩
  rw [makeDirectories?, origin_parentPath, pathNames_parentPath, hnames, List.dropLast_concat,
    hmade]

end FileTree
end GlyphGrid
