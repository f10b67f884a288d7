import Mathlib.Tactic.Lemma
import GlyphGrid.Grid.Layout
import GlyphGrid.Proofs.Text.Clusters

/-!
# Wrapping cuts lines into pieces

`CellGrid.layout` goes through the clusters of a text once and decides for each of them whether it
closes a row, joins the last one or opens a new one.  What comes out can be said without a loop
over rows: the lines are what stands between the line ends (`List.splitOnP`), and wrapping cuts each
line into consecutive `CellGrid.pieces`, all of them full but the last.  `Wraps` collects this with
its consequences for the number and the lengths of the rows, and with what holds of the cells
whatever the limit: they are the clusters of the text that end no line, in their order.

The step is `place_eq`, by induction on the clusters that are still to come.  Its invariant is that
the open row is no longer than the limit, so that this row is a piece so far and the line that it
belongs to is cut at its end as soon as another cell comes.
-/

namespace GlyphGrid.CellGrid

/-- A line cut into consecutive rows of `columns` cells, of which the last may be shorter.  A line
without cells is one row, and zero columns do not cut. -/
def pieces (columns : Nat) (line : List String) : CellGrid :=
  if 0 < columns ∧ columns < line.length then
    line.take columns :: pieces columns (line.drop columns)
  else [line]
termination_by line.length
decreasing_by
  rw [List.length_drop]
  omega

/-- The rows of a text that is laid out with at most `columns` cells in a row, or without a limit if
`columns` is zero. -/
structure Wraps (text : String) (columns : Nat) : Prop where
  /-- Without a limit the rows are the lines of the text. -/
  lines_eq : layout text 0 = (Text.clusters text).splitOnP isLineEnd
  /-- With a limit they are the pieces of the lines. -/
  rows_eq : layout text columns = (layout text 0).flatMap (pieces columns)
  flatten_pieces_eq : ∀ line ∈ layout text 0, (pieces columns line).flatten = line
  length_le : 0 < columns → ∀ row ∈ layout text columns, row.length ≤ columns
  /-- A line takes as many rows as its cells fill, and one if it has none. -/
  length_pieces_eq : 0 < columns → ∀ line ∈ layout text 0,
    (pieces columns line).length = max 1 ((line.length + columns - 1) / columns)
  /-- All rows of a line but its last are full. -/
  full : 0 < columns → ∀ line ∈ layout text 0, ∀ row ∈ (pieces columns line).dropLast,
    row.length = columns
  /-- A line with cells leaves no row blank, even where it fills its last one. -/
  not_blank : ∀ line ∈ layout text 0, line ≠ [] → [] ∉ pieces columns line
  cell_ne : ∀ row ∈ layout text columns, ∀ cell ∈ row,
    cell ≠ "" ∧ cell ≠ "\n" ∧ cell ≠ "\r\n"
  /-- No cell is lost or repeated. -/
  cells_eq : (layout text columns).flatten
    = (Text.clusters text).filter fun cluster => cluster ≠ "\n" ∧ cluster ≠ "\r\n"
  /-- The clusters that the cells are taken from are all of the text. -/
  clusters_eq : (Text.clusters text).flatMap String.toList = text.toList

/-! ## Pieces of a line -/

lemma pieces_of_length_le {columns : Nat} {line : List String}
    (h : columns = 0 ∨ line.length ≤ columns) : pieces columns line = [line] := by
  rw [pieces, if_neg (by omega)]

/-- A full row is cut off where more of its line comes. -/
lemma pieces_append {columns : Nat} {row rest : List String} (hcolumns : 0 < columns)
    (hrow : row.length = columns) (hrest : rest ≠ []) :
    pieces columns (row ++ rest) = row :: pieces columns rest := by
  have hlonger : columns < (row ++ rest).length := by
    have hpos := List.length_pos_iff.mpr hrest
    rw [List.length_append]
    omega
  rw [pieces, if_pos ⟨hcolumns, hlonger⟩, List.take_left' hrow, List.drop_left' hrow]

lemma pieces_ne_nil (columns : Nat) (line : List String) : pieces columns line ≠ [] := by
  rw [pieces]
  split
  · exact List.cons_ne_nil _ _
  · exact List.cons_ne_nil _ _

@[simp] lemma flatten_pieces (columns : Nat) (line : List String) :
    (pieces columns line).flatten = line := by
  fun_induction pieces columns line with
  | case1 line h ih => rw [List.flatten_cons, ih, List.take_append_drop]
  | case2 line h => exact List.flatten_singleton

lemma length_le_of_mem_pieces {columns : Nat} {line row : List String} (hcolumns : 0 < columns)
    (h : row ∈ pieces columns line) : row.length ≤ columns := by
  fun_induction pieces columns line with
  | case1 line hlong ih =>
    rcases List.mem_cons.mp h with rfl | hrest
    · exact List.length_take_le _ _
    · exact ih hrest
  | case2 line hshort =>
    rw [List.mem_singleton.mp h]
    omega

lemma length_pieces {columns : Nat} (hcolumns : 0 < columns) (line : List String) :
    (pieces columns line).length = max 1 ((line.length + columns - 1) / columns) := by
  fun_induction pieces columns line with
  | case1 line hlong ih =>
    -- The cells behind the first piece fill one row less.
    have hrows : (line.length + columns - 1) / columns = (line.length - 1) / columns + 1 := by
      rw [← Nat.add_div_right _ hcolumns]
      congr 1
      omega
    have hmore : 1 ≤ (line.length - 1) / columns := by
      rw [Nat.le_div_iff_mul_le hcolumns]
      omega
    have hbehind : line.length - columns + columns - 1 = line.length - 1 := by omega
    rw [List.length_cons, ih, List.length_drop, hbehind, hrows]
    omega
  | case2 line hshort =>
    have hone : (line.length + columns - 1) / columns ≤ 1 := by
      rw [← Nat.lt_succ_iff, Nat.div_lt_iff_lt_mul hcolumns]
      omega
    rw [List.length_singleton]
    omega

/-- All pieces but the last are full. -/
lemma length_eq_of_mem_dropLast_pieces {columns : Nat} {line row : List String}
    (h : row ∈ (pieces columns line).dropLast) : row.length = columns := by
  fun_induction pieces columns line with
  | case1 line hlong ih =>
    rw [List.dropLast_cons_of_ne_nil (pieces_ne_nil _ _)] at h
    rcases List.mem_cons.mp h with rfl | hrest
    · rw [List.length_take]
      omega
    · exact ih hrest
  | case2 line hshort => exact absurd h List.not_mem_nil

/-- Each piece of a line with cells has cells. -/
lemma nil_notMem_pieces {columns : Nat} {line : List String} (h : line ≠ []) :
    [] ∉ pieces columns line := by
  fun_induction pieces columns line with
  | case1 line hlong ih =>
    have hfirst : line.take columns ≠ [] := by
      rw [ne_eq, List.take_eq_nil_iff, not_or]
      exact ⟨by omega, h⟩
    have hbehind : line.drop columns ≠ [] := by
      rw [ne_eq, List.drop_eq_nil_iff]
      omega
    rw [List.mem_cons]
    rintro (hnil | hnil)
    · exact hfirst hnil.symm
    · exact ih hbehind hnil
  | case2 line hshort =>
    rw [List.mem_singleton]
    exact h.symm

/-! ## Laying out -/

lemma hasRoom_iff (columns count : Nat) :
    hasRoom columns count = true ↔ columns = 0 ∨ count < columns := by
  rw [hasRoom, Bool.or_eq_true, beq_iff_eq, decide_eq_true_iff]

/-- Placing clusters behind an open row cuts the lines, of which the first begins with that row. -/
lemma place_eq (columns : Nat) (row clusters : List String)
    (hrow : columns = 0 ∨ row.length ≤ columns) :
    place columns row clusters
      = (clusters.splitOnPPrepend isLineEnd row).flatMap (pieces columns) := by
  induction clusters generalizing row with
  | nil =>
    have hpiece : pieces columns row.reverse = [row.reverse] :=
      pieces_of_length_le (by rw [List.length_reverse]; exact hrow)
    rw [place, List.splitOnPPrepend_nil, List.flatMap_singleton, hpiece]
  | cons cluster clusters ih =>
    have hpiece : pieces columns row.reverse = [row.reverse] :=
      pieces_of_length_le (by rw [List.length_reverse]; exact hrow)
    rw [place, List.splitOnPPrepend_cons_eq_if]
    by_cases hend : isLineEnd cluster = true
    · rw [if_pos hend, if_pos hend, ih [] (.inr (Nat.zero_le _)), List.flatMap_cons, hpiece]
      rfl
    · rw [if_neg hend, if_neg hend]
      by_cases hroom : hasRoom columns row.length = true
      · rw [if_pos hroom]
        exact ih (cluster :: row) ((hasRoom_iff _ _).mp hroom)
      · -- The open row is full, and the line goes on with `cluster`.
        rw [hasRoom_iff] at hroom
        have hcolumns : 0 < columns := by omega
        have hfull : row.reverse.length = columns := by
          rw [List.length_reverse]
          omega
        obtain ⟨rest, lines, hsplit⟩ :=
          List.exists_cons_of_ne_nil (List.splitOnP_ne_nil isLineEnd clusters)
        have hcut := pieces_append hcolumns hfull (List.cons_ne_nil cluster rest)
        rw [if_neg (by rw [hasRoom_iff]; exact hroom), ih [cluster] (.inr hcolumns),
          List.splitOnPPrepend_eq_modifyHead, List.splitOnPPrepend_eq_modifyHead, hsplit]
        simp only [List.modifyHead_cons, List.flatMap_cons, List.reverse_cons, List.reverse_nil,
          List.nil_append, List.singleton_append, List.append_assoc, hcut]
        rfl

/-- The cells are the clusters that end no line. -/
lemma flatten_place (columns : Nat) (row clusters : List String) :
    (place columns row clusters).flatten
      = row.reverse ++ clusters.filter fun cluster => !isLineEnd cluster := by
  induction clusters generalizing row with
  | nil => rw [place, List.flatten_singleton, List.filter_nil, List.append_nil]
  | cons cluster clusters ih =>
    rw [place]
    by_cases hend : isLineEnd cluster = true
    · rw [if_pos hend, List.flatten_cons, ih, List.filter_cons_of_neg (by simp [hend])]
      rfl
    · rw [if_neg hend, List.filter_cons_of_pos (by simp [hend])]
      split
      · rw [ih, List.reverse_cons, List.append_assoc, List.singleton_append]
      · rw [List.flatten_cons, ih, List.reverse_singleton, List.singleton_append]

lemma not_isLineEnd_iff (cluster : String) :
    (!isLineEnd cluster) = true ↔ cluster ≠ "\n" ∧ cluster ≠ "\r\n" := by
  rw [Bool.not_eq_true', isLineEnd, Bool.or_eq_false_iff, beq_eq_false_iff_ne,
    beq_eq_false_iff_ne]

lemma layout_eq (text : String) (columns : Nat) :
    layout text columns
      = ((Text.clusters text).splitOnP isLineEnd).flatMap (pieces columns) :=
  place_eq columns [] (Text.clusters text) (.inr (Nat.zero_le _))

lemma flatten_layout (text : String) (columns : Nat) : (layout text columns).flatten
    = (Text.clusters text).filter fun cluster => cluster ≠ "\n" ∧ cluster ≠ "\r\n" := by
  rw [layout, flatten_place, List.reverse_nil, List.nil_append]
  congr 1
  funext cluster
  rw [Bool.eq_iff_iff, not_isLineEnd_iff, decide_eq_true_iff]

lemma layout_zero (text : String) :
    layout text 0 = (Text.clusters text).splitOnP isLineEnd := by
  have huncut : pieces 0 = fun line => [line] := by
    funext line
    exact pieces_of_length_le (.inl rfl)
  rw [layout_eq, huncut, List.flatMap_singleton']

/-- A cell shows something and is no line end. -/
lemma ne_of_mem_layout {text cell : String} {columns : Nat} {row : List String}
    (hrow : row ∈ layout text columns) (hcell : cell ∈ row) :
    cell ≠ "" ∧ cell ≠ "\n" ∧ cell ≠ "\r\n" := by
  have hmem : cell ∈ (layout text columns).flatten := List.mem_flatten_of_mem hrow hcell
  rw [flatten_layout, List.mem_filter, decide_eq_true_iff] at hmem
  exact ⟨Text.ne_empty_of_mem_clusters hmem.1, hmem.2⟩

/-- **Wrapping is cutting.**  For every limit the rows of a text are the pieces of its lines, and
its cells are its clusters without the line ends. -/
theorem layout_wraps (text : String) (columns : Nat) : Wraps text columns := by
  have hrows : layout text columns = (layout text 0).flatMap (pieces columns) := by
    rw [layout_eq, layout_zero]
  refine ⟨layout_zero text, hrows, fun line _ => flatten_pieces columns line, ?_, ?_, ?_, ?_, ?_,
    flatten_layout text columns, Text.flatMap_toList_clusters text⟩
  · intro hcolumns row hrow
    rw [hrows] at hrow
    obtain ⟨line, -, hpiece⟩ := List.mem_flatMap.mp hrow
    exact length_le_of_mem_pieces hcolumns hpiece
  · exact fun hcolumns line _ => length_pieces hcolumns line
  · exact fun _ line _ row hrow => length_eq_of_mem_dropLast_pieces hrow
  · exact fun line _ hline => nil_notMem_pieces hline
  · exact fun row hrow cell hcell => ne_of_mem_layout hrow hcell

/-- A line that fills its rows is followed by no blank row, and an empty line is one. -/
example : layout "abcd\r\n\ne" 2 = [["a", "b"], ["c", "d"], [], ["e"]] := by decide

end GlyphGrid.CellGrid
