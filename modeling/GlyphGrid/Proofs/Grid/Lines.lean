import Mathlib.Tactic.Lemma
import GlyphGrid.Grid.Layout

/-!
# Lines are laid out on their own

Cutting a text into clusters looks back: whether a character belongs to the cluster before it may
depend on flags, pictographs or consonants far behind.  A line end forgets all of this.  Two
characters are `Text.Separated` if there is a cut between them whatever stands before, and a line
feed is so from all that follows it and from all that precedes it but a carriage return.  Where the
characters at a seam are separated, the clusters of the whole are those of the parts
(`Text.clustersOf_append`); the induction is on the part before the seam, and of the tail that is
carried along it keeps only the class of the last character.

Laying out forgets as much: a row that a line end closes has no say in the rows that follow
(`CellGrid.place_append`).  Together a text is laid out line by line
(`CellGrid.layout_intercalate`).
-/

namespace GlyphGrid

namespace Text

/-! ## Where characters do not join -/

/-- Two characters with a cut between them, whatever stands before the first. -/
def Separated (d c : Char) : Prop := ∀ t : Tail, t.last = breakClass d → t.joins c = false

/-- A control joins nothing, but a line feed joins a carriage return. -/
lemma Tail.joins_eq_false {t : Tail} {c : Char}
    (hcontrol : t.last.isControl = true ∨ (breakClass c).isControl = true)
    (hpair : t.last = .carriageReturn → breakClass c ≠ .lineFeed) : t.joins c = false := by
  have hreturn : ¬(t.last = .carriageReturn && breakClass c = .lineFeed) = true := by
    simpa using hpair
  have hstop : (t.last.isControl || (breakClass c).isControl) = true := by
    simpa using hcontrol
  rw [joins, if_neg hreturn, if_pos hstop]

lemma breakClass_ne_carriageReturn {c : Char} (h : c ≠ '\r') :
    breakClass c ≠ .carriageReturn := by
  rw [breakClass, if_neg h]
  -- The tables of ranges are long, and none of them has to be opened.
  repeat' first
    | refine iteInduction (motive := (· ≠ BreakClass.carriageReturn)) (fun _ => ?_) (fun _ => ?_)
    | exact nofun

lemma separated_newline {d : Char} (h : d ≠ '\r') : Separated d '\n' := by
  intro t ht
  refine Tail.joins_eq_false (.inr rfl) fun hreturn => ?_
  rw [ht] at hreturn
  exact absurd hreturn (breakClass_ne_carriageReturn h)

lemma separated_carriageReturn (d : Char) : Separated d '\r' :=
  fun _ _ => Tail.joins_eq_false (.inr rfl) fun _ => nofun

lemma newline_separated (c : Char) : Separated '\n' c := by
  intro t ht
  refine Tail.joins_eq_false (.inl ?_) fun hreturn => ?_
  · rw [ht]
    rfl
  · rw [ht] at hreturn
    exact absurd hreturn nofun

/-! ## Cutting at a seam -/

/-- The clusters of a text that goes on behind a seam; the open one ends in `d` so far. -/
lemma clustersFrom_append {t : Tail} {d : Char} {begun cs ds : List Char}
    (ht : t.last = breakClass d)
    (h : ∀ last ∈ (d :: cs).getLast?, ∀ c ∈ ds.head?, Separated last c) :
    clustersFrom t (d :: begun) (cs ++ ds)
      = clustersFrom t (d :: begun) cs ++ clustersOf ds := by
  induction cs generalizing t d begun with
  | nil =>
    cases ds with
    | nil => exact (List.append_nil _).symm
    | cons c ds =>
      have hcut : t.joins c = false := h d rfl c rfl t ht
      rw [List.nil_append, clustersFrom, clustersFrom, if_neg (Bool.eq_false_iff.mp hcut)]
      rfl
  | cons e cs ih =>
    rw [List.getLast?_cons_cons] at h
    rw [List.cons_append, clustersFrom, clustersFrom]
    split
    · exact ih rfl h
    · rw [ih rfl h, List.cons_append]

/-- Where the characters at a seam are separated, the clusters are those of the two parts. -/
lemma clustersOf_append {cs ds : List Char}
    (h : ∀ last ∈ cs.getLast?, ∀ c ∈ ds.head?, Separated last c) :
    clustersOf (cs ++ ds) = clustersOf cs ++ clustersOf ds := by
  cases cs with
  | nil => rfl
  | cons d cs => exact clustersFrom_append rfl h

lemma clusters_append {a b : String}
    (h : ∀ last ∈ a.toList.getLast?, ∀ c ∈ b.toList.head?, Separated last c) :
    clusters (a ++ b) = clusters a ++ clusters b := by
  rw [clusters, String.toList_append, clustersOf_append h, List.map_append]
  rfl

/-- A line end that does not join what comes before it is a cluster of its own: it ends in a line
feed, which nothing joins that comes behind. -/
lemma clusters_append_lineEnd {a lineEnd : String} (hself : clusters lineEnd = [lineEnd])
    (hlast : lineEnd.toList.getLast? = some '\n')
    (hbefore : ∀ last ∈ a.toList.getLast?, ∀ c ∈ lineEnd.toList.head?, Separated last c)
    (b : String) :
    clusters (a ++ lineEnd ++ b) = clusters a ++ lineEnd :: clusters b := by
  have hafter : ∀ last ∈ (a ++ lineEnd).toList.getLast?, ∀ c ∈ b.toList.head?,
      Separated last c := by
    intro last hmem c _
    rw [String.toList_append, List.getLast?_append, hlast, Option.some_or] at hmem
    cases hmem
    exact newline_separated c
  rw [clusters_append hafter, clusters_append hbefore, hself, List.append_assoc,
    List.singleton_append]

/-- A line feed is a cluster unless a carriage return comes before it. -/
lemma clusters_append_newline {a : String} (h : a.toList.getLast? ≠ some '\r') (b : String) :
    clusters (a ++ "\n" ++ b) = clusters a ++ "\n" :: clusters b := by
  refine clusters_append_lineEnd rfl rfl ?_ b
  intro last hlast c hc
  cases hc
  refine separated_newline ?_
  rintro rfl
  exact h hlast

/-- A carriage return and a line feed are a cluster behind any text. -/
lemma clusters_append_carriageReturn (a b : String) :
    clusters (a ++ "\r\n" ++ b) = clusters a ++ "\r\n" :: clusters b := by
  refine clusters_append_lineEnd rfl rfl ?_ b
  intro last _ c hc
  cases hc
  exact separated_carriageReturn last

end Text

namespace CellGrid

/-! ## Laying out -/

/-- Clusters behind a line end are placed as if nothing came before. -/
lemma place_append {lineEnd : String} (h : isLineEnd lineEnd = true) (columns : Nat)
    (row before after : List String) :
    place columns row (before ++ lineEnd :: after)
      = place columns row before ++ place columns [] after := by
  induction before generalizing row with
  | nil =>
    rw [List.nil_append, place, place, if_pos h, List.singleton_append]
  | cons cluster before ih =>
    rw [List.cons_append, place, place]
    split
    · rw [ih, List.cons_append]
    · split
      · exact ih (cluster :: row)
      · rw [ih, List.cons_append]

/-- A line end that is a cluster by itself, and closes a row, between two texts. -/
structure Parts (lineEnd a b : String) : Prop where
  clusters_eq : Text.clusters (a ++ lineEnd ++ b)
    = Text.clusters a ++ lineEnd :: Text.clusters b
  layout_eq : ∀ columns,
    layout (a ++ lineEnd ++ b) columns = layout a columns ++ layout b columns

lemma parts_of_clusters {lineEnd a b : String} (hend : isLineEnd lineEnd = true)
    (h : Text.clusters (a ++ lineEnd ++ b) = Text.clusters a ++ lineEnd :: Text.clusters b) :
    Parts lineEnd a b where
  clusters_eq := h
  layout_eq := by
    intro columns
    rw [layout, h, place_append hend]
    rfl

lemma parts_newline {a : String} (h : a.toList.getLast? ≠ some '\r') (b : String) :
    Parts "\n" a b :=
  parts_of_clusters (by decide) (Text.clusters_append_newline h b)

/-- Lines that a line feed joins are laid out one after the other. -/
theorem layout_intercalate (columns : Nat) (line : String) (lines : List String)
    (h : ∀ l ∈ line :: lines, l.toList.getLast? ≠ some '\r') :
    layout ("\n".intercalate (line :: lines)) columns
      = (line :: lines).flatMap (layout · columns) := by
  induction lines generalizing line with
  | nil => simp
  | cons next lines ih =>
    rw [List.forall_mem_cons] at h
    rw [String.intercalate_cons_cons, (parts_newline h.1 _).layout_eq, ih next h.2]
    rfl

/-- **Line by line.**  A line feed that does not follow a carriage return, and a carriage return
with a line feed in any place, is a cluster of its own, and what stands before it and behind it is
laid out as it would be alone, whatever the limit. -/
theorem layout_lines (a b : String) :
    (a.toList.getLast? ≠ some '\r' → Parts "\n" a b) ∧ Parts "\r\n" a b :=
  ⟨fun h => parts_newline h b,
    parts_of_clusters (by decide) (Text.clusters_append_carriageReturn a b)⟩

/-- Half a flag, a joiner and a row that is not full stand before the line feed; the other half of
the flag and an accent behind it begin a cell and a row of their own. -/
theorem layout_lines_of_flags :
    "ab🇩👩\u200D".toList.getLast? ≠ some '\r' ∧
      layout "ab🇩👩\u200D\n\u0301🇪c" 3
        = [["a", "b", "🇩"], ["👩\u200D"], ["\u0301", "🇪", "c"]] := by
  have hend : "ab🇩👩\u200D".toList.getLast? ≠ some '\r' := by decide
  refine ⟨hend, ?_⟩
  have h := ((layout_lines "ab🇩👩\u200D" "\u0301🇪c").1 hend).layout_eq 3
  rw [show "ab🇩👩\u200D\n\u0301🇪c" = "ab🇩👩\u200D" ++ "\n" ++ "\u0301🇪c" by decide, h]
  decide +kernel

end CellGrid
end GlyphGrid
