import Mathlib.Tactic.Lemma
import GlyphGrid.Text.Grapheme

/-!
# Clusters cut a text

`Text.clusters` does nothing but cut: the clusters in their order spell the text
(`flatMap_toList_clusters`), and none of them is empty (`ne_empty_of_mem_clusters`).  Neither
depends on where the cuts are, so that no class of characters occurs here.
-/

namespace GlyphGrid.Text

lemma flatten_clustersFrom (t : Tail) (begun cs : List Char) :
    (clustersFrom t begun cs).flatten = begun.reverse ++ cs := by
  induction cs generalizing t begun with
  | nil => rw [clustersFrom, List.flatten_singleton, List.append_nil]
  | cons c cs ih =>
    rw [clustersFrom]
    split
    · rw [ih, List.reverse_cons, List.append_assoc, List.singleton_append]
    · rw [List.flatten_cons, ih, List.reverse_singleton, List.singleton_append]

/-- A cluster holds at least the character that it began with. -/
lemma ne_nil_of_mem_clustersFrom {t : Tail} {begun cs cluster : List Char} (hbegun : begun ≠ [])
    (h : cluster ∈ clustersFrom t begun cs) : cluster ≠ [] := by
  induction cs generalizing t begun with
  | nil =>
    rw [clustersFrom, List.mem_singleton] at h
    rw [h, ne_eq, List.reverse_eq_nil_iff]
    exact hbegun
  | cons c cs ih =>
    rw [clustersFrom] at h
    split at h
    · exact ih (List.cons_ne_nil c begun) h
    · rcases List.mem_cons.mp h with hfirst | hrest
      · rw [hfirst, ne_eq, List.reverse_eq_nil_iff]
        exact hbegun
      · exact ih (List.cons_ne_nil c []) hrest

lemma flatten_clustersOf (cs : List Char) : (clustersOf cs).flatten = cs := by
  cases cs with
  | nil => rfl
  | cons c cs =>
    rw [clustersOf, flatten_clustersFrom, List.reverse_singleton, List.singleton_append]

/-- The clusters of a text spell it. -/
lemma flatMap_toList_clusters (text : String) :
    (clusters text).flatMap String.toList = text.toList := by
  rw [clusters, List.flatMap_map]
  simp only [String.toList_ofList, List.flatMap_id']
  exact flatten_clustersOf text.toList

lemma ne_empty_of_mem_clusters {text cluster : String} (h : cluster ∈ clusters text) :
    cluster ≠ "" := by
  obtain ⟨cs, hcs, rfl⟩ := List.mem_map.mp h
  cases htext : text.toList with
  | nil =>
    rw [htext] at hcs
    exact absurd hcs List.not_mem_nil
  | cons c rest =>
    rw [htext] at hcs
    intro hempty
    have hnil : cs = [] := by
      rw [← String.toList_ofList (l := cs), hempty]
      rfl
    exact ne_nil_of_mem_clustersFrom (List.cons_ne_nil c []) hcs hnil

end GlyphGrid.Text
