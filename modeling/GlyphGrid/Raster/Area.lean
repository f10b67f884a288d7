import GlyphGrid.Font.Face

/-!
# Areas of rectangles

How much of the plane some rectangles cover together, what several of them cover being counted
once.
-/

namespace GlyphGrid.Rect

/-- The part of a rectangle inside another one. -/
def clip (r bound : Rect) : Rect :=
  ⟨max r.left bound.left, max r.bottom bound.bottom, min r.right bound.right,
    min r.top bound.top⟩

/-- Whether nothing lies inside. -/
def isEmpty (r : Rect) : Bool := r.right ≤ r.left || r.top ≤ r.bottom

/-- The rectangle with its edges in order. -/
def ordered (r : Rect) : Rect :=
  ⟨min r.left r.right, min r.bottom r.top, max r.left r.right, max r.bottom r.top⟩

/-- The rectangle with both axes stretched. -/
def stretch (r : Rect) (factor : Int) : Rect :=
  ⟨r.left * factor, r.bottom * factor, r.right * factor, r.top * factor⟩

/-- The least rectangle around two. -/
def hull (r s : Rect) : Rect :=
  ⟨min r.left s.left, min r.bottom s.bottom, max r.right s.right, max r.top s.top⟩

/-- How much of the line beyond `reach` some intervals cover; they are sorted by their starts. -/
def lengthFrom (reach : Int) : List (Int × Int) → Int
  | [] => 0
  | (start, stop) :: rest =>
    let start := max start reach
    if stop ≤ start then lengthFrom reach rest else (stop - start) + lengthFrom stop rest

/-- How much of the line some intervals cover. -/
def unionLength (intervals : List (Int × Int)) : Int :=
  match intervals.mergeSort (fun a b => a.1 ≤ b.1) with
  | [] => 0
  | (start, stop) :: rest => lengthFrom start ((start, stop) :: rest)

/-- The area of some rectangles in the strips between cuts. -/
def stripsArea (areas : List Rect) : List Int → Int
  | x :: y :: cuts =>
    let across := areas.filter fun r => r.left ≤ x && y ≤ r.right
    (y - x) * unionLength (across.map fun r => (r.bottom, r.top)) + stripsArea areas (y :: cuts)
  | _ => 0

/-- The area of some rectangles. -/
def unionArea (areas : List Rect) : Int :=
  let areas := areas.filter (!·.isEmpty)
  match areas with
  | [] => 0
  | [r] => (r.right - r.left) * (r.top - r.bottom)
  | _ => stripsArea areas ((areas.flatMap fun r => [r.left, r.right]).mergeSort (· ≤ ·))

end GlyphGrid.Rect
