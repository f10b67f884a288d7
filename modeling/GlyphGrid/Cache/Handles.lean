import GlyphGrid.Cache.Basic

/-!
# Handles

A font can be held from several places, and so can each of its glyphs.  `FontHandles` keeps the
number of holders of the font, the glyphs that are held under names, and for each glyph the number
of references to it: one from the table as long as the font is held, and one from each name.  The
numbers are kept step by step, as references are taken and given back.
-/

namespace GlyphGrid

/-- A glyph held under a name. -/
structure GlyphHandle (F L : Type) where
  name : String
  slot : GlyphCache.Slot F L

/-- A font with its holders. -/
structure FontHandles (C F L : Type) where
  cache : GlyphCache C F L
  owners : Nat
  held : List (GlyphHandle F L)
  /-- The number of references to each glyph of the table. -/
  counts : List Nat

namespace FontHandles

variable {C F L S : Type}

/-- A font with one holder, each of whose glyphs is referred to by the table alone. -/
def ofCache (cache : GlyphCache C F L) : FontHandles C F L :=
  ⟨cache, 1, [], List.replicate cache.size 1⟩

/-- The number of references to a glyph. -/
def countOf (h : FontHandles C F L) (index : Nat) : Nat := h.counts.getD index 0

/-- Takes a reference to a glyph. -/
def acquire (h : FontHandles C F L) (index : Nat) : FontHandles C F L :=
  ⟨h.cache, h.owners, h.held, h.counts.modify index (· + 1)⟩

/-- Gives a reference to a glyph back. -/
def giveBack (h : FontHandles C F L) (index : Nat) : FontHandles C F L :=
  ⟨h.cache, h.owners, h.held, h.counts.modify index (· - 1)⟩

/-- The cache after an operation; the table refers to each glyph that is new. -/
def advance (h : FontHandles C F L) (cache : GlyphCache C F L) : FontHandles C F L :=
  ⟨cache, h.owners, h.held, h.counts ++ List.replicate (cache.size - h.counts.length) 1⟩

/-- The glyph held under a name. -/
def handle? (h : FontHandles C F L) (name : String) : Option (GlyphCache.Slot F L) :=
  (h.held.find? (·.name == name)).map (·.slot)

/-- The number of references to the glyph held under a name. -/
def references? (h : FontHandles C F L) (name : String) : Option Nat :=
  (h.handle? name).map fun slot => h.countOf slot.index

/-- Forgets a name without giving its reference back. -/
def forget (h : FontHandles C F L) (name : String) : FontHandles C F L :=
  ⟨h.cache, h.owners, h.held.filter (·.name != name), h.counts⟩

/-- Gives up the glyph held under a name, if there is one. -/
def release (h : FontHandles C F L) (name : String) : FontHandles C F L :=
  match h.handle? name with
  | none => h
  | some slot => (h.forget name).giveBack slot.index

/-- Holds a glyph, to which a reference was taken, under a name. -/
def hold (h : FontHandles C F L) (name : String) (slot : GlyphCache.Slot F L) :
    FontHandles C F L :=
  let h := h.release name
  ⟨h.cache, h.owners, h.held ++ [⟨name, slot⟩], h.counts⟩

/-- Looks a content up and takes a reference to its glyph. -/
def lookup (h : FontHandles C F L) (content : CellBuffer) :
    FontHandles C F L × Except GlyphError (GlyphCache.Slot F L) :=
  match (h.cache.lookup content).value with
  | (cache, .error e) => (h.advance cache, .error e)
  | (cache, .ok slot) => ((h.advance cache).acquire slot.index, .ok slot)

/-- Draws a content; the reference to its glyph is given back.  What becomes of a layout has no part
in the counts, and is left out. -/
def draw (h : FontHandles C F L) (surface : DrawingSurface S F L) (state : S)
    (content : CellBuffer) (x y : Nat) : FontHandles C F L × S × Except GlyphError Unit :=
  match h.lookup content with
  | (h, .error e) => (h, state, .error e)
  | (h, .ok slot) =>
    let (state, result) := (GlyphCache.paint surface state slot.glyph x y).value
    (h.giveBack slot.index, state, result)

/-- One more holder of the font. -/
def share (h : FontHandles C F L) : FontHandles C F L :=
  ⟨h.cache, h.owners + 1, h.held, h.counts⟩

/-- One holder less.  With the last one the table goes, and its references with it. -/
def dropFont (h : FontHandles C F L) : FontHandles C F L :=
  if h.owners = 1 then ⟨h.cache, 0, h.held, h.counts.map (· - 1)⟩
  else ⟨h.cache, h.owners - 1, h.held, h.counts⟩

/-- No holders of the font. -/
def dropAll (h : FontHandles C F L) : FontHandles C F L :=
  if h.owners = 0 then h else ⟨h.cache, 0, h.held, h.counts.map (· - 1)⟩

/-- Takes a glyph out of its name.  It is had for good if no other reference is left; otherwise
the answer is the number of references, and the one of the name is given back. -/
def takeBack? (h : FontHandles C F L) (slot : GlyphCache.Slot F L) :
    FontHandles C F L × Except Nat (Glyph F L) :=
  let count := h.countOf slot.index
  (h.giveBack slot.index, if count = 1 then .ok slot.glyph else .error count)

/-- The font, while it is held. -/
def font? (h : FontHandles C F L) : Option (GlyphCache C F L) :=
  if h.owners = 0 then none else some h.cache

end FontHandles
end GlyphGrid
