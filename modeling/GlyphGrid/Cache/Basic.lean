import GlyphGrid.Glyph

/-!
# The glyph cache of a font

A `GlyphCache` is one engine's font at one height.  Its table keeps the glyph of every content
that was shaped, in the order of the first success, and nothing is ever removed or replaced, so
that the place of an entry identifies its glyph.  Making a cache shapes the bytes below 127, which
are then known, and takes the average of their positive widths as the width of a cell.

Every operation answers with the cache after it, and `requests` are the texts that the engine was
asked to shape until then.
-/

namespace GlyphGrid

/-- A content and its glyph. -/
structure CacheEntry (F L : Type) where
  key : CellBuffer
  glyph : Glyph F L

/-- A font at one height, with the glyphs shaped so far. -/
structure GlyphCache (C F L : Type) where
  engine : ShapingEngine C F L
  context : C
  height : Nat
  width : Nat
  /-- The glyphs, in the order in which they were shaped. -/
  entries : List (CacheEntry F L)
  /-- The texts that the engine was asked to shape, one after the other. -/
  requests : List String

namespace GlyphCache

variable {C F L : Type}

/-- The number of contents in the table. -/
def size (cache : GlyphCache C F L) : Nat := cache.entries.length

/-- How often the engine was asked to shape a text. -/
def shapings (cache : GlyphCache C F L) : Nat := cache.requests.length

/-- Whether the table is empty. -/
def isEmpty (cache : GlyphCache C F L) : Bool := cache.entries.isEmpty

/-- The place of a content in the table. -/
def find? (cache : GlyphCache C F L) (content : CellBuffer) : Option Nat :=
  cache.entries.findIdx? (·.key == content)

/-- Whether a content is in the table. -/
def contains (cache : GlyphCache C F L) (content : CellBuffer) : Bool :=
  (cache.find? content).isSome

/-- A glyph of the table: its place there, and the glyph. -/
structure Slot (F L : Type) where
  /-- The place in the table, which identifies the glyph. -/
  index : Nat
  glyph : Glyph F L

/-- The entry of a content, if it is in the table. -/
def slot? (cache : GlyphCache C F L) (content : CellBuffer) : Option (Slot F L) :=
  (cache.find? content).bind fun i => (cache.entries[i]?).map fun e => ⟨i, e.glyph⟩

/-- The table with one more glyph, and the place of that glyph. -/
def insert (cache : GlyphCache C F L) (content : CellBuffer) (glyph : Glyph F L) :
    GlyphCache C F L × Slot F L :=
  (⟨cache.engine, cache.context, cache.height, cache.width,
      cache.entries ++ [⟨content.duplicate, glyph⟩], cache.requests⟩,
    ⟨cache.entries.length, glyph⟩)

/-- The cache after its engine was asked for one more text. -/
def request (cache : GlyphCache C F L) (text : String) : GlyphCache C F L :=
  ⟨cache.engine, cache.context, cache.height, cache.width, cache.entries,
    cache.requests ++ [text]⟩

/-- The record of a new entry. -/
def entryNote (cache : GlyphCache C F L) (content : CellBuffer) : Noted Unit :=
  .note .trace .cache ("font: cached " ++ Text.Quoted.quote content.text
    ++ s!" ({cache.size} entries)")

/-- Shapes a content that is not in the table and enters it.  An empty content is refused before
the engine is asked, and a failure leaves the table as it was. -/
def shapeNew (cache : GlyphCache C F L) (content : CellBuffer) :
    Noted (GlyphCache C F L × Except GlyphError (Slot F L)) :=
  match Glyph.ofContent? content with
  | .error e => pure (cache, .error e)
  | .ok glyph => do
    let cache := cache.request glyph.content.text
    match ← glyph.populate cache.engine cache.context with
    | .error e => pure (cache, .error e)
    | .ok glyph =>
      let (cache, slot) := cache.insert content glyph
      cache.entryNote content
      pure (cache, .ok slot)

/-- The glyph of a content, which is shaped if it is not in the table. -/
def lookup (cache : GlyphCache C F L) (content : CellBuffer) :
    Noted (GlyphCache C F L × Except GlyphError (Slot F L)) :=
  match cache.slot? content with
  | some slot => pure (cache, .ok slot)
  | none => cache.shapeNew content

/-! ## Drawing -/

/-- Paints a described glyph with the top left corner of its cell at `(x, y)`.  What is painted of a
layout is the layout brought up to date, which `paintInPlace` answers with as well. -/
def paint {S : Type} (surface : DrawingSurface S F L) (state : S) (glyph : Glyph F L)
    (x y : Nat) : Noted (S × Except GlyphError Unit) :=
  match glyph.description with
  | .layout layout => do
    let state := surface.moveTo state x y
    match ← surface.updateLayout state layout with
    | (state, .error e) => pure (state, .error e)
    | (state, .ok layout) => surface.showLayout state layout
  | .run face glyphs baseline =>
    surface.showGlyphs (surface.moveTo state x ((y : Rat) + (baseline : Rat))) face glyphs
  | .empty =>
    pure (state, .error (.inconsistent ("cached glyph for "
      ++ Text.Quoted.quote glyph.content.text ++ " has no description")))

/-- Draws a content with the top left corner of its cell at `(x, y)`.  The table keeps the layout as
it was made; `drawInPlace` keeps it as it was painted. -/
def draw {S : Type} (cache : GlyphCache C F L) (surface : DrawingSurface S F L) (state : S)
    (content : CellBuffer) (x y : Nat) :
    Noted (GlyphCache C F L × S × Except GlyphError Unit) := do
  match ← cache.lookup content with
  | (cache, .error e) => pure (cache, state, .error e)
  | (cache, .ok slot) =>
    let (state, result) ← paint surface state slot.glyph x y
    pure (cache, state, result)

/-! ## Calibration -/

/-- The bytes that are shaped to find the width of a cell. -/
def measuredBytes : List UInt8 := (List.range 127).map UInt8.ofNat

/-- What calibration has seen so far. -/
structure Calibration (C F L : Type) where
  cache : GlyphCache C F L
  buffer : CellBuffer
  total : Nat
  count : Nat

/-- Two hexadecimal digits with a mark before them, as a byte is shown in a record. -/
def byteLabel (b : UInt8) : String :=
  "0x" ++ String.ofList (Text.hexDigits 2 b.toNat)

/-- Looks up one byte.  A byte that cannot be shaped is passed over. -/
def Calibration.step (m : Calibration C F L) (b : UInt8) : Noted (Calibration C F L) := do
  let buffer := m.buffer.setBytes [b]
  match ← m.cache.lookup buffer with
  | (cache, .error e) =>
    .note .debug .cache ("font: skipping byte " ++ byteLabel b ++ " during measurement: "
      ++ e.message)
    pure ⟨cache, buffer, m.total, m.count⟩
  | (cache, .ok slot) =>
    if slot.glyph.width = 0 then pure ⟨cache, buffer, m.total, m.count⟩
    else pure ⟨cache, buffer, m.total + slot.glyph.width, m.count + 1⟩

/-- Looks up some bytes, one after the other. -/
def Calibration.run (m : Calibration C F L) : List UInt8 → Noted (Calibration C F L)
  | [] => pure m
  | b :: rest => do
    let m ← m.step b
    m.run rest

/-- A cache without a width, before anything is shaped. -/
def blank (engine : ShapingEngine C F L) (context : C) (height : Nat) : GlyphCache C F L :=
  ⟨engine, context, height, 0, [], []⟩

/-- Shapes the measured bytes in a new cache. -/
def calibrate (engine : ShapingEngine C F L) (context : C) (height : Nat) :
    Noted (Calibration C F L) :=
  Calibration.run ⟨blank engine context height, .empty, 0, 0⟩ measuredBytes

/-- The cache with a width of a cell. -/
def withWidth (cache : GlyphCache C F L) (width : Nat) : GlyphCache C F L :=
  ⟨cache.engine, cache.context, cache.height, width, cache.entries, cache.requests⟩

/-- The record that a font is given up. -/
def closeNote (cache : GlyphCache C F L) : Noted Unit :=
  .note .debug .cache
    s!"font: destroying font (height {cache.height}, {cache.size} cached glyphs)"

/-- How the making of a font ends, and the texts that the engine was asked to shape on the way. -/
structure Making (C F L : Type) where
  requests : List String
  outcome : Except GlyphError (GlyphCache C F L)

/-- Makes a font of the given height in pixels, with the measured bytes in its table.  This fails
for a height of zero, where the engine has no context, and where no byte has a positive width. -/
def make (engine : ShapingEngine C F L) (height : Nat) : Noted (Making C F L) :=
  if height = 0 then pure ⟨[], .error (.invalidArgument .zeroHeight)⟩
  else do
    .note .debug .cache s!"font: new font (height {height})"
    match ← engine.createContext height with
    | .error e => pure ⟨[], .error e⟩
    | .ok context =>
      let m ← calibrate engine context height
      if m.count = 0 then
        m.cache.closeNote
        pure ⟨m.cache.requests, .error (.noWidth height)⟩
      else
        let width := m.total / m.count
        .note .debug .cache s!"font: width is {width}"
        pure ⟨m.cache.requests, .ok (m.cache.withWidth width)⟩

/-- A font of the given height in pixels. -/
def create (engine : ShapingEngine C F L) (height : Nat) :
    Noted (Except GlyphError (GlyphCache C F L)) := do
  let making ← make engine height
  pure making.outcome

/-- The width of a font that may be missing. -/
def widthOf (font : Option (GlyphCache C F L)) : Nat := font.elim 0 (·.width)

/-- The height of a font that may be missing. -/
def heightOf (font : Option (GlyphCache C F L)) : Nat := font.elim 0 (·.height)

/-- How a font is shown in a message. -/
def describe (cache : GlyphCache C F L) : String :=
  "GlyphCache \x7b " ++ s!"height: {cache.height}, width: {cache.width}, entries: {cache.size}"
    ++ " \x7d"

end GlyphCache
end GlyphGrid
