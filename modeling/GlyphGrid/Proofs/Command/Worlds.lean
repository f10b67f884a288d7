import GlyphGrid.Command.Run
import GlyphGrid.Proofs.Files.Writing

/-!
# From world to world

Each part of a run leads from one world to another.  `World.Follows` says what such a step leaves
alone: the files, but for some places, and what is known of the log, but for how much was written to
it.  Steps are composed (`Follows.trans`), and there are two that write: a record goes to the place
of the log (`follows_write`), and a picture to the place that its path leads to (`follows_save?`).

The log may be anywhere, also where a picture was put.  Then its lines are written over the bytes of
the picture, which is still the one that was put there (`FileTree.Shows`).

A rendering ends in one of two ways (`Command.renderText_outcome`): it fails, and then no picture
was saved on the way, or it saves the picture of its text, and then it does not fail any more.
-/

namespace GlyphGrid

/-- The places that the path of a log leads to: one, or none. -/
def LogPlace.locations (place : LogPlace) (files : FileTree) : List Location :=
  (files.locate? place.working place.path).toList

lemma FileTree.Keeps.locations_eq {files later : FileTree} {written : List Location}
    (h : files.Keeps later written) (place : LogPlace) :
    place.locations later = place.locations files := by
  rw [LogPlace.locations, LogPlace.locations, h.locate?_eq]

/-! ## Steps -/

/-- A log later in a run, under the same threshold and in the same file. -/
structure LogSession.Continues (s later : LogSession) : Prop where
  level_eq : later.level = s.level
  isFixed_eq : later.isFixed = s.isFixed
  isOpen_eq : later.isOpen = s.isOpen
  attempts_eq : later.attempts = s.attempts

lemma LogSession.Continues.trans {s later last : LogSession} (h : s.Continues later)
    (h' : later.Continues last) : s.Continues last :=
  ⟨h'.level_eq.trans h.level_eq, h'.isFixed_eq.trans h.isFixed_eq,
    h'.isOpen_eq.trans h.isOpen_eq, h'.attempts_eq.trans h.attempts_eq⟩

/-- A world later in a run: files were written in some places at most, and the log goes on. -/
structure World.Follows (world later : World) (written : List Location) : Prop where
  files : world.files.Keeps later.files written
  log : world.log.Continues later.log

namespace World.Follows

variable {world later last : World} {written : List Location}

lemma refl (world : World) (written : List Location) : world.Follows world written :=
  ⟨.refl _ _, ⟨rfl, rfl, rfl, rfl⟩⟩

lemma trans (h : world.Follows later written) (h' : later.Follows last written) :
    world.Follows last written :=
  ⟨h.files.trans h'.files, h.log.trans h'.log⟩

lemma mono {more : List Location} (h : world.Follows later written) (hmore : written ⊆ more) :
    world.Follows later more :=
  ⟨h.files.mono hmore, h.log⟩

end World.Follows

namespace World

variable (place : LogPlace) (world : World)

/-! ## Records -/

lemma follows_writeLine (line : String) :
    world.Follows (world.writeLine place line) (place.locations world.files) := by
  unfold writeLine LogSession.append
  dsimp only
  split
  · exact ⟨.refl _ _, rfl, rfl, rfl, rfl⟩
  next position hposition =>
  cases hwrite : world.files.overwrite? place.working place.path position
      (LogSession.bytesOf [line]) with
  | none => exact ⟨.refl _ _, rfl, rfl, rfl, rfl⟩
  | some later =>
    refine ⟨FileTree.keeps_of_overwrite? hwrite, rfl, rfl, ?_, rfl⟩
    simp only [LogSession.isOpen, hposition, Option.isSome_some]

lemma follows_write (lines : List String) :
    world.Follows (world.write place lines) (place.locations world.files) := by
  induction lines generalizing world with
  | nil => exact .refl _ _
  | cons line lines ih =>
    have hline := world.follows_writeLine place line
    have hlines := ih (world.writeLine place line)
    rw [hline.files.locations_eq] at hlines
    exact hline.trans hlines

lemma follows_take {α : Type} (part : Noted α) :
    world.Follows (world.take place part).1 (place.locations world.files) :=
  world.follows_write place _

/-- Writing records is one more step. -/
lemma Follows.take {α : Type} {world later : World} {written : List Location} {place : LogPlace}
    (h : world.Follows later written) (hlog : place.locations world.files ⊆ written)
    (part : Noted α) : world.Follows (later.take place part).1 written := by
  have hnext := later.follows_take place part
  rw [h.files.locations_eq] at hnext
  exact h.trans (hnext.mono hlog)

lemma write_append (lines more : List String) :
    world.write place (lines ++ more) = (world.write place lines).write place more :=
  List.foldl_append

/-! ## Pictures -/

/-- A picture is put where its path leads to, and the log goes on. -/
lemma exists_puts_of_save? {world later : World} {path : String} {image : Image}
    (h : world.save? place path image = some later) : ∃ location,
      world.files.Puts place.working path (.picture image []) location later.files ∧
        later.log = world.log := by
  obtain ⟨files, hput, rfl⟩ := Option.map_eq_some_iff.mp h
  obtain ⟨location, hputs⟩ := FileTree.exists_puts hput
  exact ⟨location, hputs, rfl⟩

lemma follows_save? {place : LogPlace} {world later : World} {path : String} {image : Image}
    (h : world.save? place path image = some later) :
    world.Follows later (world.files.locate? place.working path).toList := by
  obtain ⟨location, hputs, hlog⟩ := exists_puts_of_save? place h
  rw [hputs.locate?_eq]
  refine ⟨hputs.keeps FileEntry.noConfusion, ?_⟩
  rw [hlog]
  exact (Follows.refl world []).log

end World

/-- The file at a place is a picture, whatever was written over its bytes. -/
def FileTree.Shows (t : FileTree) (location : Location) (image : Image) : Prop :=
  ∃ patches, t.get? location = some (.picture image patches)

namespace World

variable {location : Location} {image : Image}

lemma shows_writeLine {world : World} (h : world.files.Shows location image) (place : LogPlace)
    (line : String) : (world.writeLine place line).files.Shows location image := by
  obtain ⟨patches, hget⟩ := h
  unfold writeLine LogSession.append
  dsimp only
  split
  · exact ⟨patches, hget⟩
  next position _ =>
  cases hwrite : world.files.overwrite? place.working place.path position
      (LogSession.bytesOf [line]) with
  | none => exact ⟨patches, hget⟩
  | some later =>
    obtain ⟨old, entry, target, hold, hentry, hputs⟩ := FileTree.exists_puts_of_overwrite? hwrite
    by_cases htarget : location = target
    · subst htarget
      rw [hget] at hold
      cases hold
      cases hentry
      exact ⟨_, hputs.get?_eq⟩
    · have hkeeps := hputs.keeps (FileTree.ne_directory_of_overwrite? hentry)
      exact ⟨patches, (hkeeps.get?_eq _ (mt List.mem_singleton.mp htarget)).trans hget⟩

lemma shows_write {world : World} (h : world.files.Shows location image) (place : LogPlace)
    (lines : List String) : (world.write place lines).files.Shows location image := by
  induction lines generalizing world with
  | nil => exact h
  | cons line lines ih => exact ih (shows_writeLine h place line)

end World

/-! ## Parts of a run -/

/-- A text as it is rendered: with a font, on a canvas that has room for its layout. -/
structure Rendering (fonts : Catalogue) (config : Config) (text : String) (columns : Nat) where
  stack : FontStack
  cache : Command.FontCache
  opened : (Command.openFont fonts config).value = .ok (stack, cache)
  /-- The size that the layout needs. -/
  size : Nat × Nat
  canvasSize_eq :
    (CellGrid.layout text columns).canvasSize cache.width cache.height = some size

/-- The canvas with the cells on it, and how many of them there are. -/
def Rendering.drawn {fonts : Catalogue} {config : Config} {text : String} {columns : Nat}
    (r : Rendering fonts config text columns) : Canvas × DrawCount :=
  (drawGrid r.cache Canvas.surface
    (Canvas.blank r.size.1 r.size.2 config.background config.foreground)
    (.layout text columns)).value.2

namespace Command

variable (place : LogPlace) (world : World) (fonts : Catalogue) (config : Config) (text : String)
  (columns : Nat) (path : String)

/-- How the rendering of a text ends. -/
inductive RenderOutcome : World × Except RunError (List String) → Prop where
  /-- It fails before anything but the log was written. -/
  | failed (e : RunError) (later : World)
      (follows : world.Follows later (place.locations world.files)) :
      RenderOutcome (later, .error e)
  /-- It saves the picture, and reports it. -/
  | saved (r : Rendering fonts config text columns) (drawn later : World) (closing : Noted Unit)
      (follows : world.Follows drawn (place.locations world.files))
      (saves : drawn.save? place path r.drawn.1.image = some later) :
      RenderOutcome ((later.take place closing).1, .ok [renderedLine r.drawn.2 path])

lemma renderText_outcome : RenderOutcome place world fonts config text columns path
    (renderText place world fonts config text columns path) := by
  have hopening := world.follows_take place (openFont fonts config)
  unfold renderText
  rw [World.take] at hopening ⊢
  cases hopened : (openFont fonts config).value with
  | error e => exact .failed e _ hopening
  | ok font =>
    obtain ⟨stack, cache⟩ := font
    simp only [renderGrid]
    split
    · exact .failed _ _ (hopening.take (List.Subset.refl _) cache.closeNote)
    next width height hsize =>
    let r : Rendering fonts config text columns := ⟨stack, cache, hopened, _, hsize⟩
    let drawing := drawGrid cache Canvas.surface
      (Canvas.blank width height config.background config.foreground) (.layout text columns)
    have hdrawing := hopening.take (List.Subset.refl _) drawing
    split
    · exact .failed _ _ (hdrawing.take (List.Subset.refl _) drawing.value.1.closeNote)
    · next later saves => exact .saved r _ later drawing.value.1.closeNote hdrawing saves

/-- However a rendering ends, it leaves all files but the log and the picture. -/
lemma RenderOutcome.follows {place : LogPlace} {world : World} {fonts : Catalogue}
    {config : Config} {text : String} {columns : Nat} {path : String}
    {outcome : World × Except RunError (List String)}
    (h : RenderOutcome place world fonts config text columns path outcome) :
    world.Follows outcome.1
      ((world.files.locate? place.working path).toList ++ place.locations world.files) := by
  cases h with
  | failed e later follows => exact follows.mono (List.subset_append_right _ _)
  | saved r drawn later closing follows saves =>
    have hsave := World.follows_save? saves
    rw [follows.files.locate?_eq] at hsave
    exact ((follows.mono (List.subset_append_right _ _)).trans
      (hsave.mono (List.subset_append_left _ _))).take (List.subset_append_right _ _) closing

/-- A rendering that does not fail has put its picture where its path leads to, and written nothing
else besides the log. -/
lemma RenderOutcome.puts_picture {place : LogPlace} {world last : World} {fonts : Catalogue}
    {config : Config} {text : String} {columns : Nat} {path : String} {lines : List String}
    (h : RenderOutcome place world fonts config text columns path (last, .ok lines)) :
    ∃ location, ∃ r : Rendering fonts config text columns,
      world.files.locate? place.working path = some location ∧
      lines = [renderedLine r.drawn.2 path] ∧
      last.files.Shows location r.drawn.1.image ∧
      (location ∉ place.locations world.files →
        last.files.get? location = some (.picture r.drawn.1.image [])) ∧
      world.files.Keeps last.files (location :: place.locations world.files) := by
  cases h with
  | saved r drawn later closing follows saves =>
  obtain ⟨location, hputs, -⟩ := World.exists_puts_of_save? place saves
  have hplace := hputs.locate?_eq
  rw [follows.files.locate?_eq] at hplace
  have hsaved : world.files.Keeps later.files (location :: place.locations world.files) :=
    (follows.files.mono (List.subset_cons_self _ _)).trans
      ((hputs.keeps FileEntry.noConfusion).mono (by simp))
  have hclosing := (later.follows_take place closing).files
  rw [hsaved.locations_eq] at hclosing
  refine ⟨location, r, hplace, rfl, ?_, fun hbeside => ?_, ?_⟩
  · exact World.shows_write ⟨[], hputs.get?_eq⟩ place _
  · exact (hclosing.get?_eq location hbeside).trans hputs.get?_eq
  · exact hsaved.trans (hclosing.mono (List.subset_cons_self _ _))

lemma follows_reportMetrics :
    world.Follows (reportMetrics place world fonts config).1 (place.locations world.files) := by
  have hopening := world.follows_take place (openFont fonts config)
  unfold reportMetrics
  rw [World.take] at hopening ⊢
  cases (openFont fonts config).value with
  | error e => exact hopening
  | ok font => exact hopening.take (List.Subset.refl _) font.2.closeNote

/-- Whatever the command, the log goes on. -/
lemma continues_perform (command : Command) :
    world.log.Continues (command.perform place world fonts config).1.log := by
  cases command with
  | render text height? font? path columns? => exact (renderText_outcome ..).follows.log
  | metrics height? font? => exact (follows_reportMetrics ..).log

end Command
end GlyphGrid
