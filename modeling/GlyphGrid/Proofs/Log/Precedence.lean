import Mathlib.Tactic.Common
import GlyphGrid.Proofs.Command.Worlds

/-!
# Which threshold a run follows

The command line, the environment and the configuration may each name a threshold of the log, and
the first that does is followed, also if it names `off`.  The configuration comes late: by then the
log may be open already, under a threshold that the configuration must not change, and its file must
not be opened again, since what is in it would be lost.

`LogSession.inForce` is the log in which one threshold was put in force, once and at the start.
`configure_start` says that the two stages of a run lead to the log in which this was done with the
threshold that is followed, and `exists_stages_eq` that a run goes on from there: the order in which
the places become known does not show in the world that a command begins in.
-/

namespace GlyphGrid

/-- The files after the log was opened, if it can be. -/
def LogPlace.open? (place : LogPlace) (files : FileTree) : Option FileTree :=
  files.write? place.working place.path (LogSession.head place)

namespace LogSession

variable (place : LogPlace) (files : FileTree)

/-- The log in which a threshold was put in force once, and the files after that. -/
def inForce (isFixed : Bool) (level : LogLevel) : LogSession × FileTree :=
  if level = .off then (⟨.off, isFixed, none, 0⟩, files)
  else (⟨level, isFixed, (place.open? files).map fun _ => (head place).length, 1⟩,
    (place.open? files).getD files)

lemma isFixed_inForce (isFixed : Bool) (level : LogLevel) :
    (inForce place files isFixed level).1.isFixed = isFixed := by
  unfold inForce
  split <;> rfl

/-! ## The two stages -/

lemma setLevel_eq_inForce (old level : LogLevel) (isFixed : Bool) :
    setLevel place ⟨old, isFixed, none, 0⟩ level files = inForce place files isFixed level := by
  unfold setLevel inForce
  split
  · next hoff => rw [hoff]
  · unfold ensureOpen LogPlace.open? isOpen
    cases files.write? place.working place.path (head place) <;> rfl

lemma start_eq_inForce (commandLine : Option LogLevel) (setting? : Option String) :
    start place commandLine setting? files
      = inForce place files (LogLevel.atStartup? commandLine setting?).isSome
        ((LogLevel.atStartup? commandLine setting?).getD .off) :=
  setLevel_eq_inForce place files .off _ _

/-- A threshold that was named before the configuration stays in force. -/
lemma configure_of_isFixed {s : LogSession} (h : s.isFixed = true) (place : LogPlace)
    (level? : Option LogLevel) (files : FileTree) :
    s.configure place level? files = (s, files) := by
  cases level? with
  | none => rfl
  | some level => exact if_pos h

/-- The configuration decides only where nothing else did, and then nothing was opened before. -/
lemma configure_start (commandLine : Option LogLevel) (setting? : Option String)
    (configured? : Option LogLevel) :
    (start place commandLine setting? files).1.configure place configured?
        (start place commandLine setting? files).2
      = inForce place files (LogLevel.atStartup? commandLine setting?).isSome
        ((LogLevel.atStartup? commandLine setting? <|> configured?).getD .off) := by
  rw [start_eq_inForce]
  cases LogLevel.atStartup? commandLine setting? with
  | some level =>
    exact configure_of_isFixed (isFixed_inForce place files true level) _ _ _
  | none =>
    cases configured? with
    | none => rfl
    | some level => exact setLevel_eq_inForce place files .off level false

lemma level_inForce (isFixed : Bool) (level : LogLevel) :
    (inForce place files isFixed level).1.level = level := by
  unfold inForce
  split
  · next hoff => exact hoff.symm
  · rfl

lemma attempts_inForce (isFixed : Bool) (level : LogLevel) :
    (inForce place files isFixed level).1.attempts = if level = .off then 0 else 1 := by
  unfold inForce
  split <;> rfl

lemma isOpen_inForce_iff (isFixed : Bool) (level : LogLevel) :
    (inForce place files isFixed level).1.isOpen = true
      ↔ level ≠ .off ∧ (place.open? files).isSome = true := by
  unfold inForce isOpen
  split
  · next hoff => simp [hoff]
  · next hon => simp [hon]

end LogSession

/-! ## Whole runs -/

namespace Surroundings

variable (w : Surroundings) (i : Invocation)

/-- The configuration of a run.  It is read when the log has been started. -/
def loaded : Except ConfigError Config :=
  (w.loadConfig (LogSession.start w.logPlace i.logLevel? w.debugLevel? w.files).2 i.config?).value

/-- The threshold that the configuration names.  One that cannot be loaded names none. -/
def configuredLevel? : Option LogLevel := (w.loaded i).toOption.bind (·.logLevel)

/-- The threshold that a run follows: the first one that is named. -/
def level : LogLevel :=
  (i.logLevel? <|> w.debugLevel?.bind LogLevel.ofVariable? <|> w.configuredLevel? i).getD .off

/-- The log of a run when its command begins, and the files then. -/
def logAndFiles : LogSession × FileTree :=
  LogSession.inForce w.logPlace w.files
    (LogLevel.atStartup? i.logLevel? w.debugLevel?).isSome (w.level i)

/-- The world in which nothing has happened but that the log was opened, under the threshold that
the run follows. -/
def ready : World := ⟨(w.logAndFiles i).2, (w.logAndFiles i).1, []⟩

/-- How a run goes on in a world: with the failure to load its configuration, or with its
command. -/
def goOn (world : World) : World × Except RunError (List String) :=
  match w.loaded i with
  | .error e => (world, .error (.config e))
  | .ok config => i.command.perform w.logPlace world w.fonts config

lemma level_eq_getD_atStartup? : w.level i
    = (LogLevel.atStartup? i.logLevel? w.debugLevel? <|> w.configuredLevel? i).getD .off := by
  unfold level LogLevel.atStartup?
  cases i.logLevel? <;> rfl

lemma level_of_loaded_error {e : ConfigError} (h : w.loaded i = .error e) :
    w.level i = (LogLevel.atStartup? i.logLevel? w.debugLevel?).getD .off := by
  rw [level_eq_getD_atStartup?, configuredLevel?, h]
  cases LogLevel.atStartup? i.logLevel? w.debugLevel? <;> rfl

lemma level_of_loaded_ok {config : Config} (h : w.loaded i = .ok config) : w.level i
    = (LogLevel.atStartup? i.logLevel? w.debugLevel? <|> config.logLevel).getD .off := by
  rw [level_eq_getD_atStartup?, configuredLevel?, h]
  rfl

end Surroundings

namespace LogSession

/-- Nothing is kept under `off`. -/
lemma lines_off (place : LogPlace) {s : LogSession} (h : s.level = .off)
    (records : List LogRecord) : s.lines place records = [] := by
  have hnone : records.filter (·.isKept s.level) = [] := by
    rw [List.filter_eq_nil_iff, h]
    rintro ⟨severity, source, message⟩ _
    cases severity <;> exact Bool.false_ne_true
  rw [lines, hnone]
  rfl

end LogSession

lemma World.configure_of_isFixed {world : World} (h : world.log.isFixed = true)
    {place : LogPlace} {level? : Option LogLevel} : world.configure place level? = world := by
  rw [configure, LogSession.configure_of_isFixed h]

namespace Surroundings

variable (w : Surroundings) (i : Invocation)

/-- When the configuration is in force, only records were written since the log was opened. -/
lemma exists_configure_eq {config : Config} (hloaded : w.loaded i = .ok config) :
    ∃ lines,
      ((w.started i).take w.logPlace (w.loadConfig (w.started i).files i.config?)).1.configure
        w.logPlace config.logLevel = (w.ready i).write w.logPlace lines := by
  have hready : (w.started i).configure w.logPlace config.logLevel = w.ready i := by
    rw [started, ready, World.configure, LogSession.configure_start, logAndFiles,
      w.level_of_loaded_ok i hloaded]
  cases hstartup : LogLevel.atStartup? i.logLevel? w.debugLevel? with
  | some level =>
    have hfixed : (w.started i).log.isFixed = true := by
      rw [started, LogSession.start_eq_inForce, hstartup]
      exact LogSession.isFixed_inForce _ _ _ _
    refine ⟨(w.started i).log.lines w.logPlace (w.loadConfig (w.started i).files i.config?).notes,
      ?_⟩
    have hlater := (w.started i).follows_take w.logPlace
      (w.loadConfig (w.started i).files i.config?)
    rw [World.configure_of_isFixed hfixed] at hready
    rw [World.configure_of_isFixed (hlater.log.isFixed_eq.trans hfixed), hready, World.take]
  | none =>
    have hoff : (w.started i).log.level = .off := by
      rw [started, LogSession.start_eq_inForce, hstartup]
      exact LogSession.level_inForce _ _ _ _
    refine ⟨[], ?_⟩
    rw [World.take, LogSession.lines_off _ hoff]
    exact hready

lemma ready_of_loaded_error {e : ConfigError} (h : w.loaded i = .error e) :
    w.ready i = w.started i := by
  rw [ready, logAndFiles, w.level_of_loaded_error i h, ← LogSession.start_eq_inForce]
  rfl

/-- A run goes on from the world in which its log was opened, once records were written. -/
lemma exists_stages_eq :
    ∃ lines, w.stages i = w.goOn i ((w.ready i).write w.logPlace lines) := by
  have hload : (w.loadConfig (w.started i).files i.config?).value = w.loaded i := rfl
  unfold stages goOn
  rw [World.take, hload]
  cases hloaded : w.loaded i with
  | error e =>
    refine ⟨(w.started i).log.lines w.logPlace (w.loadConfig (w.started i).files i.config?).notes,
      ?_⟩
    rw [w.ready_of_loaded_error i hloaded]
  | ok config =>
    obtain ⟨lines, hconfigured⟩ := w.exists_configure_eq i hloaded
    rw [World.take] at hconfigured
    refine ⟨lines ++ ((w.ready i).write w.logPlace lines).log.lines w.logPlace startNote.notes, ?_⟩
    simp only [World.take, hconfigured, World.write_append]

/-- A variable that names no threshold is as good as none. -/
lemma carryOut_of_unreadable (h : w.debugLevel?.bind LogLevel.ofVariable? = none) :
    w.carryOut i = Surroundings.carryOut { w with debugLevel? := none } i := by
  have hstarted : w.started i = Surroundings.started { w with debugLevel? := none } i := by
    unfold started LogSession.start LogLevel.atStartup?
    rw [h]
    rfl
  have hstages : w.stages i = Surroundings.stages { w with debugLevel? := none } i := by
    unfold stages
    rw [hstarted]
    rfl
  unfold carryOut
  rw [hstages]
  rfl

/-- The log of a run is the one that was opened for it. -/
lemma continues_carryOut : (w.ready i).log.Continues (w.carryOut i).log := by
  obtain ⟨lines, hstages⟩ := w.exists_stages_eq i
  have hwrite := ((w.ready i).follows_write w.logPlace lines).log
  change (w.ready i).log.Continues (w.stages i).1.log
  rw [hstages, goOn]
  split
  · exact hwrite
  · exact hwrite.trans (Command.continues_perform _ _ _ _ _)

end Surroundings

/-- The log of a run follows the first place that names a threshold, and is opened once for it. -/
structure FollowsFirstNamed (w : Surroundings) (i : Invocation) : Prop where
  /-- A configuration that cannot be loaded names nothing. -/
  level_eq : (w.carryOut i).log.level = (i.logLevel? <|> w.debugLevel?.bind LogLevel.ofVariable?
    <|> (w.loaded i).toOption.bind (·.logLevel)).getD .off
  /-- Naming `off` is not the same as naming nothing. -/
  off_kept : i.logLevel? = some .off ∨
    (i.logLevel? = none ∧ w.debugLevel?.bind LogLevel.ofVariable? = some .off) →
    (w.carryOut i).log.level = .off
  zero_off : LogLevel.ofVariable? "0" = some .off
  unreadable_ignored : w.debugLevel?.bind LogLevel.ofVariable? = none →
    w.carryOut i = Surroundings.carryOut { w with debugLevel? := none } i
  attempts_eq : (w.carryOut i).log.attempts = if (w.carryOut i).log.level = .off then 0 else 1
  isOpen_iff : (w.carryOut i).log.isOpen = true ↔
    (w.carryOut i).log.level ≠ .off ∧ (w.logPlace.open? w.files).isSome = true
  /-- To open the log once, or not at all, is all that happens before the first record. -/
  ready_files_eq : (w.ready i).files = if (w.carryOut i).log.level = .off then w.files
    else (w.logPlace.open? w.files).getD w.files
  /-- From there the run goes on, and writes records until its command begins. -/
  files_eq : ∃ lines, (w.carryOut i).files
    = (w.goOn i ((w.ready i).write w.logPlace lines)).1.files

/-- **The first threshold that is named is followed.**  This holds of every command line, every text
of the environment variable and every configuration, and the log is opened exactly for a threshold
other than `off`. -/
theorem carryOut_followsFirstNamed (w : Surroundings) (i : Invocation) :
    FollowsFirstNamed w i := by
  have hlog := w.continues_carryOut i
  have hlevel : (w.carryOut i).log.level = w.level i :=
    hlog.level_eq.trans (LogSession.level_inForce _ _ _ _)
  constructor
  case level_eq => exact hlevel
  case off_kept =>
    rintro (hline | ⟨hline, hsetting⟩)
    · rw [hlevel, Surroundings.level, hline]
      rfl
    · rw [hlevel, Surroundings.level, hline, hsetting]
      rfl
  case zero_off => decide
  case unreadable_ignored => exact w.carryOut_of_unreadable i
  case attempts_eq =>
    rw [hlevel, hlog.attempts_eq]
    exact LogSession.attempts_inForce _ _ _ _
  case isOpen_iff =>
    rw [hlevel, hlog.isOpen_eq]
    exact LogSession.isOpen_inForce_iff _ _ _ _
  case ready_files_eq =>
    rw [hlevel, Surroundings.ready, Surroundings.logAndFiles, LogSession.inForce]
    split <;> rfl
  case files_eq =>
    obtain ⟨lines, hstages⟩ := w.exists_stages_eq i
    exact ⟨lines, congrArg (·.1.files) hstages⟩

end GlyphGrid
