import GlyphGrid.Config.Store
import GlyphGrid.Proofs.Files.Paths
import GlyphGrid.Proofs.Text.Decoding
import GlyphGrid.Proofs.Yaml.Parsing

/-!
# A saved configuration is loaded as it was

A configuration is written field by field, and each field is read back from its own lines
(`Config.toSection`).  What is read does not depend on which of the other fields are there
(`Config.parse?_linesOf`), so that fields may be deleted from a saved text: each of them is then
what it is in the configuration that nobody changed.

Whether a configuration can be used is looked at when it is loaded and not when it is saved.
-/

namespace GlyphGrid.Config

open Yaml

/-! ## The fields and their lines -/

/-- The fields of a configuration. -/
inductive Field where
  | fontHeight
  | fontFamily
  | foreground
  | background
  | columns
  | logLevel
  deriving DecidableEq

/-- The fields in the order of a document. -/
def Field.all : List Field :=
  [.fontHeight, .fontFamily, .foreground, .background, .columns, .logLevel]

/-- The key of a field in a document. -/
def Field.key : Field → String
  | .fontHeight => "font_height"
  | .fontFamily => "font_family"
  | .foreground => "foreground"
  | .background => "background"
  | .columns => "columns"
  | .logLevel => "log_level"

variable (c : Config)

/-- The lines of a field in a document. -/
def lines : Field → List Char
  | .fontHeight => wordLine "font_height" (toString c.fontHeight.toNat)
  | .fontFamily => match c.fontFamily with
    | none => wordLine "font_family" "null"
    | some family => Written.entry "font_family" family
  | .foreground => colorLines "foreground" c.foreground
  | .background => colorLines "background" c.background
  | .columns => wordLine "columns" (toString c.columns.toNat)
  | .logLevel => wordLine "log_level" (c.logLevel.elim "null" LogLevel.word)

/-- The document from which all other fields are deleted. -/
def linesOf (kept : Field → Bool) : List Char := (Field.all.filter kept).flatMap c.lines

/-- The configuration whose other fields are those of the configuration that nobody changed. -/
def keeping (kept : Field → Bool) : Config where
  fontHeight := if kept .fontHeight then c.fontHeight else standard.fontHeight
  fontFamily := if kept .fontFamily then c.fontFamily else standard.fontFamily
  foreground := if kept .foreground then c.foreground else standard.foreground
  background := if kept .background then c.background else standard.background
  columns := if kept .columns then c.columns else standard.columns
  logLevel := if kept .logLevel then c.logLevel else standard.logLevel

lemma keeping_all : c.keeping (fun _ => true) = c := rfl

/-- A document is the lines of all fields. -/
lemma document_eq : c.document = c.linesOf fun _ => true := by
  simp only [document, linesOf, Field.all, List.filter_cons_of_pos, List.filter_nil,
    List.flatMap_cons, List.flatMap_nil, List.append_nil, List.append_assoc]
  rfl

/-! ## Each field as a section -/

/-- The words of a colour. -/
def colorWords (color : Rgba) : List (List Char) :=
  color.channels.map fun n => (toString n.toNat).toList

/-- A field as a section of a mapping. -/
def toSection : Field → Section
  | .fontHeight => .ofWord "font_height" (toString c.fontHeight.toNat)
  | .fontFamily => match c.fontFamily with
    | none => .ofWord "font_family" "null"
    | some family => .ofText "font_family" family
  | .foreground => .ofWords "foreground" (colorWords c.foreground)
  | .background => .ofWords "background" (colorWords c.background)
  | .columns => .ofWord "columns" (toString c.columns.toNat)
  | .logLevel => .ofWord "log_level" (c.logLevel.elim "null" LogLevel.word)

lemma lines_ofWord (key word : String) : (Section.ofWord key word).lines = wordLine key word := by
  simp [Section.lines, Section.ofWord, wordLine]

lemma lines_ofText (key text : String) :
    (Section.ofText key text).lines = Written.entry key text := by
  simp [Section.lines, Section.ofText, Written.entry, Lexer.valueText]

lemma lines_ofWords (key : String) (color : Rgba) :
    (Section.ofWords key (colorWords color)).lines = colorLines key color := by
  have hitem (n : UInt8) : '-' :: ' ' :: (toString n.toNat).toList ++ ['\n']
      = (s!"- {n.toNat}\n").toList := by
    rw [String.toList_append, String.toList_append]
    rfl
  simp only [Section.lines, Section.ofWords, colorLines, colorWords, Lexer.itemLines,
    List.flatMap_map, hitem, String.toList_append, List.append_assoc]
  rfl

lemma lines_toSection (field : Field) : (c.toSection field).lines = c.lines field := by
  cases field with
  | fontHeight => exact lines_ofWord _ _
  | fontFamily =>
    rw [toSection, lines]
    cases c.fontFamily with
    | none => exact lines_ofWord _ _
    | some family => exact lines_ofText _ _
  | foreground => exact lines_ofWords _ _
  | background => exact lines_ofWords _ _
  | columns => exact lines_ofWord _ _
  | logLevel => exact lines_ofWord _ _

lemma isWord_toString (n : Nat) : IsWord (toString n).toList := by
  have hdigits : (toString n).toList = Nat.toDigits 10 n := Nat.toList_repr
  rw [hdigits]
  constructor
  · obtain ⟨d, rest, hcons, -⟩ := exists_toDigits_eq_cons (by decide : 1 < 10) n
    rw [hcons]
    exact List.cons_ne_nil _ rest
  · rw [List.all_eq_true]
    intro c hc
    have hdigit := Nat.isDigit_of_mem_toDigits (by decide) (by decide) hc
    rw [isWordChar, Char.isAlphanum, hdigit, Bool.or_true, Bool.true_or]

lemma isWord_of_mem_colorWords {color : Rgba} {word : List Char} (h : word ∈ colorWords color) :
    IsWord word := by
  obtain ⟨n, -, rfl⟩ := List.mem_map.mp h
  exact isWord_toString n.toNat

lemma isWord_logLevel (level : Option LogLevel) :
    IsWord (level.elim "null" LogLevel.word).toList := by
  cases level with
  | none => decide
  | some level => cases level <;> decide

/-- Every field is read as its section, wherever it stands. -/
lemma isRead_toSection (field : Field) : (c.toSection field).IsRead := by
  cases field with
  | fontHeight => exact Section.isRead_ofWord (by decide) (by decide) (isWord_toString _)
  | fontFamily =>
    rw [toSection]
    cases c.fontFamily with
    | none => exact Section.isRead_ofWord (by decide) (by decide) (by decide)
    | some family => exact Section.isRead_ofText (by decide) (by decide) family
  | foreground =>
    exact Section.isRead_ofWords (by decide) (by decide) fun _ => isWord_of_mem_colorWords
  | background =>
    exact Section.isRead_ofWords (by decide) (by decide) fun _ => isWord_of_mem_colorWords
  | columns => exact Section.isRead_ofWord (by decide) (by decide) (isWord_toString _)
  | logLevel => exact Section.isRead_ofWord (by decide) (by decide) (isWord_logLevel c.logLevel)

lemma isParsed_toSection (field : Field) : (c.toSection field).IsParsed := by
  cases field with
  | fontHeight => exact Section.isParsed_ofWord _ _
  | fontFamily =>
    rw [toSection]
    cases c.fontFamily with
    | none => exact Section.isParsed_ofWord _ _
    | some family => exact Section.isParsed_ofText _ family
  | foreground => exact Section.isParsed_ofWords _ (List.cons_ne_nil _ _)
  | background => exact Section.isParsed_ofWords _ (List.cons_ne_nil _ _)
  | columns => exact Section.isParsed_ofWord _ _
  | logLevel => exact Section.isParsed_ofWord _ _

lemma key_toSection (field : Field) : (c.toSection field).key = field.key := by
  cases field with
  | fontFamily =>
    rw [toSection]
    cases c.fontFamily <;> rfl
  | _ => rfl

/-! ## Reading the fields back -/

/-- The entries of a mapping with some fields. -/
def entries (kept : Field → Bool) : List (Node × Node) :=
  (Field.all.filter kept).map fun field => (c.toSection field).entry

lemma key_beq_key (field other : Field) : (field.key == other.key) = decide (field = other) := by
  cases field <;> cases other <;> decide

variable {α : Type} (kept : Field → Bool)

/-- A field that is kept is read from its own entry, and one that is deleted is the standard one. -/
lemma field?_entries (field : Field) (read : Node → Option α) {value : α} (default : α)
    (hread : read (c.toSection field).content = some value) :
    Node.field? (c.entries kept) field.key default read
      = some (if kept field then value else default) := by
  have htext (other : Field) :
      (((c.toSection other).entry).1.text? == some field.key) = decide (other = field) := by
    rw [Section.entry, Node.text?, key_toSection, ← key_beq_key]
    rfl
  have hentries : (c.entries kept).filter (fun e => e.1.text? == some field.key)
      = (Field.all.filter fun other => kept other && decide (other = field)).map
        fun other => (c.toSection other).entry := by
    rw [entries, List.filter_map, List.filter_filter]
    congr 2
    funext other
    rw [Function.comp, htext, Bool.and_comm]
  have hfields : (Field.all.filter fun other => kept other && decide (other = field))
      = if kept field then [field] else [] := by
    cases field <;> simp [Field.all, List.filter_cons]
  rw [Node.field?, hentries, hfields]
  cases kept field with
  | false => rfl
  | true => exact hread

/-! ## The value of each field -/

lemma unsigned?_word {n bound : Nat} (h : n < bound) :
    Node.unsigned? bound (.scalar none ⟨toString n, .plain⟩) = some n := by
  simp only [Node.unsigned?, decide_true, Bool.true_or, if_true, unsigned?_toString,
    Option.bind_some, if_pos h]

/-- A text is taken for itself and not for nothing, whatever it is. -/
lemma optional?_text (text : String) :
    Node.optional? Node.text? (.scalar none ⟨text, Written.style text⟩) = some (some text) := by
  rcases Written.style_cases text with ⟨hstyle, -⟩ | ⟨hstyle, hclear, -⟩ | ⟨hstyle, -⟩ | hstyle
  · rw [hstyle]
    rfl
  · rw [isAmbiguous, Bool.or_eq_false_iff, Bool.or_eq_false_iff, Bool.or_eq_false_iff,
      Bool.or_eq_false_iff, Bool.or_eq_false_iff] at hclear
    obtain ⟨⟨⟨⟨⟨hempty, hnull⟩, -⟩, -⟩, -⟩, -⟩ := hclear
    rw [hstyle]
    simp only [Node.optional?, hempty, hnull]
    rfl
  · rw [hstyle]
    rfl
  · rw [hstyle]
    rfl

lemma fontFamily_content :
    Node.optional? Node.text? (c.toSection .fontFamily).content = some c.fontFamily := by
  rw [toSection]
  cases c.fontFamily with
  | none => decide
  | some family => exact optional?_text family

lemma color_content (key : String) (color : Rgba) :
    Node.color? (Section.ofWords key (colorWords color)).content = some color := by
  have hchannel (n : UInt8) :
      Node.unsigned? 256 (.scalar none ⟨String.ofList (toString n.toNat).toList, .plain⟩)
        = some n.toNat := by
    rw [String.ofList_toList]
    exact unsigned?_word n.toNat_lt
  simp only [Section.ofWords, colorWords, Rgba.channels, List.map_cons, List.map_nil, Node.color?,
    List.mapM_cons, List.mapM_nil, hchannel, Option.bind_eq_bind, Option.bind_some, Option.pure_def,
    UInt8.ofNat_toNat, Rgba.ofChannels?]

lemma logLevel_content :
    Node.optional? Node.logLevel? (c.toSection .logLevel).content = some c.logLevel := by
  rw [toSection]
  cases c.logLevel with
  | none => decide
  | some level => cases level <;> decide

lemma fontHeight_content :
    ((c.toSection .fontHeight).content.unsigned? UInt32.size).map UInt32.ofNat
      = some c.fontHeight := by
  rw [toSection, Section.ofWord, unsigned?_word c.fontHeight.toNat_lt, Option.map_some,
    UInt32.ofNat_toNat]

lemma columns_content :
    ((c.toSection .columns).content.unsigned? UInt64.size).map UInt64.ofNat = some c.columns := by
  rw [toSection, Section.ofWord, unsigned?_word c.columns.toNat_lt, Option.map_some,
    UInt64.ofNat_toNat]

/-! ## Whole documents -/

/-- What was written is read back, and what is deleted is as in the configuration that nobody
changed. -/
lemma ofEntries?_entries : ofEntries? (c.entries kept) = some (c.keeping kept) := by
  have hkeys : (c.entries kept).all (fun e => e.1.text?.isSome) = true := by
    rw [List.all_eq_true]
    intro e he
    obtain ⟨field, -, rfl⟩ := List.mem_map.mp he
    rfl
  have hheight := c.field?_entries kept .fontHeight
    (fun n => (n.unsigned? UInt32.size).map UInt32.ofNat) standard.fontHeight c.fontHeight_content
  have hfamily := c.field?_entries kept .fontFamily (Node.optional? Node.text?) standard.fontFamily
    c.fontFamily_content
  have hforeground := c.field?_entries kept .foreground Node.color? standard.foreground
    (color_content "foreground" c.foreground)
  have hbackground := c.field?_entries kept .background Node.color? standard.background
    (color_content "background" c.background)
  have hcolumns := c.field?_entries kept .columns
    (fun n => (n.unsigned? UInt64.size).map UInt64.ofNat) standard.columns c.columns_content
  have hlevel := c.field?_entries kept .logLevel (Node.optional? Node.logLevel?) standard.logLevel
    c.logLevel_content
  simp only [Field.key] at hheight hfamily hforeground hbackground hcolumns hlevel
  rw [ofEntries?, hkeys]
  simp only [hheight, hfamily, hforeground, hbackground, hcolumns, hlevel]
  rfl

/-- Any fields that are left of a document are read back. -/
lemma parse?_linesOf : parse? (c.linesOf kept) = some (c.keeping kept) := by
  have hlines : c.linesOf kept
      = ((Field.all.filter kept).map c.toSection).flatMap Section.lines := by
    rw [linesOf, List.flatMap_map]
    congr 1
    funext field
    exact (c.lines_toSection field).symm
  have hread : ∀ s ∈ (Field.all.filter kept).map c.toSection, s.IsRead := by
    intro s hs
    obtain ⟨field, -, rfl⟩ := List.mem_map.mp hs
    exact c.isRead_toSection field
  have hparsed : ∀ s ∈ (Field.all.filter kept).map c.toSection, s.IsParsed := by
    intro s hs
    obtain ⟨field, -, rfl⟩ := List.mem_map.mp hs
    exact c.isParsed_toSection field
  have hentries : ((Field.all.filter kept).map c.toSection).map Section.entry = c.entries kept := by
    rw [List.map_map]
    rfl
  have hof := c.ofEntries?_entries kept
  rw [parse?, hlines, Section.read?_sections hread hparsed, Option.bind_some, hentries]
  by_cases hempty : (Field.all.filter kept).map c.toSection = []
  · rw [if_pos hempty]
    rw [← hentries, hempty] at hof
    exact hof
  · rw [if_neg hempty]
    exact hof

/-! ## Usable configurations -/

lemma validate_of_pos {config : Config} (hheight : 0 < config.fontHeight)
    (hcolumns : 0 < config.columns) :
    config.validate = .ok config := by
  rw [validate, if_neg (UInt32.pos_iff_ne_zero.mp hheight),
    if_neg (UInt64.pos_iff_ne_zero.mp hcolumns)]

lemma pos_of_validate_eq_ok {config valid : Config} (h : config.validate = .ok valid) :
    0 < valid.fontHeight ∧ 0 < valid.columns := by
  unfold validate at h
  split at h
  · cases h
  · split at h
    · cases h
    · next hheight hcolumns =>
      cases h
      exact ⟨UInt32.pos_iff_ne_zero.mpr hheight, UInt64.pos_iff_ne_zero.mpr hcolumns⟩

/-- The fields of the configuration that nobody changed can be used. -/
lemma validate_keeping (hheight : 0 < c.fontHeight) (hcolumns : 0 < c.columns) :
    (c.keeping kept).validate = .ok (c.keeping kept) := by
  apply validate_of_pos
  · rw [keeping]
    dsimp only
    split
    · exact hheight
    · decide
  · rw [keeping]
    dsimp only
    split
    · exact hcolumns
    · decide

/-! ## Files -/

/-- What is left of a saved text is loaded, if it can be used. -/
lemma value_load_linesOf {files : FileTree} {working : Location} {path : String}
    (h : files.find? working path = some (.file (Utf8.encode (c.linesOf kept)))) :
    (load files working path).value = (c.keeping kept).validate := by
  have hbytes : ofBytes path (Utf8.encode (c.linesOf kept)) = (c.keeping kept).validate := by
    rw [ofBytes, Utf8.decode?_encode]
    dsimp only
    rw [parse?_linesOf]
  rw [load, Noted.value_bind, h]
  exact hbytes

/-- What is loaded can be used, whatever the files are. -/
lemma pos_of_value_load_eq_ok {files : FileTree} {working : Location} {path : String}
    {config : Config} (h : (load files working path).value = .ok config) :
    0 < config.fontHeight ∧ 0 < config.columns := by
  rw [load, Noted.value_bind] at h
  cases hfound : files.find? working path with
  | none =>
    rw [hfound] at h
    cases h
    decide
  | some entry =>
    rw [hfound] at h
    cases entry with
    | file bytes =>
      change ofBytes path bytes = .ok config at h
      unfold ofBytes at h
      split at h
      · cases h
      · split at h
        · cases h
        · exact pos_of_validate_eq_ok h
    | picture image patches => cases h
    | directory => cases h

/-- After a configuration was saved, the file holds the lines of all its fields. -/
lemma find?_of_save? {files later : FileTree} {working : Location} {path : String}
    (h : c.save? files working path = some later) :
    later.find? working path = some (.file (Utf8.encode (c.linesOf fun _ => true))) := by
  obtain ⟨middle, -, hwritten⟩ := Option.bind_eq_some_iff.mp h
  obtain ⟨place, hputs⟩ := FileTree.exists_puts hwritten
  rw [hputs.find?_eq FileEntry.noConfusion, document_eq]

/-- What is known of a configuration that was saved under a path. -/
structure ReadsBack (c : Config) (files : FileTree) (working : Location) (path : String) :
    Prop where
  /-- The file holds the lines of the fields, one field after another. -/
  find?_eq : files.find? working path = some (.file (Utf8.encode (c.linesOf fun _ => true)))
  /-- A usable configuration is loaded as it was saved. -/
  value_load : 0 < c.fontHeight → 0 < c.columns → (load files working path).value = .ok c
  /-- Where a file holds what is left when some fields are deleted from the text, the configuration
  is loaded with just these fields as they are by default. -/
  value_load_kept : 0 < c.fontHeight → 0 < c.columns →
    ∀ (kept : Field → Bool) (shortened : FileTree),
      shortened.find? working path = some (.file (Utf8.encode (c.linesOf kept))) →
        (load shortened working path).value = .ok (c.keeping kept)
  value_load_zeroHeight : c.fontHeight = 0 →
    ∃ e, (load files working path).value = .error e ∧ e.message = "font_height must be positive"
  value_load_zeroColumns : 0 < c.fontHeight → c.columns = 0 →
    ∃ e, (load files working path).value = .error e ∧ e.message = "columns must be positive"

variable {files later : FileTree} {working : Location} {path : String}

lemma readsBack_of_save? (h : c.save? files working path = some later) :
    c.ReadsBack later working path := by
  have hfound := c.find?_of_save? h
  have hload : (load later working path).value = c.validate := by
    rw [c.value_load_linesOf _ hfound, keeping_all]
  constructor
  case find?_eq => exact hfound
  case value_load =>
    intro hheight hcolumns
    rw [hload, validate_of_pos hheight hcolumns]
  case value_load_kept =>
    intro hheight hcolumns kept shortened hshort
    rw [c.value_load_linesOf kept hshort, c.validate_keeping kept hheight hcolumns]
  case value_load_zeroHeight =>
    intro hheight
    exact ⟨.zeroHeight, by rw [hload, validate, if_pos hheight], rfl⟩
  case value_load_zeroColumns =>
    intro hheight hcolumns
    refine ⟨.zeroColumns, ?_, rfl⟩
    rw [hload, validate, if_neg (UInt32.pos_iff_ne_zero.mp hheight), if_pos hcolumns]

/-- Saving succeeds where a file can be written, whatever the configuration is. -/
lemma exists_save? (h : files.Admits working path) :
    ∃ later, c.save? files working path = some later := by
  obtain ⟨middle, later, hmade, hwritten⟩ := h.exists_write? (Utf8.encode c.document)
  refine ⟨later, ?_⟩
  rw [save?, hmade]
  exact hwritten

/-- **A saved configuration is loaded as it was.**  Saving succeeds for every configuration where a
file can be written at all.  Once it has, a usable configuration is loaded unchanged, whatever its
family is, and fields that are deleted from the text are loaded as they are by default; one that
cannot be used is refused with the reason.  Nothing that is loaded, from any file, lacks a height or
columns. -/
theorem save_load_roundTrip (c : Config) (files : FileTree) (working : Location) (path : String) :
    (files.Admits working path → ∃ later, c.save? files working path = some later)
      ∧ (∀ later, c.save? files working path = some later → c.ReadsBack later working path)
      ∧ ∀ config, (load files working path).value = .ok config →
          0 < config.fontHeight ∧ 0 < config.columns :=
  ⟨c.exists_save?, fun _ => c.readsBack_of_save?, fun _ => pos_of_value_load_eq_ok⟩

/-- A family that is hard to write, in a directory that is not there yet. -/
theorem save_load_roundTrip_newDirectory :
    let config : Config := ⟨1, some " 'null': \"~\"\n\t#\u2028\u0007é", ⟨0, 1, 2, 3⟩,
      ⟨255, 254, 253, 252⟩, 18446744073709551615, some .off⟩
    ∃ later, config.save? ⟨[]⟩ [] "settings/config.yaml" = some later
      ∧ (load later [] "settings/config.yaml").value = .ok config
      ∧ 0 < config.fontHeight ∧ 0 < config.columns := by
  intro config
  have hpieces : "settings/config.yaml".splitOn "/" = ["settings", "config.yaml"] := by
    rw [splitOn_slash]
    decide
  have hnames : pathNames "settings/config.yaml" = ["settings", "config.yaml"] := by
    rw [pathNames, hpieces]
    decide
  have horigin : FileTree.origin [] "settings/config.yaml" = [] := by decide
  have hdestination : FileTree.destination [] "settings/config.yaml"
      = ["settings", "config.yaml"] := by
    rw [FileTree.destination, horigin, hnames]
    decide
  have hadmits : FileTree.Admits ⟨[]⟩ [] "settings/config.yaml" := by
    constructor
    case names_file =>
      rw [endsInDirectory, hpieces]
      decide
    case start =>
      rw [horigin]
      exact FileTree.isDirectory_nil _
    case free =>
      rw [horigin, hnames]
      decide
    case not_around =>
      rw [horigin, hdestination, hnames]
      decide
    case not_directory =>
      rw [hdestination]
      decide
  obtain ⟨hsaves, hreads, -⟩ := save_load_roundTrip config ⟨[]⟩ [] "settings/config.yaml"
  obtain ⟨later, hsaved⟩ := hsaves hadmits
  have hloaded := (hreads later hsaved).value_load (by decide) (by decide)
  obtain ⟨-, -, hpos⟩ := save_load_roundTrip config later [] "settings/config.yaml"
  exact ⟨later, hsaved, hloaded, hpos config hloaded⟩

end GlyphGrid.Config
