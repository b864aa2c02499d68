import Mathlib.Data.Option.Basic
import QueryPlanner.Command.Run

/-!
# Where schemas and documents come from

Which file the schema comes from is decided by the command line, or else by the surroundings.  The
file may be missing, may not be readable, may hold no text, and its text may be no schema; the text
of a document can fail to come in the same ways.  Each of these is an outcome of its own, and the
outcomes are those of the two steps that load a schema and read a document.
-/

namespace QueryPlanner.Schema

/-- A path of a name in a directory, with one slash between them. -/
inductive IsInside (name : String) : String → String → Prop where
  | here : IsInside name "" name
  | slashed {front : String} : IsInside name (front ++ "/") (front ++ "/" ++ name)
  | below {directory : String} (notEmpty : directory ≠ "")
      (notSlashed : ∀ front, directory ≠ front ++ "/") :
      IsInside name directory (directory ++ "/" ++ name)

namespace Environment

variable (environment : Environment)

/-- The user's own directory is the one that is set, or else the one of the account. -/
inductive IsOwnDirectory : String → Prop where
  | set {directory : String} (isSet : environment.home? = some directory)
      (notEmpty : directory ≠ "") : IsOwnDirectory directory
  | account {directory : String} (notSet : ∀ other, environment.home? = some other → other = "")
      (given : environment.accountHome? = some directory) (notEmpty : directory ≠ "") :
      IsOwnDirectory directory

/-- The directory for settings is the one that is set, if it starts at the root, or else one in the
user's own directory.  Without a directory of the user's own there is none. -/
inductive IsConfigDirectory : String → Prop where
  | set {own rest : String} (isOwn : environment.IsOwnDirectory own)
      (isSet : environment.configHome? = some ("/" ++ rest)) : IsConfigDirectory ("/" ++ rest)
  | own {own directory : String} (isOwn : environment.IsOwnDirectory own)
      (notSet : ∀ rest, environment.configHome? ≠ some ("/" ++ rest))
      (inside : IsInside ".config" own directory) : IsConfigDirectory directory

/-- The schema file is the one that is asked for, or else the one that is set, or else one among the
settings. -/
inductive IsSchemaPath : Option String → String → Prop where
  | asked {path : String} : IsSchemaPath (some path) path
  | set {path : String} (isSet : environment.schemaFile? = some path) (notEmpty : path ≠ "") :
      IsSchemaPath none path
  | settings {settings directory path : String}
      (notSet : ∀ other, environment.schemaFile? = some other → other = "")
      (isConfig : environment.IsConfigDirectory settings)
      (inSettings : IsInside "jsonq" settings directory)
      (inDirectory : IsInside "schema.toml" directory path) : IsSchemaPath none path

end Environment

section Paths

variable {environment : Environment} {directory name path : String} {asked : Option String}

theorem getLast?_toList_eq_slash_iff :
    directory.toList.getLast? = some '/' ↔ ∃ front, directory = front ++ "/" := by
  rw [List.getLast?_eq_some_iff]
  constructor
  · rintro ⟨front, frontEq⟩
    refine ⟨String.ofList front, String.toList_injective ?_⟩
    rw [frontEq, String.toList_append, String.toList_ofList]
    rfl
  · rintro ⟨front, rfl⟩
    exact ⟨front.toList, String.toList_append⟩

theorem isAbsolute_iff : isAbsolute path = true ↔ ∃ rest, path = "/" ++ rest := by
  rw [isAbsolute, decide_eq_true_iff, List.head?_eq_some_iff]
  constructor
  · rintro ⟨rest, restEq⟩
    refine ⟨String.ofList rest, String.toList_injective ?_⟩
    rw [restEq, String.toList_append, String.toList_ofList (l := rest)]
    rfl
  · rintro ⟨rest, rfl⟩
    exact ⟨rest.toList, String.toList_append⟩

theorem joinPath_eq_iff : joinPath directory name = path ↔ IsInside name directory path := by
  constructor
  · rintro rfl
    unfold joinPath
    split
    next ends =>
      rw [Bool.or_eq_true, String.isEmpty_iff, decide_eq_true_iff] at ends
      rcases ends with rfl | ends
      · rw [String.empty_append]
        exact .here
      · obtain ⟨front, rfl⟩ := getLast?_toList_eq_slash_iff.mp ends
        exact .slashed
    next notEnds =>
      rw [Bool.or_eq_true, String.isEmpty_iff, decide_eq_true_iff, not_or] at notEnds
      refine .below notEnds.1 fun front isSlashed => ?_
      exact notEnds.2 (getLast?_toList_eq_slash_iff.mpr ⟨front, isSlashed⟩)
  · intro inside
    unfold joinPath
    cases inside with
    | here => exact String.empty_append
    | @slashed front =>
        rw [if_pos]
        rw [Bool.or_eq_true, decide_eq_true_iff]
        exact .inr (getLast?_toList_eq_slash_iff.mpr ⟨front, rfl⟩)
    | below notEmpty notSlashed =>
        rw [if_neg]
        rw [Bool.or_eq_true, String.isEmpty_iff, decide_eq_true_iff, not_or]
        refine ⟨notEmpty, fun ends => ?_⟩
        obtain ⟨front, isSlashed⟩ := getLast?_toList_eq_slash_iff.mp ends
        exact notSlashed front isSlashed

theorem filter_notEmpty_eq_some_iff {found : Option String} :
    found.filter (!·.isEmpty) = some path ↔ found = some path ∧ path ≠ "" := by
  rw [Option.filter_eq_some_iff, Bool.not_eq_true', String.isEmpty_eq_false_iff]

theorem filter_notEmpty_eq_none_iff {found : Option String} :
    found.filter (!·.isEmpty) = none ↔ ∀ other, found = some other → other = "" := by
  rw [Option.filter_eq_none_iff]
  simp only [Bool.not_eq_true, Bool.not_eq_false', String.isEmpty_iff]

theorem filter_isAbsolute_eq_none_iff {found : Option String} :
    found.filter isAbsolute = none ↔ ∀ rest, found ≠ some ("/" ++ rest) := by
  rw [Option.filter_eq_none_iff]
  simp only [isAbsolute_iff]
  constructor
  · intro none rest isRooted
    exact none _ isRooted ⟨rest, rfl⟩
  · rintro none _ found ⟨rest, rfl⟩
    exact none rest found

namespace Environment

theorem ownDirectory?_eq_some_iff :
    environment.ownDirectory? = some directory ↔ environment.IsOwnDirectory directory := by
  rw [ownDirectory?, Option.orElse_eq_some, filter_notEmpty_eq_some_iff,
    filter_notEmpty_eq_none_iff, filter_notEmpty_eq_some_iff]
  constructor
  · rintro (⟨isSet, notEmpty⟩ | ⟨notSet, given, notEmpty⟩)
    · exact .set isSet notEmpty
    · exact .account notSet given notEmpty
  · intro isOwn
    cases isOwn with
    | set isSet notEmpty => exact .inl ⟨isSet, notEmpty⟩
    | account notSet given notEmpty => exact .inr ⟨notSet, given, notEmpty⟩

theorem configDirectory?_eq_some_iff :
    environment.configDirectory? = some directory ↔ environment.IsConfigDirectory directory := by
  rw [configDirectory?, Option.map_eq_some_iff]
  constructor
  · rintro ⟨own, ownEq, directoryEq⟩
    have isOwn := ownDirectory?_eq_some_iff.mp ownEq
    cases isSet : environment.configHome?.filter isAbsolute with
    | none =>
        rw [isSet] at directoryEq
        exact .own isOwn (filter_isAbsolute_eq_none_iff.mp isSet) (joinPath_eq_iff.mp directoryEq)
    | some other =>
        rw [isSet] at directoryEq
        obtain ⟨given, absolute⟩ := Option.filter_eq_some_iff.mp isSet
        obtain ⟨rest, rfl⟩ := isAbsolute_iff.mp absolute
        cases directoryEq
        exact .set isOwn given
  · intro isConfig
    cases isConfig with
    | @set own rest isOwn isSet =>
        have kept : environment.configHome?.filter isAbsolute = some ("/" ++ rest) :=
          Option.filter_eq_some_iff.mpr ⟨isSet, isAbsolute_iff.mpr ⟨rest, rfl⟩⟩
        refine ⟨own, ownDirectory?_eq_some_iff.mpr isOwn, ?_⟩
        rw [kept]
        rfl
    | @own own _ isOwn notSet inside =>
        refine ⟨own, ownDirectory?_eq_some_iff.mpr isOwn, ?_⟩
        rw [filter_isAbsolute_eq_none_iff.mpr notSet]
        exact joinPath_eq_iff.mpr inside

theorem schemaPath?_eq_some_iff :
    environment.schemaPath? asked = some path ↔ environment.IsSchemaPath asked path := by
  rw [schemaPath?, Option.orElse_eq_some, Option.orElse_eq_some, filter_notEmpty_eq_some_iff,
    filter_notEmpty_eq_none_iff, Option.map_eq_some_iff]
  constructor
  · rintro (rfl | ⟨rfl, ⟨isSet, notEmpty⟩ | ⟨notSet, settings, isConfig, pathEq⟩⟩)
    · exact .asked
    · exact .set isSet notEmpty
    · exact .settings notSet (configDirectory?_eq_some_iff.mp isConfig) (joinPath_eq_iff.mp rfl)
        (joinPath_eq_iff.mp pathEq)
  · intro isPath
    cases isPath with
    | asked => exact .inl rfl
    | set isSet notEmpty => exact .inr ⟨rfl, .inl ⟨isSet, notEmpty⟩⟩
    | @settings settings directory _ notSet isConfig inSettings inDirectory =>
        refine .inr ⟨rfl, .inr ⟨notSet, settings, configDirectory?_eq_some_iff.mpr isConfig, ?_⟩⟩
        rw [joinPath_eq_iff.mpr inSettings]
        exact joinPath_eq_iff.mpr inDirectory

theorem schemaPath?_eq_none_iff :
    environment.schemaPath? asked = none ↔ ∀ path, ¬ environment.IsSchemaPath asked path := by
  simp only [← schemaPath?_eq_some_iff, Option.eq_none_iff_forall_ne_some, ne_eq]

end Environment

end Paths

end QueryPlanner.Schema

namespace QueryPlanner.Command

open QueryPlanner.Schema

/-- What comes of reading bytes as text: the text that has them as its UTF-8 form, or an error. -/
inductive Reads : Except SystemError ByteArray → Except Failure String → Prop where
  | refused {cause : SystemError} : Reads (.error cause) (.error (.unreadable (.refused cause)))
  | text {text : String} : Reads (.ok text.toUTF8) (.ok text)
  | notText {bytes : ByteArray} (ofNone : ∀ text : String, text.toUTF8 ≠ bytes) :
      Reads (.ok bytes) (.error (.unreadable .notText))

/-- What comes of loading the schema. -/
inductive LoadsSchema (wording : Wording) (world : World) (asked : Option String) :
    Except Failure Catalog → Prop where
  | noLocation (nowhere : ∀ path, ¬ world.environment.IsSchemaPath asked path) :
      LoadsSchema wording world asked (.error (.misconfigured .noLocation))
  | notFound {path : String} {cause : SystemError}
      (isPath : world.environment.IsSchemaPath asked path)
      (unreachable : world.file path = .unreachable cause) :
      LoadsSchema wording world asked (.error (.misconfigured (.fileNotFound path)))
  | unreadable {path : String} {contents : Except SystemError ByteArray} {fault : Failure}
      (isPath : world.environment.IsSchemaPath asked path)
      (found : world.file path = .found contents) (notRead : Reads contents (.error fault)) :
      LoadsSchema wording world asked (.error fault)
  | malformed {path text : String} {contents : Except SystemError ByteArray}
      (isPath : world.environment.IsSchemaPath asked path)
      (found : world.file path = .found contents) (read : Reads contents (.ok text))
      (refused : File.parse? text = none) :
      LoadsSchema wording world asked
        (.error (.misconfigured (.malformed (wording.malformedSchema text))))
  | loaded {path text : String} {contents : Except SystemError ByteArray} {file : File}
      (isPath : world.environment.IsSchemaPath asked path)
      (found : world.file path = .found contents) (read : Reads contents (.ok text))
      (parsed : File.parse? text = some file) :
      LoadsSchema wording world asked (.ok file.catalog)

/-- What comes of reading the text of a document, which is the input if no file is given, or only a
hyphen. -/
inductive ReadsDocument (world : World) : Option String → Except Failure String → Prop where
  | input {file : Option String} {outcome : Except Failure String}
      (noFile : file = none ∨ file = some "-") (reads : Reads world.input outcome) :
      ReadsDocument world file outcome
  | notFound {path : String} {cause : SystemError} (isFile : path ≠ "-")
      (unreachable : world.file path = .unreachable cause) :
      ReadsDocument world (some path) (.error (.unreadable (.refused cause)))
  | file {path : String} {contents : Except SystemError ByteArray}
      {outcome : Except Failure String} (isFile : path ≠ "-")
      (found : world.file path = .found contents) (reads : Reads contents outcome) :
      ReadsDocument world (some path) outcome

variable {wording : Wording} {world : World} {asked file : Option String}
  {contents : Except SystemError ByteArray}

theorem fromUTF8?_eq_some_iff {bytes : ByteArray} {text : String} :
    String.fromUTF8? bytes = some text ↔ text.toUTF8 = bytes := by
  unfold String.fromUTF8?
  constructor
  · intro read
    split at read
    next =>
      cases read
      rfl
    next => cases read
  · rintro rfl
    exact dif_pos text.isValidUTF8

theorem reads_iff {outcome : Except Failure String} :
    Reads contents outcome ↔ readText contents = outcome := by
  constructor
  · intro reads
    cases reads with
    | refused => rfl
    | @text text => rw [readText, fromUTF8?_eq_some_iff.mpr rfl]
    | @notText bytes ofNone =>
        have noText : String.fromUTF8? bytes = none := Option.eq_none_iff_forall_ne_some.mpr
          fun text read => ofNone text (fromUTF8?_eq_some_iff.mp read)
        rw [readText, noText]
  · rintro rfl
    unfold readText
    split
    next => exact .refused
    next bytes =>
      split
      next text read =>
        rw [← fromUTF8?_eq_some_iff.mp read]
        exact .text
      next noText =>
        refine .notText fun text hasBytes => ?_
        rw [fromUTF8?_eq_some_iff.mpr hasBytes] at noText
        cases noText

theorem loadSchema_of_found {path : String}
    (isPath : world.environment.IsSchemaPath asked path)
    (found : world.file path = .found contents) :
    loadSchema wording world asked = readText contents >>= schemaOfText wording := by
  rw [loadSchema, Environment.schemaPath?_eq_some_iff.mpr isPath]
  dsimp only
  rw [found]

theorem loadsSchema_iff {outcome : Except Failure Catalog} :
    LoadsSchema wording world asked outcome ↔ loadSchema wording world asked = outcome := by
  constructor
  · intro loads
    cases loads with
    | noLocation nowhere => rw [loadSchema, Environment.schemaPath?_eq_none_iff.mpr nowhere]
    | notFound isPath unreachable =>
        rw [loadSchema, Environment.schemaPath?_eq_some_iff.mpr isPath]
        dsimp only
        rw [unreachable]
    | unreadable isPath found notRead =>
        rw [loadSchema_of_found isPath found, reads_iff.mp notRead]
        rfl
    | malformed isPath found read refused =>
        rw [loadSchema_of_found isPath found, reads_iff.mp read]
        change schemaOfText wording _ = _
        rw [schemaOfText, refused]
    | loaded isPath found read parsed =>
        rw [loadSchema_of_found isPath found, reads_iff.mp read]
        change schemaOfText wording _ = _
        rw [schemaOfText, parsed]
  · rintro rfl
    unfold loadSchema
    split
    next noPath => exact .noLocation (Environment.schemaPath?_eq_none_iff.mp noPath)
    next path pathEq =>
      have isPath := Environment.schemaPath?_eq_some_iff.mp pathEq
      split
      next cause unreachable => exact .notFound isPath unreachable
      next contents found =>
        cases readEq : readText contents with
        | error fault => exact .unreadable isPath found (reads_iff.mpr readEq)
        | ok text =>
            have read := reads_iff.mpr readEq
            change LoadsSchema wording world asked (schemaOfText wording text)
            unfold schemaOfText
            split
            next file parsed => exact .loaded isPath found read parsed
            next refused => exact .malformed isPath found read refused

theorem filter_notHyphen_eq_some_iff {path : String} :
    file.filter (· ≠ "-") = some path ↔ file = some path ∧ path ≠ "-" := by
  rw [Option.filter_eq_some_iff, decide_eq_true_iff]

theorem filter_notHyphen_eq_none_iff :
    file.filter (· ≠ "-") = none ↔ file = none ∨ file = some "-" := by
  cases file with
  | none => simp
  | some path => simp [Option.filter_some]

theorem readsDocument_iff {outcome : Except Failure String} :
    ReadsDocument world file outcome ↔ readDocument world file = outcome := by
  constructor
  · intro reads
    cases reads with
    | input noFile reads =>
        rw [readDocument, filter_notHyphen_eq_none_iff.mpr noFile]
        exact reads_iff.mp reads
    | notFound isFile unreachable =>
        rw [readDocument, filter_notHyphen_eq_some_iff.mpr ⟨rfl, isFile⟩]
        dsimp only
        rw [unreachable]
    | file isFile found reads =>
        rw [readDocument, filter_notHyphen_eq_some_iff.mpr ⟨rfl, isFile⟩]
        dsimp only
        rw [found]
        exact reads_iff.mp reads
  · rintro rfl
    unfold readDocument
    split
    next noFile => exact .input (filter_notHyphen_eq_none_iff.mp noFile) (reads_iff.mpr rfl)
    next path pathEq =>
      obtain ⟨rfl, isFile⟩ := filter_notHyphen_eq_some_iff.mp pathEq
      split
      next cause unreachable => exact .notFound isFile unreachable
      next contents found => exact .file isFile found (reads_iff.mpr rfl)

end QueryPlanner.Command
