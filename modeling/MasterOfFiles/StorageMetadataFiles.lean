import Mathlib.Data.List.Nodup
import Mathlib.Logic.Function.Basic
import MasterOfFiles.DecimalText
import MasterOfFiles.StorageDisk

/-!
# The text of a metadata file

`metadata.config` is written by `save_file_metadata`, which prints the block list with a loop of
its own, and by `create_metadata`, which copies the printed list of another File:Tag; both are read
by `read_file_metadata`.  The config files of the commons and their parser of arrays are
parameters.  Whatever the size, the blocks and the state, they are read as they were written.
-/

namespace MasterOfFiles

namespace Storage

open DecimalText

section Definitions

/-- The keys of a `t_config` with their values. -/
abbrev Properties : Type := List (String × String)

/-- The commons: the properties that `config_create` finds in a text, the text that `config_save`
writes, and `string_get_string_as_array`. -/
structure Commons where
  configRead : String → Properties
  configWrite : Properties → String
  stringGetStringAsArray : String → List String

/-- `t_config`. -/
structure Config where
  path : String
  properties : Properties

abbrev Files : Type := String → Option String

def configCreate (commons : Commons) (files : Files) (path : String) : Option Config :=
  (files path).map fun text => ⟨path, commons.configRead text⟩

def configSave (commons : Commons) (files : Files) (config : Config) : Files :=
  Function.update files config.path (some (commons.configWrite config.properties))

/-- `config_get_string_value`; `none` is what `config_has_property` denies. -/
def configGetStringValue (config : Config) (key : String) : Option String :=
  config.properties.lookup key

def configSetValue (config : Config) (key value : String) : Config :=
  { config with
    properties := (key, value) :: config.properties.filter fun property => property.1 != key }

/-- `t_file_metadata`; `block_count` is the length of `blocks`, which is `NULL` when it is 0. -/
structure MetadataFile where
  size : Int32
  blocks : List Int32
  state : String
  config : Config

def metadataPath (mountPoint filename tag : String) : String :=
  mountPoint ++ "/files/" ++ filename ++ "/" ++ tag ++ "/metadata.config"

/-- The loop of `get_stringified_array` from an index on. -/
def appendElements : Nat → List String → String → String
  | _, [], resultado => resultado
  | index, element :: elements, resultado =>
    appendElements (index + 1) elements
      ((if 0 < index then resultado ++ "," else resultado) ++ element)

def getStringifiedArray (array : List String) : String :=
  appendElements 0 array "[" ++ "]"

def readFileMetadata (commons : Commons) (files : Files) (mountPoint filename tag : String) :
    Option MetadataFile :=
  (configCreate commons files (metadataPath mountPoint filename tag)).bind fun config =>
    (configGetStringValue config "SIZE").bind fun size =>
      (configGetStringValue config "BLOCKS").bind fun blocks =>
        (configGetStringValue config "ESTADO").map fun state =>
          { size := atoi size
            blocks := (commons.stringGetStringAsArray blocks).map atoi
            state := state
            config := config }

/-- The text of the block list in `save_file_metadata`. -/
def stringifiedBlocks (blocks : List Int32) : String :=
  if blocks = [] then "[]" else getStringifiedArray (blocks.map formatInt)

/-- `save_file_metadata`; it returns 0. -/
def saveFileMetadata (commons : Commons) (files : Files) (metadata : MetadataFile) : Files :=
  configSave commons files
    (configSetValue
      (configSetValue (configSetValue metadata.config "SIZE" (formatInt metadata.size)) "BLOCKS"
        (stringifiedBlocks metadata.blocks))
      "ESTADO" metadata.state)

/-- `create_metadata`: what it returns and the files after it; `opens` says whether the file can
be opened for writing. -/
def createMetadata (commons : Commons) (opens : Bool) (files : Files) (name tag : String)
    (size : Int32) (numbBlocks : Nat) (blocksArrayStr status mountPoint : String) : Int × Files :=
  if (commons.stringGetStringAsArray blocksArrayStr).length ≠ numbBlocks then (-1, files)
  else if !opens then (-2, files)
  else
    (0, Function.update files (metadataPath mountPoint name tag)
      (some ("SIZE=" ++ formatInt size ++ "\n" ++ ("BLOCKS=" ++ blocksArrayStr ++ "\n") ++
        ("ESTADO=" ++ status ++ "\n"))))

end Definitions

section Laws

/-- A string without the characters that end a line or a key. -/
def PlainText (text : String) : Prop :=
  ∀ character ∈ text.toList, character ≠ '\n' ∧ character ≠ '=' ∧ character ≠ Char.ofNat 0

instance (text : String) : Decidable (PlainText text) :=
  List.decidableBAll
    (fun character => character ≠ '\n' ∧ character ≠ '=' ∧ character ≠ Char.ofNat 0) text.toList

def PlainKey (key : String) : Prop :=
  PlainText key ∧ key ≠ "" ∧ '#' ∉ key.toList

instance (key : String) : Decidable (PlainKey key) :=
  inferInstanceAs (Decidable (PlainText key ∧ key ≠ "" ∧ '#' ∉ key.toList))

structure PlainProperties (properties : Properties) : Prop where
  distinct : (properties.map Prod.fst).Nodup
  keys : ∀ property ∈ properties, PlainKey property.1
  values : ∀ property ∈ properties, PlainText property.2

def linesOf (properties : Properties) : String :=
  String.join (properties.map fun property => property.1 ++ "=" ++ property.2 ++ "\n")

def PlainElement (element : String) : Prop :=
  element ≠ "" ∧ ∀ character ∈ element.toList,
    character ≠ ',' ∧ character ≠ '[' ∧ character ≠ ']' ∧ character ≠ ' '

/-- The commons keep keys and values, in what they write and in what is written as they do, and
split a printed array into its elements. -/
structure Commons.Lawful (commons : Commons) : Prop where
  saved : ∀ properties key, PlainProperties properties →
    (commons.configRead (commons.configWrite properties)).lookup key = properties.lookup key
  lines : ∀ properties key, PlainProperties properties →
    (commons.configRead (linesOf properties)).lookup key = properties.lookup key
  array : ∀ elements, (∀ element ∈ elements, PlainElement element) →
    commons.stringGetStringAsArray ("[" ++ ",".intercalate elements ++ "]") = elements

end Laws

section Printing

theorem intercalate_cons (element : String) (elements : List String) :
    ",".intercalate (element :: elements) =
      element ++ String.join (elements.map fun other => "," ++ other) := by
  induction elements generalizing element with
  | nil => simp
  | cons other elements ih =>
      rw [String.intercalate_cons_cons, ih]
      simp [String.append_assoc]

theorem appendElements_eq {index : Nat} (later : 0 < index) (elements : List String)
    (resultado : String) :
    appendElements index elements resultado =
      resultado ++ String.join (elements.map fun element => "," ++ element) := by
  induction elements generalizing index resultado with
  | nil => simp [appendElements]
  | cons element elements ih =>
      rw [appendElements, ih (Nat.succ_pos index), if_pos later]
      simp [String.append_assoc]

/-- The loop over the growing string puts commas between the elements. -/
theorem getStringifiedArray_eq (array : List String) :
    getStringifiedArray array = "[" ++ ",".intercalate array ++ "]" := by
  cases array with
  | nil => rfl
  | cons element elements =>
      rw [getStringifiedArray, appendElements, appendElements_eq Nat.one_pos, intercalate_cons]
      simp [String.append_assoc]

theorem stringifiedBlocks_eq (blocks : List Int32) :
    stringifiedBlocks blocks = "[" ++ ",".intercalate (blocks.map formatInt) ++ "]" := by
  unfold stringifiedBlocks
  split
  · rename_i empty
    rw [empty]
    rfl
  · exact getStringifiedArray_eq _

theorem plainElement_formatInt (value : Int32) : PlainElement (formatInt value) := by
  refine ⟨formatInt_ne_empty value, ?_⟩
  intro character member
  rcases mem_formatInt member with rfl | digit
  · decide
  · refine ⟨?_, ?_, ?_, ?_⟩ <;>
      · rintro rfl
        exact absurd digit (by decide)

theorem plainText_formatInt (value : Int32) : PlainText (formatInt value) := by
  intro character member
  rcases mem_formatInt member with rfl | digit
  · decide
  · refine ⟨?_, ?_, ?_⟩ <;>
      · rintro rfl
        exact absurd digit (by decide)

theorem plainText_append {first second : String} (plain : PlainText first)
    (more : PlainText second) : PlainText (first ++ second) := by
  intro character member
  rw [String.toList_append, List.mem_append] at member
  exact member.elim (plain character) (more character)

theorem plainText_join {texts : List String} (each : ∀ text ∈ texts, PlainText text) :
    PlainText (String.join texts) := by
  induction texts with
  | nil =>
      intro character member
      simp at member
  | cons text texts ih =>
      rw [String.join_cons]
      refine plainText_append (each text (by simp)) (ih ?_)
      intro other member
      exact each other (by simp [member])

theorem plainText_stringifiedBlocks (blocks : List Int32) :
    PlainText (stringifiedBlocks blocks) := by
  have bracket : PlainText "[" := by decide
  have close : PlainText "]" := by decide
  have comma : PlainText "," := by decide
  rw [stringifiedBlocks_eq]
  refine plainText_append (plainText_append bracket ?_) close
  cases blocks with
  | nil => decide
  | cons block blocks =>
      rw [List.map_cons, intercalate_cons]
      refine plainText_append (plainText_formatInt block) (plainText_join ?_)
      intro text member
      simp only [List.map_map, List.mem_map, Function.comp_apply] at member
      obtain ⟨other, _, rfl⟩ := member
      exact plainText_append comma (plainText_formatInt other)

/-- The parser of arrays and `atoi` read back the printed block list. -/
theorem parsed_stringifiedBlocks {commons : Commons} (lawful : commons.Lawful)
    (blocks : List Int32) :
    (commons.stringGetStringAsArray (stringifiedBlocks blocks)).map atoi = blocks := by
  have elements : ∀ element ∈ blocks.map formatInt, PlainElement element := by
    intro element member
    obtain ⟨block, _, rfl⟩ := List.mem_map.mp member
    exact plainElement_formatInt block
  rw [stringifiedBlocks_eq, lawful.array _ elements, List.map_map]
  exact List.map_id'' atoi_formatInt blocks

end Printing

section Setting

variable {config : Config} {key other value : String} {properties : Properties}

theorem lookup_filter_ne (different : other ≠ key) :
    (properties.filter fun property => property.1 != key).lookup other =
      properties.lookup other := by
  induction properties with
  | nil => rfl
  | cons property properties ih =>
      by_cases same : property.1 = key
      · have mismatch : (other == property.1) = false := by simp [same, different]
        rw [List.filter_cons_of_neg (by simp [same]), ih, List.lookup_cons, mismatch]
      · rw [List.filter_cons_of_pos (by simp [same]), List.lookup_cons, List.lookup_cons, ih]

theorem configGetStringValue_set :
    configGetStringValue (configSetValue config key value) key = some value := by
  simp [configGetStringValue, configSetValue]

theorem configGetStringValue_set_of_ne (different : other ≠ key) :
    configGetStringValue (configSetValue config key value) other =
      configGetStringValue config other := by
  have mismatch : (other == key) = false := by simp [different]
  rw [configGetStringValue, configSetValue, List.lookup_cons, mismatch]
  exact lookup_filter_ne different

theorem PlainProperties.set (plain : PlainProperties config.properties) (keyPlain : PlainKey key)
    (valuePlain : PlainText value) :
    PlainProperties (configSetValue config key value).properties := by
  have kept : (config.properties.filter fun property => property.1 != key).Sublist
      config.properties := List.filter_sublist
  constructor
  · rw [configSetValue, List.map_cons, List.nodup_cons]
    refine ⟨?_, plain.distinct.sublist (kept.map Prod.fst)⟩
    intro member
    obtain ⟨property, found, same⟩ := List.mem_map.mp member
    have different := (List.mem_filter.mp found).2
    simp [same] at different
  · intro property member
    rcases List.mem_cons.mp member with rfl | old
    · exact keyPlain
    · exact plain.keys property (kept.subset old)
  · intro property member
    rcases List.mem_cons.mp member with rfl | old
    · exact valuePlain
    · exact plain.values property (kept.subset old)

end Setting

section Reading

variable {commons : Commons} {files : Files} {mountPoint filename tag text : String}

/-- A file whose text gives the three properties is read as these say. -/
theorem readFileMetadata_of_text {size : Int32} {blocks : List Int32} {state : String}
    (lawful : commons.Lawful)
    (holds : files (metadataPath mountPoint filename tag) = some text)
    (sizeFound : (commons.configRead text).lookup "SIZE" = some (formatInt size))
    (blocksFound : (commons.configRead text).lookup "BLOCKS" = some (stringifiedBlocks blocks))
    (stateFound : (commons.configRead text).lookup "ESTADO" = some state) :
    readFileMetadata commons files mountPoint filename tag =
      some ⟨size, blocks, state,
        ⟨metadataPath mountPoint filename tag, commons.configRead text⟩⟩ := by
  rw [readFileMetadata, configCreate, holds]
  simp only [Option.map_some, Option.bind_some, configGetStringValue, sizeFound, blocksFound,
    stateFound, atoi_formatInt, parsed_stringifiedBlocks lawful]

theorem lookup_saved (lawful : commons.Lawful) (metadata : MetadataFile)
    (plain : PlainProperties metadata.config.properties) (state : PlainText metadata.state) :
    ∃ saved, saveFileMetadata commons files metadata metadata.config.path = some saved ∧
      (commons.configRead saved).lookup "SIZE" = some (formatInt metadata.size) ∧
      (commons.configRead saved).lookup "BLOCKS" = some (stringifiedBlocks metadata.blocks) ∧
      (commons.configRead saved).lookup "ESTADO" = some metadata.state := by
  let sized := configSetValue metadata.config "SIZE" (formatInt metadata.size)
  let listed := configSetValue sized "BLOCKS" (stringifiedBlocks metadata.blocks)
  let final := configSetValue listed "ESTADO" metadata.state
  have finalPlain : PlainProperties final.properties :=
    ((plain.set (by decide) (plainText_formatInt _)).set (by decide)
      (plainText_stringifiedBlocks _)).set (by decide) state
  refine ⟨commons.configWrite final.properties, ?_, ?_, ?_, ?_⟩
  · exact Function.update_self ..
  · rw [lawful.saved _ _ finalPlain]
    change configGetStringValue final "SIZE" = _
    rw [configGetStringValue_set_of_ne (by decide), configGetStringValue_set_of_ne (by decide),
      configGetStringValue_set]
  · rw [lawful.saved _ _ finalPlain]
    change configGetStringValue final "BLOCKS" = _
    rw [configGetStringValue_set_of_ne (by decide), configGetStringValue_set]
  · rw [lawful.saved _ _ finalPlain]
    exact configGetStringValue_set

theorem linesOf_three (size blocks state : String) :
    "SIZE=" ++ size ++ "\n" ++ ("BLOCKS=" ++ blocks ++ "\n") ++ ("ESTADO=" ++ state ++ "\n") =
      linesOf [("SIZE", size), ("BLOCKS", blocks), ("ESTADO", state)] := by
  simp only [linesOf, List.map_cons, List.map_nil, String.join_cons, String.join_nil,
    String.append_assoc, String.append_empty]
  rfl

/-- A copy of the printed block list is read like the list. -/
theorem read_createMetadata (lawful : commons.Lawful) (size : Int32) (blocks : List Int32)
    {status : String} (plain : PlainText status) :
    ∃ after copied,
      createMetadata commons true files filename tag size blocks.length
          (stringifiedBlocks blocks) status mountPoint = (0, after) ∧
        readFileMetadata commons after mountPoint filename tag = some copied ∧
          copied.size = size ∧ copied.blocks = blocks ∧ copied.state = status := by
  have count : (commons.stringGetStringAsArray (stringifiedBlocks blocks)).length =
      blocks.length := by
    have parsed := congrArg List.length (parsed_stringifiedBlocks lawful blocks)
    rwa [List.length_map] at parsed
  have three : PlainProperties [("SIZE", formatInt size), ("BLOCKS", stringifiedBlocks blocks),
      ("ESTADO", status)] := by
    have sizeKey : PlainKey "SIZE" := by decide
    have blocksKey : PlainKey "BLOCKS" := by decide
    have stateKey : PlainKey "ESTADO" := by decide
    constructor
    · simp
    · intro property member
      simp only [List.mem_cons, List.not_mem_nil, or_false] at member
      rcases member with rfl | rfl | rfl
      · exact sizeKey
      · exact blocksKey
      · exact stateKey
    · intro property member
      simp only [List.mem_cons, List.not_mem_nil, or_false] at member
      rcases member with rfl | rfl | rfl
      · exact plainText_formatInt size
      · exact plainText_stringifiedBlocks blocks
      · exact plain
  have creates : createMetadata commons true files filename tag size blocks.length
      (stringifiedBlocks blocks) status mountPoint =
        (0, Function.update files (metadataPath mountPoint filename tag)
          (some (linesOf [("SIZE", formatInt size), ("BLOCKS", stringifiedBlocks blocks),
            ("ESTADO", status)]))) := by
    rw [createMetadata, if_neg (by simp [count]), linesOf_three]
    rfl
  have found := fun key => lawful.lines _ key three
  exact ⟨_, _, creates, readFileMetadata_of_text lawful (Function.update_self ..) (found "SIZE")
    (found "BLOCKS") (found "ESTADO"), rfl, rfl, rfl⟩

/-- A saved metadata is read with the same size, blocks and state, and so is a copy of its block
list under another File:Tag. -/
theorem metadata_survives {commons : Commons} (lawful : commons.Lawful) (files : Files)
    (metadata : MetadataFile) {mountPoint filename tag : String}
    (path : metadata.config.path = metadataPath mountPoint filename tag)
    (plain : PlainProperties metadata.config.properties) (state : PlainText metadata.state) :
    ∃ loaded blocksText,
      readFileMetadata commons (saveFileMetadata commons files metadata) mountPoint filename tag =
          some loaded ∧
        loaded.size = metadata.size ∧ loaded.blocks = metadata.blocks ∧
          loaded.state = metadata.state ∧
            configGetStringValue loaded.config "BLOCKS" = some blocksText ∧
              ∀ (others : Files) (target targetTag status : String), PlainText status →
                ∃ after copied,
                  createMetadata commons true others target targetTag loaded.size
                      loaded.blocks.length blocksText status mountPoint = (0, after) ∧
                    readFileMetadata commons after mountPoint target targetTag = some copied ∧
                      copied.size = metadata.size ∧ copied.blocks = metadata.blocks ∧
                        copied.state = status := by
  obtain ⟨saved, holds, size, blocks, estado⟩ :=
    @lookup_saved commons files lawful metadata plain state
  rw [path] at holds
  refine ⟨_, _, readFileMetadata_of_text lawful holds size blocks estado, rfl, rfl, rfl, blocks, ?_⟩
  intro others target targetTag status statusPlain
  exact read_createMetadata lawful metadata.size metadata.blocks statusPlain

end Reading

section LineFiles

def propertyOf (line : List Char) : Option (String × String) :=
  match line.splitOn '=' with
  | [key, value] => some (String.ofList key, String.ofList value)
  | _ => none

/-- Config files with a line for each property, and arrays split at their commas. -/
def lineFiles : Commons where
  configRead text := (text.toList.splitOn '\n').filterMap propertyOf
  configWrite := linesOf
  stringGetStringAsArray text :=
    let inner := (text.toList.drop 1).dropLast
    if inner = [] then [] else (inner.splitOn ',').map String.ofList

def lineOfProperty (property : String × String) : List Char :=
  ['='].intercalate [property.1.toList, property.2.toList]

theorem toList_linesOf (properties : Properties) :
    (linesOf properties).toList =
      ['\n'].intercalate (properties.map lineOfProperty ++ [[]]) := by
  induction properties with
  | nil => rfl
  | cons property properties ih =>
      have rest : properties.map lineOfProperty ++ [[]] ≠ [] := by simp
      rw [List.map_cons, List.cons_append, List.intercalate_cons_of_ne_nil rest, ← ih]
      simp [linesOf, lineOfProperty, List.append_assoc]

theorem propertyOf_lineOfProperty {property : String × String} (key : PlainText property.1)
    (value : PlainText property.2) : propertyOf (lineOfProperty property) = some property := by
  have separate : ∀ part ∈ [property.1.toList, property.2.toList], '=' ∉ part := by
    intro part member
    simp only [List.mem_cons, List.not_mem_nil, or_false] at member
    rcases member with rfl | rfl
    · exact fun found => (key _ found).2.1 rfl
    · exact fun found => (value _ found).2.1 rfl
  rw [propertyOf, lineOfProperty, List.splitOn_intercalate _ separate (by simp)]
  simp

theorem configRead_linesOf {properties : Properties} (plain : PlainProperties properties) :
    lineFiles.configRead (linesOf properties) = properties := by
  have separate : ∀ line ∈ properties.map lineOfProperty ++ [[]], '\n' ∉ line := by
    intro line member
    rcases List.mem_append.mp member with mapped | last
    · obtain ⟨property, found, rfl⟩ := List.mem_map.mp mapped
      intro newline
      have split : '\n' ∈ property.1.toList ++ '=' :: property.2.toList := by
        simpa [lineOfProperty] using newline
      rcases List.mem_append.mp split with inKey | rest
      · exact ((plain.keys property found).1 _ inKey).1 rfl
      · rcases List.mem_cons.mp rest with impossible | inValue
        · exact absurd impossible (by decide)
        · exact (plain.values property found _ inValue).1 rfl
    · rw [List.mem_singleton] at last
      rw [last]
      exact List.not_mem_nil
  have last : propertyOf [] = none := by decide
  have each : ∀ property ∈ properties,
      propertyOf (lineOfProperty property) = some property := fun property found =>
    propertyOf_lineOfProperty (plain.keys property found).1 (plain.values property found)
  change ((linesOf properties).toList.splitOn '\n').filterMap propertyOf = properties
  rw [toList_linesOf, List.splitOn_intercalate _ separate (by simp), List.filterMap_append,
    List.filterMap_map, List.filterMap_cons_none last, List.filterMap_nil, List.append_nil]
  calc properties.filterMap (propertyOf ∘ lineOfProperty)
      = properties.filterMap some := List.filterMap_congr each
    _ = properties := List.filterMap_some

theorem lawful_lineFiles : lineFiles.Lawful where
  saved properties key plain := by
    change (lineFiles.configRead (linesOf properties)).lookup key = _
    rw [configRead_linesOf plain]
  lines properties key plain := by rw [configRead_linesOf plain]
  array elements plain := by
    have inner : ((("[" ++ ",".intercalate elements ++ "]").toList.drop 1).dropLast) =
        [','].intercalate (elements.map String.toList) := by
      simp
    change (if (("[" ++ ",".intercalate elements ++ "]").toList.drop 1).dropLast = [] then []
      else _) = elements
    rw [inner]
    cases elements with
    | nil => rfl
    | cons element elements =>
        have separate : ∀ part ∈ (element :: elements).map String.toList, ',' ∉ part := by
          intro part member
          obtain ⟨source, found, rfl⟩ := List.mem_map.mp member
          exact fun comma => ((plain source found).2 _ comma).1 rfl
        have nonempty : [','].intercalate ((element :: elements).map String.toList) ≠ [] := by
          intro empty
          have parts := List.splitOn_intercalate ',' separate (by simp)
          rw [empty] at parts
          have first : element.toList = [] := by
            simpa using (congrArg List.head? parts).symm
          exact (plain element (by simp)).1 (String.toList_eq_nil_iff.mp first)
        rw [if_neg nonempty, List.splitOn_intercalate _ separate (by simp), List.map_map]
        exact List.map_id'' (fun part => String.ofList_toList) (element :: elements)

/-- A metadata with two blocks, saved as `a:T` and copied. -/
theorem metadata_survives_twoBlocks :
    ∃ loaded blocksText,
      readFileMetadata lineFiles (saveFileMetadata lineFiles (fun _ => none)
          ⟨32, [7, 0], "COMMITTED", ⟨metadataPath "/mnt" "a" "T", []⟩⟩) "/mnt" "a" "T" =
          some loaded ∧
        loaded.size = 32 ∧ loaded.blocks = [7, 0] ∧ loaded.state = "COMMITTED" ∧
          configGetStringValue loaded.config "BLOCKS" = some blocksText ∧
            ∀ (others : Files) (target targetTag status : String), PlainText status →
              ∃ after copied,
                createMetadata lineFiles true others target targetTag loaded.size
                    loaded.blocks.length blocksText status "/mnt" = (0, after) ∧
                  readFileMetadata lineFiles after "/mnt" target targetTag = some copied ∧
                    copied.size = 32 ∧ copied.blocks = [7, 0] ∧ copied.state = status :=
  metadata_survives lawful_lineFiles (fun _ => none)
    ⟨32, [7, 0], "COMMITTED", ⟨metadataPath "/mnt" "a" "T", []⟩⟩ rfl
    ⟨List.nodup_nil, by simp, by simp⟩ (by decide)

end LineFiles

end Storage

end MasterOfFiles
