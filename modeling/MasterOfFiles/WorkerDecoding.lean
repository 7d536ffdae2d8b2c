import MasterOfFiles.ByteStrings
import MasterOfFiles.DecimalText
import MasterOfFiles.WorkerInterpreter

/-!
# Decoding an instruction

`decode_instruction` splits a line at its spaces and fills in the fields of the instruction that
the first token names.  The `string_split` of the commons is a parameter; all that is asked of it
is that it takes apart what was put together from tokens.  Each kind of instruction is decoded from
what it is printed as, and a line with an unknown keyword, a missing token or a File:Tag of less
than two parts is refused.
-/

namespace MasterOfFiles

namespace Worker

open ByteStrings DecimalText

/-- The `string_split` of the commons at a separator of one character. -/
abbrev StringSplit : Type := String → Char → List String

variable {split : StringSplit} {word token : String} {rest : List String}

section Definitions

/-- `operation_t`, without `UNKNOWN`. -/
inductive Operation
  | create
  | truncate
  | write
  | read
  | tag
  | commit
  | flush
  | delete
  | finish
deriving DecidableEq

def stringEqualsIgnoreCase (first second : String) : Bool :=
  decide (first.toList.map Char.toLower = second.toList.map Char.toLower)

/-- `get_operation_type`; `none` is `UNKNOWN`. -/
def getOperationType (operation : String) : Option Operation :=
  if stringEqualsIgnoreCase operation "CREATE" then some .create
  else if stringEqualsIgnoreCase operation "TRUNCATE" then some .truncate
  else if stringEqualsIgnoreCase operation "WRITE" then some .write
  else if stringEqualsIgnoreCase operation "READ" then some .read
  else if stringEqualsIgnoreCase operation "TAG" then some .tag
  else if stringEqualsIgnoreCase operation "COMMIT" then some .commit
  else if stringEqualsIgnoreCase operation "FLUSH" then some .flush
  else if stringEqualsIgnoreCase operation "DELETE" then some .delete
  else if stringEqualsIgnoreCase operation "END" then some .finish
  else none

/-- `get_file_tag`, with the check of its two parts. -/
def getFileTag (split : StringSplit) (fileTag : String) : Option FileTag :=
  match split fileTag ':' with
  | file :: tag :: _ => some ⟨file, tag⟩
  | _ => none

/-- The case of CREATE, COMMIT, FLUSH and DELETE. -/
def decodeFileTag (split : StringSplit) (instruction : FileTag → Instruction) :
    List String → Option Instruction
  | fileTag :: _ => (getFileTag split fileTag).map instruction
  | [] => none

def decodeTruncate (split : StringSplit) : List String → Option Instruction
  | fileTag :: size :: _ =>
    (getFileTag split fileTag).map fun fileTag => .truncate fileTag (atoi size)
  | _ => none

def decodeWrite (split : StringSplit) : List String → Option Instruction
  | fileTag :: base :: data :: _ =>
    (getFileTag split fileTag).map fun fileTag =>
      .write fileTag (atoi base).toUInt32 (stringBytes data)
  | _ => none

def decodeRead (split : StringSplit) : List String → Option Instruction
  | fileTag :: base :: size :: _ =>
    (getFileTag split fileTag).map fun fileTag =>
      .read fileTag (atoi base).toUInt32 (atoi size)
  | _ => none

def decodeTag (split : StringSplit) : List String → Option Instruction
  | source :: target :: _ =>
    (getFileTag split source).bind fun source =>
      (getFileTag split target).map fun target => .tag source target
  | _ => none

/-- The `switch` of `decode_instruction`, on the tokens after the first. -/
def decodeArguments (split : StringSplit) (arguments : List String) :
    Operation → Option Instruction
  | .create => decodeFileTag split .create arguments
  | .commit => decodeFileTag split .commit arguments
  | .flush => decodeFileTag split .flush arguments
  | .delete => decodeFileTag split .delete arguments
  | .truncate => decodeTruncate split arguments
  | .write => decodeWrite split arguments
  | .read => decodeRead split arguments
  | .tag => decodeTag split arguments
  | .finish => some .finish

/-- `decode_instruction`; `none` is a -1. -/
def decodeInstruction (split : StringSplit) (rawInstruction : String) : Option Instruction :=
  match split rawInstruction ' ' with
  | [] => none
  | operation :: arguments =>
    (getOperationType operation).bind (decodeArguments split arguments)

end Definitions

section Syntax

def Operation.keyword : Operation → String
  | .create => "CREATE"
  | .truncate => "TRUNCATE"
  | .write => "WRITE"
  | .read => "READ"
  | .tag => "TAG"
  | .commit => "COMMIT"
  | .flush => "FLUSH"
  | .delete => "DELETE"
  | .finish => "END"

/-- How many tokens follow the keyword. -/
def Operation.argumentCount : Operation → Nat
  | .create => 1
  | .truncate => 2
  | .write => 3
  | .read => 3
  | .tag => 2
  | .commit => 1
  | .flush => 1
  | .delete => 1
  | .finish => 0

def Operation.fileTagCount : Operation → Nat
  | .tag => 2
  | .finish => 0
  | _ => 1

def Instruction.operation : Instruction → Operation
  | .create _ => .create
  | .truncate _ _ => .truncate
  | .write _ _ _ => .write
  | .read _ _ _ => .read
  | .tag _ _ => .tag
  | .commit _ => .commit
  | .flush _ => .flush
  | .delete _ => .delete
  | .finish => .finish

def FileTag.text (fileTag : FileTag) : String :=
  (String.singleton ':').intercalate [fileTag.file, fileTag.tag]

def Instruction.arguments : Instruction → List String
  | .create fileTag => [fileTag.text]
  | .truncate fileTag size => [fileTag.text, size.toNatClampNeg.repr]
  | .write fileTag base data => [fileTag.text, base.toNat.repr, bytesText data]
  | .read fileTag base size => [fileTag.text, base.toNat.repr, size.toNatClampNeg.repr]
  | .tag source target => [source.text, target.text]
  | .commit fileTag => [fileTag.text]
  | .flush fileTag => [fileTag.text]
  | .delete fileTag => [fileTag.text]
  | .finish => []

def lineOf (tokens : List String) : String :=
  (String.singleton ' ').intercalate tokens

/-- The line of an instruction, with its keyword in some mix of upper and lower case. -/
def Instruction.print (keyword : String) (instruction : Instruction) : String :=
  lineOf (keyword :: instruction.arguments)

/-- A part between two separators; no C string holds the character 0. -/
structure IsToken (separator : Char) (token : String) : Prop where
  nonempty : token ≠ ""
  unseparated : separator ∉ token.toList
  terminated : Char.ofNat 0 ∉ token.toList

def IsName (name : String) : Prop :=
  IsToken ' ' name ∧ IsToken ':' name

def Instruction.HasTokens : Instruction → Prop
  | .truncate _ size => 0 ≤ size.toInt
  | .write _ base data => base.toNat < 2 ^ 31 ∧ data ≠ [] ∧ 32 ∉ data ∧ 0 ∉ data
  | .read _ base size => base.toNat < 2 ^ 31 ∧ 0 ≤ size.toInt
  | _ => True

structure Instruction.Printable (instruction : Instruction) : Prop where
  names : ∀ fileTag ∈ instruction.fileTags, IsName fileTag.file ∧ IsName fileTag.tag
  values : instruction.HasTokens

/-- `string_split` returns the tokens that a string was put together from. -/
def SplitsTokens (split : StringSplit) : Prop :=
  ∀ separator tokens, tokens ≠ [] → (∀ token ∈ tokens, IsToken separator token) →
    split ((String.singleton separator).intercalate tokens) separator = tokens

/-- `string_split` returns parts of the string. -/
def SplitsParts (split : StringSplit) : Prop :=
  ∀ text separator, ∀ part ∈ split text separator, part.toList <:+: text.toList

/-- A required token is missing or a required File:Tag has less than two parts. -/
def Incomplete (split : StringSplit) (arguments : List String) (operation : Operation) : Prop :=
  arguments.length < operation.argumentCount ∨
    ∃ token ∈ arguments.take operation.fileTagCount, (split token ':').length < 2

end Syntax

section Tokens

theorem stringEqualsIgnoreCase_congr {first second : String} (other : String)
    (same : stringEqualsIgnoreCase first second = true) :
    stringEqualsIgnoreCase first other = stringEqualsIgnoreCase second other := by
  unfold stringEqualsIgnoreCase at same ⊢
  rw [of_decide_eq_true same]

theorem getOperationType_of_equals {operation : Operation}
    (same : stringEqualsIgnoreCase word operation.keyword = true) :
    getOperationType word = some operation := by
  unfold getOperationType
  simp only [stringEqualsIgnoreCase_congr _ same]
  cases operation with
  | create => decide
  | truncate => decide
  | write => decide
  | read => decide
  | tag => decide
  | commit => decide
  | flush => decide
  | delete => decide
  | finish => decide

theorem getOperationType_eq_none
    (unknown : ∀ operation : Operation, stringEqualsIgnoreCase token operation.keyword = false) :
    getOperationType token = none := by
  have create := unknown .create
  have truncate := unknown .truncate
  have write := unknown .write
  have read := unknown .read
  have tag := unknown .tag
  have commit := unknown .commit
  have flush := unknown .flush
  have delete := unknown .delete
  have finish := unknown .finish
  dsimp only [Operation.keyword] at *
  simp [getOperationType, *]

theorem isToken_of_keyword {operation : Operation}
    (same : stringEqualsIgnoreCase word operation.keyword = true) : IsToken ' ' word := by
  have letters := of_decide_eq_true same
  have absent : ∀ character : Char, character ∈ word.toList →
      character.toLower ∈ operation.keyword.toList.map Char.toLower := by
    intro character member
    rw [← letters]
    exact List.mem_map_of_mem member
  constructor
  · rintro rfl
    cases operation <;> simp [Operation.keyword] at letters
  · intro space
    have impossible := absent ' ' space
    revert impossible
    cases operation <;> decide
  · intro zero
    have impossible := absent (Char.ofNat 0) zero
    revert impossible
    cases operation <;> decide

theorem isToken_repr (number : Nat) : IsToken ' ' number.repr := by
  constructor
  · exact repr_ne_empty number
  · intro space
    have digit := mem_repr space
    revert digit
    decide
  · intro zero
    have digit := mem_repr zero
    revert digit
    decide

theorem toList_text (fileTag : FileTag) :
    fileTag.text.toList = fileTag.file.toList ++ ':' :: fileTag.tag.toList := by
  simp [FileTag.text]

theorem isToken_text {fileTag : FileTag} (file : IsName fileTag.file) (tag : IsName fileTag.tag) :
    IsToken ' ' fileTag.text := by
  constructor
  · intro empty
    have characters := congrArg String.toList empty
    rw [toList_text] at characters
    simp at characters
  · rw [toList_text]
    simp [file.1.unseparated, tag.1.unseparated]
  · rw [toList_text]
    have other : Char.ofNat 0 ≠ ':' := by decide
    simp [file.1.terminated, tag.1.terminated, other]

theorem isToken_bytesText {data : List UInt8} (nonempty : data ≠ []) (space : 32 ∉ data)
    (zero : 0 ∉ data) : IsToken ' ' (bytesText data) := by
  have absent : ∀ character : Char, character ∈ (bytesText data).toList →
      UInt8.ofNat character.toNat ∈ data := by
    intro character member
    have bytes := List.mem_map_of_mem (f := fun found : Char => UInt8.ofNat found.toNat) member
    rw [← stringBytes_bytesText data]
    exact bytes
  constructor
  · intro empty
    have bytes := congrArg stringBytes empty
    rw [stringBytes_bytesText] at bytes
    exact nonempty bytes
  · exact fun found => space (absent ' ' found)
  · exact fun found => zero (absent (Char.ofNat 0) found)

end Tokens

section Values

theorem atoi_size {size : Int32} (nonneg : 0 ≤ size.toInt) :
    atoi size.toNatClampNeg.repr = size := by
  have bound := size.toInt_lt
  have clamped : size.toNatClampNeg = size.toInt.toNat := rfl
  rw [clamped, atoi_repr (by omega)]
  apply Int32.toInt_inj.mp
  rw [Int32.toInt_ofNat_of_lt (by omega)]
  omega

theorem atoi_base {base : UInt32} (small : base.toNat < 2 ^ 31) :
    (atoi base.toNat.repr).toUInt32 = base := by
  rw [atoi_repr small]
  apply UInt32.toNat_inj.mp
  simp

theorem getFileTag_text (splits : SplitsTokens split) {fileTag : FileTag}
    (file : IsName fileTag.file) (tag : IsName fileTag.tag) :
    getFileTag split fileTag.text = some fileTag := by
  have parts := splits ':' [fileTag.file, fileTag.tag] (by simp) (by simp [file.2, tag.2])
  rw [getFileTag, FileTag.text, parts]

theorem getFileTag_eq_none (short : (split token ':').length < 2) :
    getFileTag split token = none := by
  unfold getFileTag
  split
  · rename_i parts
    rw [parts, List.length_cons, List.length_cons] at short
    omega
  · rfl

end Values

section Results

theorem decodeInstruction_lineOf (splits : SplitsTokens split)
    (tokens : ∀ token ∈ word :: rest, IsToken ' ' token) :
    decodeInstruction split (lineOf (word :: rest)) =
      (getOperationType word).bind (decodeArguments split rest) := by
  rw [decodeInstruction, lineOf, splits ' ' _ (by simp) tokens]

/-- Each branch of the `switch` gives back the instruction whose tokens it is given. -/
theorem decodeArguments_arguments (splits : SplitsTokens split) {instruction : Instruction}
    (printable : instruction.Printable) :
    decodeArguments split instruction.arguments instruction.operation = some instruction := by
  obtain ⟨names, values⟩ := printable
  have fileTags : ∀ fileTag ∈ instruction.fileTags,
      getFileTag split fileTag.text = some fileTag := by
    intro fileTag member
    exact getFileTag_text splits (names fileTag member).1 (names fileTag member).2
  cases instruction with
  | create fileTag =>
      simp [decodeArguments, Instruction.operation, Instruction.arguments, decodeFileTag,
        fileTags fileTag (by simp [Instruction.fileTags])]
  | truncate fileTag size =>
      simp [decodeArguments, Instruction.operation, Instruction.arguments, decodeTruncate,
        fileTags fileTag (by simp [Instruction.fileTags]), atoi_size values]
  | write fileTag base data =>
      simp [decodeArguments, Instruction.operation, Instruction.arguments, decodeWrite,
        fileTags fileTag (by simp [Instruction.fileTags]), atoi_base values.1,
        stringBytes_bytesText]
  | read fileTag base size =>
      simp [decodeArguments, Instruction.operation, Instruction.arguments, decodeRead,
        fileTags fileTag (by simp [Instruction.fileTags]), atoi_base values.1,
        atoi_size values.2]
  | tag source target =>
      simp [decodeArguments, Instruction.operation, Instruction.arguments, decodeTag,
        fileTags source (by simp [Instruction.fileTags]),
        fileTags target (by simp [Instruction.fileTags])]
  | commit fileTag =>
      simp [decodeArguments, Instruction.operation, Instruction.arguments, decodeFileTag,
        fileTags fileTag (by simp [Instruction.fileTags])]
  | flush fileTag =>
      simp [decodeArguments, Instruction.operation, Instruction.arguments, decodeFileTag,
        fileTags fileTag (by simp [Instruction.fileTags])]
  | delete fileTag =>
      simp [decodeArguments, Instruction.operation, Instruction.arguments, decodeFileTag,
        fileTags fileTag (by simp [Instruction.fileTags])]
  | finish => rfl

theorem isToken_of_mem_arguments {instruction : Instruction} (printable : instruction.Printable) :
    ∀ token ∈ instruction.arguments, IsToken ' ' token := by
  obtain ⟨names, values⟩ := printable
  have fileTags : ∀ fileTag ∈ instruction.fileTags, IsToken ' ' fileTag.text := by
    intro fileTag member
    exact isToken_text (names fileTag member).1 (names fileTag member).2
  cases instruction with
  | create fileTag => simpa [Instruction.arguments, Instruction.fileTags] using fileTags
  | truncate fileTag size =>
      simpa [Instruction.arguments, Instruction.fileTags, isToken_repr] using fileTags
  | write fileTag base data =>
      have bytes := isToken_bytesText values.2.1 values.2.2.1 values.2.2.2
      simpa [Instruction.arguments, Instruction.fileTags, isToken_repr, bytes] using fileTags
  | read fileTag base size =>
      simpa [Instruction.arguments, Instruction.fileTags, isToken_repr] using fileTags
  | tag source target => simpa [Instruction.arguments, Instruction.fileTags] using fileTags
  | commit fileTag => simpa [Instruction.arguments, Instruction.fileTags] using fileTags
  | flush fileTag => simpa [Instruction.arguments, Instruction.fileTags] using fileTags
  | delete fileTag => simpa [Instruction.arguments, Instruction.fileTags] using fileTags
  | finish => simp [Instruction.arguments]

theorem getFileTag_of_decodeArguments {arguments : List String} {operation : Operation}
    {instruction : Instruction}
    (decodes : decodeArguments split arguments operation = some instruction) :
    ∀ fileTag ∈ instruction.fileTags, ∃ token ∈ arguments,
      getFileTag split token = some fileTag := by
  have single : ∀ {make : FileTag → Instruction}, (∀ fileTag, (make fileTag).fileTags = [fileTag]) →
      ∀ {token}, token ∈ arguments → (getFileTag split token).map make = some instruction →
        ∀ fileTag ∈ instruction.fileTags, ∃ token ∈ arguments,
          getFileTag split token = some fileTag := by
    intro make names token member decodes fileTag named
    obtain ⟨found, gets, rfl⟩ := Option.map_eq_some_iff.mp decodes
    rw [names, List.mem_singleton] at named
    exact ⟨token, member, named ▸ gets⟩
  cases operation with
  | create | commit | flush | delete =>
      cases arguments with
      | nil => cases decodes
      | cons token rest => exact single (fun _ => rfl) (List.mem_cons_self ..) decodes
  | truncate =>
      match arguments, decodes with
      | token :: size :: rest, decodes =>
          exact single (fun _ => rfl) (List.mem_cons_self ..) decodes
  | write =>
      match arguments, decodes with
      | token :: base :: data :: rest, decodes =>
          exact single (fun _ => rfl) (List.mem_cons_self ..) decodes
  | read =>
      match arguments, decodes with
      | token :: base :: size :: rest, decodes =>
          exact single (fun _ => rfl) (List.mem_cons_self ..) decodes
  | tag =>
      match arguments, decodes with
      | first :: second :: rest, decodes =>
          obtain ⟨source, getsSource, decodes⟩ := Option.bind_eq_some_iff.mp decodes
          obtain ⟨target, getsTarget, rfl⟩ := Option.map_eq_some_iff.mp decodes
          intro fileTag named
          simp only [Instruction.fileTags, List.mem_cons, List.not_mem_nil, or_false] at named
          rcases named with rfl | rfl
          · exact ⟨first, by simp, getsSource⟩
          · exact ⟨second, by simp, getsTarget⟩
  | finish =>
      cases decodes
      intro fileTag named
      cases named

theorem SplitsParts.names_infix (parts : SplitsParts split) {rawInstruction : String}
    {instruction : Instruction}
    (decodes : decodeInstruction split rawInstruction = some instruction) :
    ∀ fileTag ∈ instruction.fileTags, fileTag.file.toList <:+: rawInstruction.toList ∧
      fileTag.tag.toList <:+: rawInstruction.toList := by
  rw [decodeInstruction] at decodes
  split at decodes
  · cases decodes
  · rename_i first arguments tokens
    obtain ⟨operation, -, decodes⟩ := Option.bind_eq_some_iff.mp decodes
    intro fileTag named
    obtain ⟨token, member, gets⟩ := getFileTag_of_decodeArguments decodes fileTag named
    have inLine : token.toList <:+: rawInstruction.toList := by
      apply parts rawInstruction ' '
      rw [tokens]
      exact List.mem_cons_of_mem first member
    rw [getFileTag] at gets
    split at gets
    · rename_i file tag rest names
      obtain rfl : FileTag.mk file tag = fileTag := Option.some.inj gets
      exact ⟨(parts token ':' file (by simp [names])).trans inLine,
        (parts token ':' tag (by simp [names])).trans inLine⟩
    · cases gets

/-- Each branch refuses tokens that are too few for it. -/
theorem decodeArguments_of_missing {arguments : List String} {operation : Operation}
    (missing : arguments.length < operation.argumentCount) :
    decodeArguments split arguments operation = none := by
  match arguments with
  | [] => cases operation <;> first | rfl | exact absurd missing (Nat.not_lt_zero _)
  | [first] => cases operation <;> first | rfl | (simp [Operation.argumentCount] at missing)
  | [first, second] =>
      cases operation <;> first | rfl | (simp [Operation.argumentCount] at missing)
  | first :: second :: third :: others =>
      cases operation <;>
        · simp only [Operation.argumentCount, List.length_cons] at missing
          omega

/-- The branches with one File:Tag stop when it has no two parts. -/
theorem decodeArguments_of_refused {operation : Operation} (refused : getFileTag split token = none)
    (one : operation.fileTagCount = 1) :
    decodeArguments split (token :: rest) operation = none := by
  cases operation with
  | create => simp [decodeArguments, decodeFileTag, refused]
  | commit => simp [decodeArguments, decodeFileTag, refused]
  | flush => simp [decodeArguments, decodeFileTag, refused]
  | delete => simp [decodeArguments, decodeFileTag, refused]
  | truncate =>
      cases rest with
      | nil => rfl
      | cons size rest => simp [decodeArguments, decodeTruncate, refused]
  | write =>
      match rest with
      | [] => rfl
      | [_] => rfl
      | base :: data :: rest => simp [decodeArguments, decodeWrite, refused]
  | read =>
      match rest with
      | [] => rfl
      | [_] => rfl
      | base :: size :: rest => simp [decodeArguments, decodeRead, refused]
  | tag => cases one
  | finish => cases one

/-- Each branch refuses a File:Tag without two parts. -/
theorem decodeArguments_of_short {arguments : List String} {operation : Operation}
    (member : token ∈ arguments.take operation.fileTagCount)
    (short : (split token ':').length < 2) :
    decodeArguments split arguments operation = none := by
  have refused := getFileTag_eq_none short
  cases arguments with
  | nil => simp at member
  | cons first others =>
      by_cases one : operation.fileTagCount = 1
      · rw [one] at member
        obtain rfl : token = first := by simpa using member
        exact decodeArguments_of_refused refused one
      · cases operation with
        | finish => simp [Operation.fileTagCount] at member
        | tag =>
            cases others with
            | nil => rfl
            | cons second others =>
                have either : token = first ∨ token = second := by
                  simpa [Operation.fileTagCount] using member
                rcases either with rfl | rfl
                · simp [decodeArguments, decodeTag, refused]
                · simp [decodeArguments, decodeTag, refused]
        | _ => exact absurd rfl one

/-- `decode_instruction` gives back every instruction that the syntax can express, and refuses a
line with an unknown keyword, a missing token or a File:Tag of less than two parts. -/
theorem decodeInstruction_inverts {split : StringSplit} (splits : SplitsTokens split) :
    (∀ (instruction : Instruction) (keyword : String), instruction.Printable →
      stringEqualsIgnoreCase keyword instruction.operation.keyword = true →
        decodeInstruction split (instruction.print keyword) = some instruction) ∧
      ∀ (first : String) (arguments : List String),
        (∀ token ∈ first :: arguments, IsToken ' ' token) →
          ((∀ operation : Operation, stringEqualsIgnoreCase first operation.keyword = false) →
            decodeInstruction split (lineOf (first :: arguments)) = none) ∧
          ∀ operation : Operation, stringEqualsIgnoreCase first operation.keyword = true →
            Incomplete split arguments operation →
              decodeInstruction split (lineOf (first :: arguments)) = none := by
  constructor
  · intro instruction keyword printable same
    have tokens : ∀ token ∈ keyword :: instruction.arguments, IsToken ' ' token := by
      rw [List.forall_mem_cons]
      exact ⟨isToken_of_keyword same, isToken_of_mem_arguments printable⟩
    rw [Instruction.print, decodeInstruction_lineOf splits tokens,
      getOperationType_of_equals same]
    exact decodeArguments_arguments splits printable
  · intro first arguments tokens
    rw [decodeInstruction_lineOf splits tokens]
    constructor
    · intro unknown
      rw [getOperationType_eq_none unknown]
      rfl
    · intro operation same incomplete
      rw [getOperationType_of_equals same]
      rcases incomplete with missing | ⟨token, member, short⟩
      · exact decodeArguments_of_missing missing
      · exact decodeArguments_of_short member short

/-- A `string_split` that keeps empty parts. -/
def splitAtEach : StringSplit := fun text separator =>
  (text.toList.splitOn separator).map String.ofList

theorem splitsTokens_splitAtEach : SplitsTokens splitAtEach := by
  intro separator tokens nonempty each
  rw [splitAtEach, String.toList_intercalate, String.toList_singleton,
    List.splitOn_intercalate, List.map_map]
  · exact List.map_id'' (fun token => String.ofList_toList) tokens
  · intro characters member
    obtain ⟨token, found, rfl⟩ := List.mem_map.mp member
    exact (each token found).unseparated
  · simpa using nonempty

theorem infix_of_mem_intercalate {separator part : List Char} {parts : List (List Char)}
    (member : part ∈ parts) : part <:+: separator.intercalate parts := by
  induction parts with
  | nil => cases member
  | cons first parts ih =>
      by_cases last : parts = []
      · subst last
        obtain rfl := List.mem_singleton.mp member
        exact ⟨[], [], by simp⟩
      · rw [List.intercalate_cons_of_ne_nil last]
        rcases List.mem_cons.mp member with rfl | later
        · rw [List.append_assoc]
          exact (List.prefix_append part _).isInfix
        · exact (ih later).trans (List.suffix_append _ _).isInfix

theorem splitsParts_splitAtEach : SplitsParts splitAtEach := by
  intro text separator part member
  obtain ⟨characters, found, rfl⟩ := List.mem_map.mp member
  rw [String.toList_ofList]
  have whole : characters <:+: [separator].intercalate (text.toList.splitOn separator) :=
    infix_of_mem_intercalate found
  rwa [List.intercalate_splitOn] at whole

/-- A WRITE in mixed case, and a TRUNCATE without its size. -/
theorem decodeInstruction_inverts_write :
    decodeInstruction splitAtEach
        ((Instruction.write ⟨"MATERIAS", "BASE"⟩ 16 [72, 111, 108, 97]).print "wRite") =
      some (.write ⟨"MATERIAS", "BASE"⟩ 16 [72, 111, 108, 97]) ∧
    decodeInstruction splitAtEach (lineOf ["TRUNCATE", "MATERIAS:BASE"]) = none := by
  have inverts := decodeInstruction_inverts splitsTokens_splitAtEach
  constructor
  · apply inverts.1 (.write ⟨"MATERIAS", "BASE"⟩ 16 [72, 111, 108, 97]) "wRite"
    · refine ⟨?_, by decide, by decide, by decide, by decide⟩
      intro fileTag member
      obtain rfl : fileTag = ⟨"MATERIAS", "BASE"⟩ := by
        simpa [Instruction.fileTags] using member
      exact ⟨⟨⟨by decide, by decide, by decide⟩, by decide, by decide, by decide⟩,
        ⟨by decide, by decide, by decide⟩, by decide, by decide, by decide⟩
    · decide
  · apply (inverts.2 "TRUNCATE" ["MATERIAS:BASE"] ?_).2 .truncate (by decide)
    · exact Or.inl (by decide)
    · intro token member
      rw [List.mem_cons, List.mem_singleton] at member
      rcases member with rfl | rfl
      · exact ⟨by decide, by decide, by decide⟩
      · exact ⟨by decide, by decide, by decide⟩

end Results

end Worker

end MasterOfFiles
