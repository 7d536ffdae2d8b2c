import MasterOfFiles.LinkTable
import Mathlib.Data.Vector.Basic

/-!
# The disk of the Storage module

The mount point holds one directory per File:Tag with its `metadata.config`
and its `logical_blocks`, the physical block files, `bitmap.bin` and
`blocks_hash_index.config`.  Physical block files are created once and never
renamed or removed, so the number of a physical block serves as its inode and
a logical block is a hard link to such a number.  A file and a tag are one path
component each; requests with other names, such as an empty one, `..` or one
with a slash, are not modelled.

Every host call that the code checks is listed in `HostCall`; a `Host` says
which of them fail, so one model covers both the faultless host and any
pattern of failures.
-/

namespace MasterOfFiles

namespace Storage

/-- Characters that path concatenation or the double-quoted shell commands
would interpret: NUL, double quote, dollar, slash, backslash, backquote. -/
def reservedCharacterCodes : List Nat := [0, 34, 36, 47, 92, 96]

/-- A file or tag name: one path component of the mount point. -/
structure PathName where
  text : String
  plain : text ≠ "" ∧ text ≠ "." ∧ text ≠ ".." ∧
    text.toList.all (fun c => !reservedCharacterCodes.contains c.toNat) = true
deriving DecidableEq

/-- A File:Tag, which names the directory `files/<file>/<tag>`. -/
structure FileTag where
  file : PathName
  tag : PathName
deriving DecidableEq

abbrev Block (size : Nat) : Type := Vector UInt8 size

def zeroBlock (size : Nat) : Block size := Vector.replicate size 0

/-- A zeroed buffer with the first `min data.length size` bytes of `data`
copied over it. -/
def paddedBlock (size : Nat) (data : List UInt8) : Block size :=
  Vector.ofFn fun position => data.getD position.val 0

/-- The superblock, restricted to the values with which `init_storage` can
create the first physical block. -/
structure StorageConfig where
  fsSize : Nat
  blockSize : Nat
  blockSize_pos : 0 < blockSize
  blockSize_le : blockSize ≤ fsSize
  fsSize_lt : fsSize < 2 ^ 31

namespace StorageConfig

/-- The number of physical block files. -/
def totalBlocks (config : StorageConfig) : Nat := config.fsSize / config.blockSize

/-- The size of `bitmap.bin`, rounded up to whole bytes. -/
def bitmapSizeBytes (config : StorageConfig) : Nat := (config.totalBlocks + 7) / 8

theorem totalBlocks_pos (config : StorageConfig) : 0 < config.totalBlocks :=
  Nat.div_pos config.blockSize_le config.blockSize_pos

end StorageConfig

inductive FileState
  | workInProgress
  | committed
deriving DecidableEq

structure FileMetadata where
  size : Int
  blocks : List Nat
  state : FileState
deriving DecidableEq

/-- The error code `FILE_TAG_MISSING`, which is `INT8_MIN`. -/
def fileTagMissing : Int := -128

def fileTagAlreadyExists : Int := -127

def notEnoughSpace : Int := -126

def fileAlreadyCommitted : Int := -125

def readOutOfBounds : Int := -124

/-- The host calls of one request whose result the code checks.  Calls made
once per logical block carry its index. -/
inductive HostCall
  | statDirectory (fileTag : FileTag)
  | makeDirectory (fileTag : FileTag)
  | makeLogicalBlocks (fileTag : FileTag)
  | removeDirectory (fileTag : FileTag)
  | copyLinks
  | openMetadata (fileTag : FileTag)
  | readMetadata (fileTag : FileTag)
  | saveMetadata (fileTag : FileTag)
  | allocateBlocks
  | allocateState
  | readHashIndex
  | saveHashIndex
  | statLogical (index : Nat)
  | statPhysical (index : Nat)
  | removeLogical (index : Nat)
  | linkLogical (index : Nat)
  | loadBitmap (index : Nat)
  | storeBitmap (index : Nat)
  | readLogical (index : Nat)
  | writeLogical (index : Nat)
  | hashLogical (index : Nat)
deriving DecidableEq

/-- Which host calls of a request fail although their arguments are good. -/
abbrev Host : Type := HostCall → Bool

/-- The host on which every call with good arguments succeeds. -/
def reliable : Host := fun _ => false

@[simp]
theorem reliable_apply (call : HostCall) : reliable call = false :=
  rfl

/-- Everything below the mount point. -/
structure Disk (config : StorageConfig) (Hash : Type) where
  fileDirs : PathName → Bool
  tagDirs : FileTag → Bool
  metadata : FileTag → Option FileMetadata
  links : LinkTable FileTag Nat Nat
  content : Nat → Block config.blockSize
  bitmap : Nat → Bool
  hashIndex : Hash → Option Nat

namespace Disk

variable {config : StorageConfig} {Hash : Type}

/-- `st_nlink` of a physical block: its own name and its logical blocks. -/
def stNlink (disk : Disk config Hash) (physical : Nat) : Nat :=
  1 + disk.links.linkCount physical

def fileDirExists (host : Host) (disk : Disk config Hash) (fileTag : FileTag) : Bool :=
  !host (.statDirectory fileTag) && disk.tagDirs fileTag

/-- `read_file_metadata`; `none` is the null pointer. -/
def readFileMetadata (host : Host) (disk : Disk config Hash) (fileTag : FileTag) :
    Option FileMetadata :=
  if host (.readMetadata fileTag) then none else disk.metadata fileTag

def setMetadata (disk : Disk config Hash) (fileTag : FileTag)
    (metadata : FileMetadata) : Disk config Hash :=
  { disk with metadata := Function.update disk.metadata fileTag (some metadata) }

/-- `save_file_metadata`: the result of `config_save` is ignored, so it always
reports success. -/
def saveFileMetadata (host : Host) (disk : Disk config Hash) (fileTag : FileTag)
    (metadata : FileMetadata) : Disk config Hash :=
  if host (.saveMetadata fileTag) then disk else disk.setMetadata fileTag metadata

/-- `mkdir -p` of the `logical_blocks` directory of a File:Tag. -/
def makeDirectories (disk : Disk config Hash) (fileTag : FileTag) : Disk config Hash :=
  { disk with
    fileDirs := Function.update disk.fileDirs fileTag.file true
    tagDirs := Function.update disk.tagDirs fileTag true }

def createFileDirStructure (host : Host) (disk : Disk config Hash) (fileTag : FileTag) :
    Int × Disk config Hash :=
  if disk.fileDirExists host fileTag then (fileTagAlreadyExists, disk)
  else if host (.makeDirectory fileTag) then (-1, disk)
  else (0, disk.makeDirectories fileTag)

/-- `rm -rf` of the directory of a File:Tag; the directory of its file stays. -/
def removeDirectories (disk : Disk config Hash) (fileTag : FileTag) : Disk config Hash :=
  { disk with
    tagDirs := Function.update disk.tagDirs fileTag false
    metadata := Function.update disk.metadata fileTag none
    links := disk.links.removeDirectory fileTag }

def deleteFileDirStructure (host : Host) (disk : Disk config Hash) (fileTag : FileTag) :
    Int × Disk config Hash :=
  if !disk.fileDirExists host fileTag then (fileTagMissing, disk)
  else if host (.removeDirectory fileTag) then (-1, disk)
  else (0, disk.removeDirectories fileTag)

def createMetadataFile (host : Host) (disk : Disk config Hash) (fileTag : FileTag)
    (initialContent : FileMetadata) : Int × Disk config Hash :=
  if host (.openMetadata fileTag) then (-1, disk)
  else (0, disk.setMetadata fileTag initialContent)

/-- `remove` of a logical block file; `none` is a failed call. -/
def removeLogicalBlock (host : Host) (disk : Disk config Hash) (fileTag : FileTag)
    (index : Nat) : Option (Disk config Hash) :=
  if host (.removeLogical index) ∨ disk.links.inode fileTag index = none then none
  else some { disk with links := disk.links.unlink fileTag index }

/-- `link` of a physical block file to a logical block name; it fails when the
physical block does not exist or the name is taken. -/
def linkLogicalBlock (host : Host) (disk : Disk config Hash) (fileTag : FileTag)
    (index physical : Nat) : Option (Disk config Hash) :=
  if host (.linkLogical index) ∨ config.totalBlocks ≤ physical ∨
      disk.links.inode fileTag index ≠ none then none
  else some { disk with links := disk.links.link fileTag index physical }

/-- `stat` of a physical block file, for its link count. -/
def statPhysicalBlock (host : Host) (disk : Disk config Hash) (index physical : Nat) :
    Option Nat :=
  if host (.statPhysical index) ∨ config.totalBlocks ≤ physical then none
  else some (disk.stNlink physical)

/-- `ph_block_links` on the path of a logical block: the link count of the
physical block behind it. -/
def phBlockLinks (host : Host) (disk : Disk config Hash) (fileTag : FileTag)
    (index : Nat) : Option Nat :=
  if host (.statLogical index) then none
  else (disk.links.inode fileTag index).map disk.stNlink

def setBit (disk : Disk config Hash) (physical : Nat) (value : Bool) : Disk config Hash :=
  { disk with bitmap := Function.update disk.bitmap physical value }

/-- `modify_bitmap_bits` with `count = 1`, as its only caller uses it. -/
def modifyBitmapBit (host : Host) (disk : Disk config Hash) (index physical : Nat)
    (value : Bool) : Int × Disk config Hash :=
  if host (.loadBitmap index) then (-1, disk)
  else if host (.storeBitmap index) then (-3, disk)
  else (0, disk.setBit physical value)

/-- `get_free_bit_index`: the first clear bit of the bitmap buffer. -/
def getFreeBitIndex (disk : Disk config Hash) : Option Nat :=
  (List.range (8 * config.bitmapSizeBytes)).find? (fun bit => !disk.bitmap bit)

def deleteLogicalBlock (host : Host) (disk : Disk config Hash) (fileTag : FileTag)
    (index physical : Nat) : Int × Disk config Hash :=
  match disk.removeLogicalBlock host fileTag index with
  | none => (-1, disk)
  | some removed =>
    match removed.statPhysicalBlock host index physical with
    | none => (-2, removed)
    | some links =>
      if links ≠ 1 then (0, removed)
      else
        match removed.modifyBitmapBit host index physical false with
        | (0, freed) => (0, freed)
        | (_, kept) => (-3, kept)

/-- The bytes behind a logical block name. -/
def logicalContent (disk : Disk config Hash) (fileTag : FileTag) (index : Nat) :
    Option (Block config.blockSize) :=
  (disk.links.inode fileTag index).map disk.content

end Disk

end Storage

end MasterOfFiles
