import MasterOfFiles.StorageRequests

/-!
# Two concurrent writes to one File:Tag

Two client threads are inside `execute_block_write` for different logical blocks of one
File:Tag, whose lock is commented out.  They share the disk and take turns between any two
file-system steps; the reservation under the bitmap mutex is one step.  Each thread keeps the
`t_file_metadata` that it read.  A host call may fail at any step, except for the
`config_save` behind `save_file_metadata`, whose failures the code does not notice.
-/

namespace MasterOfFiles

namespace Storage

inductive Writer
  | first
  | second
deriving DecidableEq

def Writer.other : Writer → Writer
  | .first => .second
  | .second => .first

/-- Where a thread stands in `execute_block_write`; `metadata` is as it was read. -/
inductive WritePhase
  | entered
  | directoryFound
  | metadataRead (metadata : FileMetadata)
  | shared (metadata : FileMetadata)
  | unlinked (metadata : FileMetadata)
  | reserved (metadata : FileMetadata) (physical : Nat)
  | linked (metadata : FileMetadata) (physical : Nat)
  | writing
  | returned (code : Int)
deriving DecidableEq

namespace WritePhase

/-- The metadata that the thread read and may still save. -/
def copy : WritePhase → Option FileMetadata
  | metadataRead metadata | shared metadata | unlinked metadata | reserved metadata _
  | linked metadata _ => some metadata
  | entered | directoryFound | writing | returned _ => none

/-- The thread will not touch links or metadata any more. -/
def settled : WritePhase → Bool
  | writing | returned _ => true
  | _ => false

end WritePhase

structure WritePair (config : StorageConfig) (Hash : Type) where
  disk : Disk config Hash
  phase : Writer → WritePhase

/-- The two calls: the File:Tag, and for each thread the logical block and the data. -/
structure WriteCalls where
  fileTag : FileTag
  blockNumber : Writer → UInt32
  blockData : Writer → List UInt8

/-- A step: whose turn it is and which host calls fail. -/
structure WriteTurn where
  writer : Writer
  host : Host

namespace WritePair

variable {config : StorageConfig} {Hash : Type} (calls : WriteCalls)

def move (pair : WritePair config Hash) (writer : Writer) (disk : Disk config Hash)
    (phase : WritePhase) : WritePair config Hash where
  disk := disk
  phase := Function.update pair.phase writer phase

def checkMetadata (metadata : FileMetadata) (blockNumber : UInt32) : WritePhase :=
  if metadata.state = .committed then .returned fileAlreadyCommitted
  else if (metadata.blocks.length : Int) ≤ blockNumberAsInt blockNumber then
    .returned readOutOfBounds
  else .metadataRead metadata

/-- The reservation of a physical block under the bitmap mutex. -/
def reserve (host : Host) (disk : Disk config Hash) (index : Nat) (metadata : FileMetadata) :
    Disk config Hash × WritePhase :=
  if host (.loadBitmap index) then (disk, .returned (-3))
  else
    match disk.getFreeBitIndex with
    | none => (disk, .returned notEnoughSpace)
    | some physical =>
      if host (.storeBitmap index) then (disk, .returned (-4))
      else (disk.setBit physical true, .reserved metadata physical)

/-- The next file-system step of a thread in `execute_block_write`. -/
def next (pair : WritePair config Hash) (turn : WriteTurn) : Option (WritePair config Hash) :=
  let host := turn.host
  let disk := pair.disk
  let blockNumber := calls.blockNumber turn.writer
  match pair.phase turn.writer with
  | .entered =>
    some (pair.move turn.writer disk
      (if disk.fileDirExists host calls.fileTag then .directoryFound
      else .returned fileTagMissing))
  | .directoryFound =>
    some (pair.move turn.writer disk
      (match disk.readFileMetadata host calls.fileTag with
      | none => .returned fileTagMissing
      | some metadata => checkMetadata metadata blockNumber))
  | .metadataRead metadata =>
    some (pair.move turn.writer disk
      (match disk.phBlockLinks host calls.fileTag blockNumber.toNat with
      | none => .returned (-1)
      | some numHardlinks => if 2 < numHardlinks then .shared metadata else .writing))
  | .shared metadata =>
    some (match disk.removeLogicalBlock host calls.fileTag blockNumber.toNat with
      | none => pair.move turn.writer disk (.returned (-2))
      | some removed => pair.move turn.writer removed (.unlinked metadata))
  | .unlinked metadata =>
    match reserve host disk blockNumber.toNat metadata with
    | (after, phase) => some (pair.move turn.writer after phase)
  | .reserved metadata physical =>
    some (match disk.createNewHardlink host calls.fileTag blockNumber.toNat physical with
      | none => pair.move turn.writer disk (.returned (-5))
      | some linked => pair.move turn.writer linked (.linked metadata physical))
  | .linked metadata physical =>
    some (pair.move turn.writer
      (disk.setMetadata calls.fileTag
        { metadata with blocks := metadata.blocks.set blockNumber.toNat physical }) .writing)
  | .writing =>
    some (match disk.writeToLogicalBlock host calls.fileTag blockNumber.toNat
        (calls.blockData turn.writer) with
      | none => pair.move turn.writer disk (.returned (-7))
      | some written => pair.move turn.writer written (.returned 0))
  | .returned _ => none

/-- The entry of `BLOCKS` for a logical block names the physical block that it is linked
to. -/
def EntryTrue (disk : Disk config Hash) (fileTag : FileTag) (index : Nat) : Prop :=
  ∃ metadata physical, disk.metadata fileTag = some metadata ∧
    disk.links.inode fileTag index = some physical ∧
      metadata.blocks[index]? = some physical

/-- Both calls are about to start on different valid logical blocks of a File:Tag whose
logical blocks are linked as its `BLOCKS` say. -/
structure Starts (pair : WritePair config Hash) : Prop where
  entered : ∀ writer, pair.phase writer = .entered
  linked : ∃ metadata, pair.disk.metadata calls.fileTag = some metadata ∧
    (∀ index, index < metadata.blocks.length →
      EntryTrue pair.disk calls.fileTag index) ∧
    ∀ writer, (calls.blockNumber writer).toNat < metadata.blocks.length
  different : calls.blockNumber .first ≠ calls.blockNumber .second

/-- A thread that saves its metadata finds on disk what it read. -/
def SavesUnchanged (pair : WritePair config Hash) (turn : WriteTurn) : Prop :=
  ∀ metadata physical, pair.phase turn.writer = .linked metadata physical →
    pair.disk.metadata calls.fileTag = some metadata

variable {calls : WriteCalls}

@[simp]
theorem phase_move_self (pair : WritePair config Hash) (writer : Writer)
    (disk : Disk config Hash) (phase : WritePhase) :
    (pair.move writer disk phase).phase writer = phase :=
  Function.update_self ..

@[simp]
theorem phase_move_other (pair : WritePair config Hash) (writer : Writer)
    (disk : Disk config Hash) (phase : WritePhase) :
    (pair.move writer disk phase).phase writer.other = pair.phase writer.other := by
  cases writer <;> rfl

@[simp]
theorem disk_move (pair : WritePair config Hash) (writer : Writer)
    (disk : Disk config Hash) (phase : WritePhase) :
    (pair.move writer disk phase).disk = disk :=
  rfl

@[simp]
theorem move_move (pair : WritePair config Hash) (writer : Writer)
    (disk later : Disk config Hash) (phase laterPhase : WritePhase) :
    (pair.move writer disk phase).move writer later laterPhase =
      pair.move writer later laterPhase := by
  simp [move]

@[simp]
theorem other_other (writer : Writer) : writer.other.other = writer := by
  cases writer <;> rfl

theorem eq_or_eq_other (writer thread : Writer) : thread = writer ∨ thread = writer.other := by
  cases writer <;> cases thread <;> simp [Writer.other]

section Alone

variable (calls) (host : Host) (writer : Writer)

/-- A thread that has all the turns, on one host, returns this code and leaves this disk. -/
def Finishes (pair : WritePair config Hash) (result : Int × Disk config Hash) : Prop :=
  ∃ count last, TransitionSystem.runNext (next calls) pair
      (List.replicate count ⟨writer, host⟩) = some last ∧
    last.phase writer = .returned result.1 ∧ last.disk = result.2

/-- The end of `execute_block_write`: after a success the block is written, in whatever
physical block it is. -/
def thenWrite : Int × Disk config Hash → Int × Disk config Hash
  | (0, own) =>
    match own.writeToLogicalBlock host calls.fileTag (calls.blockNumber writer).toNat
        (calls.blockData writer) with
    | none => (-7, own)
    | some written => (0, written)
  | failed => failed

theorem finishes_returned (pair : WritePair config Hash) (disk : Disk config Hash) (code : Int) :
    Finishes calls host writer (pair.move writer disk (.returned code)) (code, disk) :=
  ⟨0, _, rfl, phase_move_self .., rfl⟩

variable {calls host writer}

theorem Finishes.step {pair middle : WritePair config Hash} {result : Int × Disk config Hash}
    (rest : Finishes calls host writer middle result)
    (step : pair.next calls ⟨writer, host⟩ = some middle) :
    Finishes calls host writer pair result := by
  obtain ⟨count, last, ends, returned⟩ := rest
  refine ⟨count + 1, last, ?_, returned⟩
  rw [List.replicate_succ, TransitionSystem.runNext, step]
  exact ends

variable (calls host writer)

theorem finishes_writing (pair : WritePair config Hash) (disk : Disk config Hash) :
    Finishes calls host writer (pair.move writer disk .writing)
      (thenWrite calls host writer (0, disk)) := by
  cases writes : disk.writeToLogicalBlock host calls.fileTag (calls.blockNumber writer).toNat
      (calls.blockData writer) with
  | none =>
      simp only [thenWrite, writes]
      apply (finishes_returned calls host writer pair disk (-7)).step
      simp only [next, phase_move_self, disk_move, move_move, writes]
  | some written =>
      simp only [thenWrite, writes]
      apply (finishes_returned calls host writer pair written 0).step
      simp only [next, phase_move_self, disk_move, move_move, writes]

theorem finishes_linked (pair : WritePair config Hash) (disk : Disk config Hash)
    (metadata : FileMetadata) (physical : Nat) :
    Finishes calls host writer (pair.move writer disk (.linked metadata physical))
      (thenWrite calls host writer
        (0, disk.setMetadata calls.fileTag
          { metadata with
            blocks := metadata.blocks.set (calls.blockNumber writer).toNat physical })) := by
  apply (finishes_writing calls host writer pair _).step
  simp only [next, phase_move_self, disk_move, move_move]

theorem finishes_reserved (pair : WritePair config Hash) (disk : Disk config Hash)
    (metadata : FileMetadata) (physical : Nat) :
    Finishes calls host writer (pair.move writer disk (.reserved metadata physical))
      (thenWrite calls host writer
        (match disk.createNewHardlink host calls.fileTag (calls.blockNumber writer).toNat
            physical with
        | none => (-5, disk)
        | some linked => (0, linked.setMetadata calls.fileTag
            { metadata with
              blocks := metadata.blocks.set (calls.blockNumber writer).toNat physical }))) := by
  cases links : disk.createNewHardlink host calls.fileTag (calls.blockNumber writer).toNat
      physical with
  | none =>
      apply (finishes_returned calls host writer pair disk (-5)).step
      simp only [next, phase_move_self, disk_move, move_move, links]
  | some linked =>
      apply (finishes_linked calls host writer pair linked metadata physical).step
      simp only [next, phase_move_self, disk_move, move_move, links]

theorem finishes_unlinked (pair : WritePair config Hash) (disk : Disk config Hash)
    (metadata : FileMetadata) (saves : host (.saveMetadata calls.fileTag) = false) :
    Finishes calls host writer (pair.move writer disk (.unlinked metadata))
      (thenWrite calls host writer
        (if host (.loadBitmap (calls.blockNumber writer).toNat) then (-3, disk)
        else
          match disk.getFreeBitIndex with
          | none => (notEnoughSpace, disk)
          | some physical =>
            if host (.storeBitmap (calls.blockNumber writer).toNat) then (-4, disk)
            else
              match (disk.setBit physical true).createNewHardlink host calls.fileTag
                  (calls.blockNumber writer).toNat physical with
              | none => (-5, disk.setBit physical true)
              | some linked =>
                (0, linked.saveFileMetadata host calls.fileTag
                  { metadata with
                    blocks := metadata.blocks.set (calls.blockNumber writer).toNat
                      physical }))) := by
  by_cases load : host (.loadBitmap (calls.blockNumber writer).toNat) = true
  · rw [if_pos load]
    apply (finishes_returned calls host writer pair disk (-3)).step
    simp only [next, phase_move_self, disk_move, move_move, reserve, if_pos load]
  · rw [if_neg load]
    cases found : disk.getFreeBitIndex with
    | none =>
        apply (finishes_returned calls host writer pair disk notEnoughSpace).step
        simp only [next, phase_move_self, disk_move, move_move, reserve, if_neg load, found]
    | some physical =>
        simp only
        by_cases store : host (.storeBitmap (calls.blockNumber writer).toNat) = true
        · rw [if_pos store]
          apply (finishes_returned calls host writer pair disk (-4)).step
          simp only [next, phase_move_self, disk_move, move_move, reserve, if_neg load, found,
            if_pos store]
        · rw [if_neg store]
          have reserved := finishes_reserved calls host writer pair
            (disk.setBit physical true) metadata physical
          simp only [Disk.saveFileMetadata, saves, Bool.false_eq_true, if_false]
          apply reserved.step
          simp only [next, phase_move_self, disk_move, move_move, reserve, if_neg load, found,
            if_neg store]

/-- A shared block is moved to a free physical block first. -/
theorem finishes_shared (pair : WritePair config Hash) (disk : Disk config Hash)
    (metadata : FileMetadata) (saves : host (.saveMetadata calls.fileTag) = false) :
    Finishes calls host writer (pair.move writer disk (.shared metadata))
      (thenWrite calls host writer
        (disk.moveToFreeBlock host calls.fileTag metadata (calls.blockNumber writer).toNat)) := by
  unfold Disk.moveToFreeBlock
  cases removes : disk.removeLogicalBlock host calls.fileTag
      (calls.blockNumber writer).toNat with
  | none =>
      apply (finishes_returned calls host writer pair disk (-2)).step
      simp only [next, phase_move_self, disk_move, move_move, removes]
  | some removed =>
      apply (finishes_unlinked calls host writer pair removed metadata saves).step
      simp only [next, phase_move_self, disk_move, move_move, removes]

theorem finishes_metadataRead (pair : WritePair config Hash) (disk : Disk config Hash)
    (metadata : FileMetadata) (saves : host (.saveMetadata calls.fileTag) = false) :
    Finishes calls host writer (pair.move writer disk (.metadataRead metadata))
      (match disk.phBlockLinks host calls.fileTag (calls.blockNumber writer).toNat with
      | none => (-1, disk)
      | some numHardlinks =>
        thenWrite calls host writer
          (if 2 < numHardlinks then
            disk.moveToFreeBlock host calls.fileTag metadata (calls.blockNumber writer).toNat
          else (0, disk))) := by
  cases stat : disk.phBlockLinks host calls.fileTag (calls.blockNumber writer).toNat with
  | none =>
      apply (finishes_returned calls host writer pair disk (-1)).step
      simp only [next, phase_move_self, disk_move, move_move, stat]
  | some numHardlinks =>
      simp only
      split
      · rename_i shared
        apply (finishes_shared calls host writer pair disk metadata saves).step
        simp only [next, phase_move_self, disk_move, move_move, stat, if_pos shared]
      · rename_i owned
        apply (finishes_writing calls host writer pair disk).step
        simp only [next, phase_move_self, disk_move, move_move, stat, if_neg owned]

theorem finishes_directoryFound (pair : WritePair config Hash) (disk : Disk config Hash)
    (saves : host (.saveMetadata calls.fileTag) = false) :
    Finishes calls host writer (pair.move writer disk .directoryFound)
      (match disk.readFileMetadata host calls.fileTag with
      | none => (fileTagMissing, disk)
      | some metadata =>
        if metadata.state = .committed then (fileAlreadyCommitted, disk)
        else if (metadata.blocks.length : Int) ≤ blockNumberAsInt (calls.blockNumber writer) then
          (readOutOfBounds, disk)
        else
          match disk.phBlockLinks host calls.fileTag (calls.blockNumber writer).toNat with
          | none => (-1, disk)
          | some numHardlinks =>
            thenWrite calls host writer
              (if 2 < numHardlinks then
                disk.moveToFreeBlock host calls.fileTag metadata
                  (calls.blockNumber writer).toNat
              else (0, disk))) := by
  cases reads : disk.readFileMetadata host calls.fileTag with
  | none =>
      apply (finishes_returned calls host writer pair disk fileTagMissing).step
      simp only [next, phase_move_self, disk_move, move_move, reads]
  | some metadata =>
      simp only
      split
      · rename_i committed
        apply (finishes_returned calls host writer pair disk fileAlreadyCommitted).step
        simp only [next, phase_move_self, disk_move, move_move, reads, checkMetadata,
          if_pos committed]
      · rename_i open_
        split
        · rename_i beyond
          apply (finishes_returned calls host writer pair disk readOutOfBounds).step
          simp only [next, phase_move_self, disk_move, move_move, reads, checkMetadata,
            if_neg open_, if_pos beyond]
        · rename_i within
          apply (finishes_metadataRead calls host writer pair disk metadata saves).step
          simp only [next, phase_move_self, disk_move, move_move, reads, checkMetadata,
            if_neg open_, if_neg within]

theorem finishes_executeBlockWrite {pair : WritePair config Hash}
    (entered : pair.phase writer = .entered)
    (saves : host (.saveMetadata calls.fileTag) = false) :
    Finishes calls host writer pair
      (pair.disk.executeBlockWrite host calls.fileTag (calls.blockNumber writer)
        (calls.blockData writer)) := by
  unfold Disk.executeBlockWrite
  cases found : pair.disk.fileDirExists host calls.fileTag with
  | false =>
      apply (finishes_returned calls host writer pair pair.disk fileTagMissing).step
      simp only [next, entered, found, Bool.false_eq_true, if_false]
  | true =>
      apply (finishes_directoryFound calls host writer pair pair.disk saves).step
      simp only [next, entered, found, if_true]

end Alone

/-- How the link of a thread's own block and its entry on disk are related. -/
def OwnEntry (disk : Disk config Hash) (fileTag : FileTag) (index : Nat)
    (metadata : FileMetadata) : WritePhase → Prop
  | .unlinked _ | .reserved _ _ => True
  | .linked _ physical => disk.links.inode fileTag index = some physical
  | .returned code => code = 0 → disk.links.inode fileTag index = metadata.blocks[index]?
  | _ => disk.links.inode fileTag index = metadata.blocks[index]?

theorem OwnEntry.congr {before after : Disk config Hash} {fileTag : FileTag} {index : Nat}
    {metadata : FileMetadata} {phase : WritePhase}
    (own : OwnEntry before fileTag index metadata phase)
    (same : after.links.inode fileTag index = before.links.inode fileTag index) :
    OwnEntry after fileTag index metadata phase := by
  unfold OwnEntry at own ⊢
  simp only [same]
  exact own

/-- A copy of the metadata is what is on disk, or what was there before the other thread
saved its own entry. -/
def Recent (calls : WriteCalls) (pair : WritePair config Hash) (metadata : FileMetadata)
    (writer : Writer) (copy : FileMetadata) : Prop :=
  metadata = copy ∨
    (pair.phase writer.other).settled = true ∧
      ∃ physical, pair.disk.links.inode calls.fileTag
          (calls.blockNumber writer.other).toNat = some physical ∧
        metadata = { copy with
          blocks := copy.blocks.set (calls.blockNumber writer.other).toNat physical }

structure Balanced (calls : WriteCalls) (pair : WritePair config Hash)
    (metadata : FileMetadata) : Prop where
  stored : pair.disk.metadata calls.fileTag = some metadata
  bound : ∀ writer, (calls.blockNumber writer).toNat < metadata.blocks.length
  different : ∀ writer, (calls.blockNumber writer).toNat ≠
    (calls.blockNumber writer.other).toNat
  own : ∀ writer, OwnEntry pair.disk calls.fileTag (calls.blockNumber writer).toNat metadata
    (pair.phase writer)
  recent : ∀ writer copy, (pair.phase writer).copy = some copy →
    Recent calls pair metadata writer copy

theorem Starts.balanced {pair : WritePair config Hash} (starts : pair.Starts calls) :
    ∃ metadata, pair.Balanced calls metadata := by
  obtain ⟨metadata, stored, linked, bound⟩ := starts.linked
  refine ⟨metadata, stored, bound, ?_, ?_, ?_⟩
  · intro writer same
    apply starts.different
    cases writer with
    | first => exact UInt32.toNat_inj.mp same
    | second => exact (UInt32.toNat_inj.mp same).symm
  · intro writer
    obtain ⟨other, physical, again, link, entry⟩ := linked _ (bound writer)
    obtain rfl : metadata = other := Option.some.inj (stored.symm.trans again)
    rw [starts.entered writer]
    exact link.trans entry.symm
  · intro writer copy read
    rw [starts.entered writer] at read
    cases read

section Steps

variable {pair after : WritePair config Hash} {metadata : FileMetadata} {writer : Writer}

/-- What a step that leaves the metadata alone has to respect. -/
theorem Balanced.move (balanced : pair.Balanced calls metadata) {disk : Disk config Hash}
    {phase : WritePhase}
    (stored : disk.metadata calls.fileTag = pair.disk.metadata calls.fileTag)
    (elsewhere : disk.links.inode calls.fileTag (calls.blockNumber writer.other).toNat =
      pair.disk.links.inode calls.fileTag (calls.blockNumber writer.other).toNat)
    (settled : (pair.phase writer).settled = true → phase.settled = true ∧
      disk.links.inode calls.fileTag (calls.blockNumber writer).toNat =
        pair.disk.links.inode calls.fileTag (calls.blockNumber writer).toNat)
    (own : OwnEntry disk calls.fileTag (calls.blockNumber writer).toNat metadata phase)
    (copies : ∀ copy, phase.copy = some copy →
      (pair.phase writer).copy = some copy ∨ copy = metadata) :
    (pair.move writer disk phase).Balanced calls metadata where
  stored := stored.trans balanced.stored
  bound := balanced.bound
  different := balanced.different
  own thread := by
    rcases eq_or_eq_other writer thread with rfl | rfl
    · rw [phase_move_self]
      exact own
    · rw [phase_move_other]
      exact (balanced.own writer.other).congr elsewhere
  recent thread copy read := by
    rcases eq_or_eq_other writer thread with rfl | rfl
    · rw [phase_move_self] at read
      rcases copies copy read with held | rfl
      · rcases balanced.recent thread copy held with same | ⟨done, physical, link, saved⟩
        · exact Or.inl same
        · refine Or.inr ⟨?_, physical, elsewhere.trans link, saved⟩
          rw [phase_move_other]
          exact done
      · exact Or.inl rfl
    · rw [phase_move_other] at read
      rcases balanced.recent writer.other copy read with same | ⟨done, physical, link, saved⟩
      · exact Or.inl same
      · rw [other_other] at done link saved
        have stays := settled done
        refine Or.inr ⟨?_, physical, ?_, ?_⟩
        · rw [other_other, phase_move_self]
          exact stays.1
        · rw [other_other]
          exact stays.2.trans link
        · rw [other_other]
          exact saved

theorem Balanced.save (balanced : pair.Balanced calls metadata) {physical : Nat}
    (linked : pair.phase writer = .linked metadata physical) :
    (pair.move writer
      (pair.disk.setMetadata calls.fileTag
        { metadata with
          blocks := metadata.blocks.set (calls.blockNumber writer).toNat physical })
      .writing).Balanced calls
        { metadata with
          blocks := metadata.blocks.set (calls.blockNumber writer).toNat physical } where
  stored := by simp [WritePair.move, Disk.setMetadata]
  bound thread := by
    rw [List.length_set]
    exact balanced.bound thread
  different := balanced.different
  own thread := by
    rcases eq_or_eq_other writer thread with rfl | rfl
    · have link := balanced.own thread
      rw [linked] at link
      rw [phase_move_self]
      change pair.disk.links.inode _ _ = (metadata.blocks.set _ _)[_]?
      rw [List.getElem?_set_self (balanced.bound thread)]
      exact link
    · rw [phase_move_other]
      have before := balanced.own writer.other
      unfold OwnEntry at before ⊢
      simp only [List.getElem?_set_ne (balanced.different writer)]
      exact before
  recent thread copy read := by
    rcases eq_or_eq_other writer thread with rfl | rfl
    · rw [phase_move_self] at read
      cases read
    · rw [phase_move_other] at read
      rcases balanced.recent writer.other copy read with rfl | ⟨done, -⟩
      · refine Or.inr ⟨?_, physical, ?_, ?_⟩
        · rw [other_other, phase_move_self]
          rfl
        · have link := balanced.own writer
          rw [linked] at link
          rw [other_other]
          exact link
        · rw [other_other]
      · rw [other_other, linked] at done
        cases done

theorem inode_of_removeLogicalBlock {host : Host} {disk removed : Disk config Hash}
    {fileTag : FileTag} {index other : Nat} (different : other ≠ index)
    (removes : disk.removeLogicalBlock host fileTag index = some removed) :
    removed.metadata = disk.metadata ∧
      removed.links.inode fileTag other = disk.links.inode fileTag other := by
  unfold Disk.removeLogicalBlock at removes
  split at removes
  · cases removes
  · cases removes
    simp [different]

theorem inode_of_createNewHardlink {host : Host} {disk linked : Disk config Hash}
    {fileTag : FileTag} {index other physical : Nat} (different : other ≠ index)
    (links : disk.createNewHardlink host fileTag index physical = some linked) :
    linked.metadata = disk.metadata ∧ linked.links.inode fileTag index = some physical ∧
      linked.links.inode fileTag other = disk.links.inode fileTag other := by
  unfold Disk.createNewHardlink at links
  split at links
  · cases links
  · unfold Disk.linkLogicalBlock at links
    split at links
    · cases links
    · cases links
      simp [different]

theorem links_of_writeToLogicalBlock {host : Host} {disk written : Disk config Hash}
    {fileTag : FileTag} {index : Nat} {blockData : List UInt8}
    (writes : disk.writeToLogicalBlock host fileTag index blockData = some written) :
    written.metadata = disk.metadata ∧ written.links = disk.links := by
  unfold Disk.writeToLogicalBlock at writes
  split at writes
  · cases writes
  · obtain ⟨physical, -, rfl⟩ := Option.map_eq_some_iff.mp writes
    exact ⟨rfl, rfl⟩

theorem reserve_cases (host : Host) (disk : Disk config Hash) (index : Nat)
    (metadata : FileMetadata) :
    (∃ code, code ≠ 0 ∧ reserve host disk index metadata = (disk, .returned code)) ∨
      ∃ physical, reserve host disk index metadata =
        (disk.setBit physical true, .reserved metadata physical) := by
  unfold reserve
  split
  · exact Or.inl ⟨-3, by decide, rfl⟩
  · split
    · exact Or.inl ⟨notEnoughSpace, by decide, rfl⟩
    · rename_i physical found
      split
      · exact Or.inl ⟨-4, by decide, rfl⟩
      · exact Or.inr ⟨physical, rfl⟩

theorem Balanced.fail (balanced : pair.Balanced calls metadata) {code : Int}
    (failed : code ≠ 0) :
    (pair.move writer pair.disk (.returned code)).Balanced calls metadata := by
  apply balanced.move
  · rfl
  · rfl
  · exact fun _ => ⟨rfl, rfl⟩
  · exact fun zero => absurd zero failed
  · intro copy read
    cases read

/-- A thread that has not saved yet moves on with the metadata that it has read. -/
theorem Balanced.proceed (balanced : pair.Balanced calls metadata) {disk : Disk config Hash}
    {current phase : WritePhase} (reached : pair.phase writer = current)
    (unsettled : current.settled = false)
    (stored : disk.metadata calls.fileTag = pair.disk.metadata calls.fileTag)
    (elsewhere : disk.links.inode calls.fileTag (calls.blockNumber writer.other).toNat =
      pair.disk.links.inode calls.fileTag (calls.blockNumber writer.other).toNat)
    (own : OwnEntry disk calls.fileTag (calls.blockNumber writer).toNat metadata phase)
    (copies : ∀ copy, phase.copy = some copy → current.copy = some copy ∨ copy = metadata) :
    (pair.move writer disk phase).Balanced calls metadata := by
  apply balanced.move stored elsewhere _ own
  · rw [reached]
    exact copies
  · rw [reached, unsettled]
    exact fun settled => nomatch settled

theorem Balanced.read (balanced : pair.Balanced calls metadata)
    (reached : pair.phase writer = .directoryFound) (host : Host) :
    (pair.move writer pair.disk
      (match pair.disk.readFileMetadata host calls.fileTag with
        | none => .returned fileTagMissing
        | some found => checkMetadata found (calls.blockNumber writer))).Balanced calls
      metadata := by
  have own := balanced.own writer
  rw [reached] at own
  split
  · exact balanced.fail (by decide)
  · rename_i read found
    have same : read = metadata := by
      unfold Disk.readFileMetadata at found
      split at found
      · cases found
      · exact Option.some.inj (found.symm.trans balanced.stored)
    subst same
    unfold checkMetadata
    split
    · exact balanced.fail (by decide)
    · split
      · exact balanced.fail (by decide)
      · exact balanced.proceed reached rfl rfl rfl own
          fun copy held => Or.inr (Option.some.inj held).symm

/-- A save that finds on disk what was read keeps the balance, and so does every other
step. -/
theorem Balanced.next (balanced : pair.Balanced calls metadata) {turn : WriteTurn}
    (unchanged : pair.SavesUnchanged calls turn) (steps : pair.next calls turn = some after) :
    ∃ stored, after.Balanced calls stored := by
  have own := balanced.own turn.writer
  have different := balanced.different turn.writer
  unfold WritePair.next at steps
  cases phase : pair.phase turn.writer with
  | entered =>
      rw [phase] at steps own
      cases steps
      refine ⟨metadata, ?_⟩
      split
      · exact balanced.proceed phase rfl rfl rfl own fun copy read => nomatch read
      · exact balanced.fail (by decide)
  | directoryFound =>
      rw [phase] at steps
      cases steps
      exact ⟨metadata, balanced.read phase turn.host⟩
  | metadataRead copy =>
      rw [phase] at steps own
      cases steps
      refine ⟨metadata, ?_⟩
      split
      · exact balanced.fail (by decide)
      · split
        · exact balanced.proceed phase rfl rfl rfl own fun other held => Or.inl held
        · exact balanced.proceed phase rfl rfl rfl own fun other held => nomatch held
  | shared copy =>
      rw [phase] at steps
      cases steps
      refine ⟨metadata, ?_⟩
      split
      · exact balanced.fail (by decide)
      · rename_i removed removes
        obtain ⟨stored, elsewhere⟩ := inode_of_removeLogicalBlock different.symm removes
        exact balanced.proceed phase rfl (by rw [stored]) elsewhere trivial
          fun other held => Or.inl held
  | unlinked copy =>
      rw [phase] at steps
      simp only at steps
      refine ⟨metadata, ?_⟩
      rcases reserve_cases turn.host pair.disk (calls.blockNumber turn.writer).toNat copy with
        ⟨code, failed, reserves⟩ | ⟨physical, reserves⟩
      · rw [reserves] at steps
        cases steps
        exact balanced.fail failed
      · rw [reserves] at steps
        cases steps
        exact balanced.proceed phase rfl rfl rfl trivial fun other held => Or.inl held
  | reserved copy physical =>
      rw [phase] at steps
      cases steps
      refine ⟨metadata, ?_⟩
      split
      · exact balanced.fail (by decide)
      · rename_i linked links
        obtain ⟨stored, link, elsewhere⟩ := inode_of_createNewHardlink different.symm links
        exact balanced.proceed phase rfl (by rw [stored]) elsewhere link
          fun other held => Or.inl held
  | linked copy physical =>
      have same : copy = metadata := by
        have stored := unchanged copy physical phase
        exact Option.some.inj (stored.symm.trans balanced.stored)
      subst same
      have saved := balanced.save phase
      rw [phase] at steps
      cases steps
      exact ⟨_, saved⟩
  | writing =>
      rw [phase] at steps own
      cases steps
      refine ⟨metadata, ?_⟩
      split
      · exact balanced.fail (by decide)
      · rename_i written writes
        have frame := links_of_writeToLogicalBlock writes
        apply balanced.move
        · rw [frame.1]
        · rw [frame.2]
        · rw [frame.2]
          exact fun _ => ⟨rfl, rfl⟩
        · intro _
          rw [frame.2]
          exact own
        · intro other held
          cases held
  | returned code =>
      rw [phase] at steps
      cases steps

/-- Both threads are past their saves and one entry is wrong. -/
def Damaged (calls : WriteCalls) (pair : WritePair config Hash) : Prop :=
  (∀ writer, (pair.phase writer).settled = true) ∧
    ∃ writer, ¬EntryTrue pair.disk calls.fileTag (calls.blockNumber writer).toNat

/-- A save that finds something else on disk takes the entry of the other thread back. -/
theorem Balanced.damage (balanced : pair.Balanced calls metadata) {turn : WriteTurn}
    (changed : ¬pair.SavesUnchanged calls turn) (steps : pair.next calls turn = some after) :
    after.Damaged calls := by
  unfold SavesUnchanged at changed
  push Not at changed
  obtain ⟨copy, physical, phase, stale⟩ := changed
  have recent := balanced.recent turn.writer copy (by rw [phase]; rfl)
  rcases recent with rfl | ⟨done, theirs, link, saved⟩
  · exact absurd balanced.stored stale
  · unfold WritePair.next at steps
    rw [phase] at steps
    cases steps
    constructor
    · intro writer
      rcases eq_or_eq_other turn.writer writer with rfl | rfl
      · rw [phase_move_self]
        rfl
      · rw [phase_move_other]
        exact done
    · refine ⟨turn.writer.other, ?_⟩
      rintro ⟨stored, named, storedNow, linkNow, entry⟩
      have namedTheirs : named = theirs := Option.some.inj (linkNow.symm.trans link)
      subst namedTheirs
      simp only [WritePair.move, Disk.setMetadata, Function.update_self, Option.some.injEq]
        at storedNow
      subst storedNow
      rw [List.getElem?_set_ne (balanced.different turn.writer)] at entry
      apply stale
      rw [balanced.stored, saved]
      obtain ⟨bound, same⟩ := List.getElem?_eq_some_iff.mp entry
      rw [← same, List.set_getElem_self]

theorem EntryTrue.congr {before after : Disk config Hash} {fileTag : FileTag} {index : Nat}
    (stored : after.metadata = before.metadata) (links : after.links = before.links) :
    EntryTrue after fileTag index ↔ EntryTrue before fileTag index := by
  unfold EntryTrue
  rw [stored, links]

theorem Damaged.next {turn : WriteTurn} (damaged : pair.Damaged calls)
    (steps : pair.next calls turn = some after) : after.Damaged calls := by
  have done := damaged.1 turn.writer
  have keeps : ∀ {disk : Disk config Hash} {code : Int},
      disk.metadata = pair.disk.metadata → disk.links = pair.disk.links →
        (pair.move turn.writer disk (.returned code)).Damaged calls := by
    intro disk code stored links
    obtain ⟨settled, writer, wrong⟩ := damaged
    constructor
    · intro thread
      rcases eq_or_eq_other turn.writer thread with rfl | rfl
      · rw [phase_move_self]
        rfl
      · rw [phase_move_other]
        exact settled _
    · refine ⟨writer, ?_⟩
      change ¬EntryTrue disk _ _
      rw [EntryTrue.congr stored links]
      exact wrong
  unfold WritePair.next at steps
  cases phase : pair.phase turn.writer with
  | writing =>
      rw [phase] at steps
      cases steps
      split
      · exact keeps rfl rfl
      · rename_i written writes
        have frame := links_of_writeToLogicalBlock writes
        exact keeps frame.1 frame.2
  | returned code =>
      rw [phase] at steps
      cases steps
  | _ =>
      rw [phase] at done
      cases done

theorem Damaged.run {turns : List WriteTurn} :
    ∀ {pair : WritePair config Hash}, pair.Damaged calls →
      TransitionSystem.runNext (WritePair.next calls) pair turns = some after →
        after.Damaged calls := by
  induction turns with
  | nil =>
      intro pair damaged ends
      cases ends
      exact damaged
  | cons turn turns ih =>
      intro pair damaged ends
      obtain ⟨middle, step, rest⟩ := Option.bind_eq_some_iff.mp ends
      exact ih (damaged.next step) rest

theorem Balanced.entryTrue (balanced : pair.Balanced calls metadata)
    (returned : pair.phase writer = .returned 0) :
    EntryTrue pair.disk calls.fileTag (calls.blockNumber writer).toNat := by
  have own := balanced.own writer
  rw [returned] at own
  have bound := balanced.bound writer
  refine ⟨metadata, metadata.blocks[(calls.blockNumber writer).toNat], balanced.stored, ?_, ?_⟩
  · rw [own rfl, List.getElem?_eq_getElem bound]
  · rw [List.getElem?_eq_getElem bound]

theorem Balanced.entriesTrue_iff {turns : List WriteTurn} {last : WritePair config Hash}
    (returned : ∀ writer, last.phase writer = .returned 0) :
    ∀ {pair : WritePair config Hash} {metadata : FileMetadata}, pair.Balanced calls metadata →
      TransitionSystem.runNext (WritePair.next calls) pair turns = some last →
        ((∀ writer, EntryTrue last.disk calls.fileTag (calls.blockNumber writer).toNat) ↔
          TransitionSystem.Along (WritePair.next calls) (SavesUnchanged calls) pair turns) := by
  induction turns with
  | nil =>
      intro pair metadata balanced ends
      cases ends
      exact iff_of_true (fun writer => balanced.entryTrue (returned writer)) trivial
  | cons turn turns ih =>
      intro pair metadata balanced ends
      obtain ⟨middle, step, rest⟩ := Option.bind_eq_some_iff.mp ends
      by_cases unchanged : pair.SavesUnchanged calls turn
      · obtain ⟨stored, later⟩ := balanced.next unchanged step
        rw [ih later rest]
        constructor
        · intro along
          refine ⟨unchanged, ?_⟩
          intro other otherStep
          obtain rfl : middle = other := Option.some.inj (step.symm.trans otherStep)
          exact along
        · intro along
          exact along.2 middle step
      · obtain ⟨-, writer, wrong⟩ := (balanced.damage unchanged step).run rest
        apply iff_of_false
        · exact fun entries => wrong (entries writer)
        · exact fun along => unchanged along.1

end Steps

/-- When both calls return 0, the entries of their two blocks are right if and only if every
save along the way found on disk the metadata that its thread had read. -/
theorem entriesTrue_iff_savesUnchanged {pair last : WritePair config Hash}
    {turns : List WriteTurn} (starts : pair.Starts calls)
    (ends : TransitionSystem.runNext (next calls) pair turns = some last)
    (returned : ∀ writer, last.phase writer = .returned 0) :
    (∀ writer, EntryTrue last.disk calls.fileTag (calls.blockNumber writer).toNat) ↔
      TransitionSystem.Along (next calls) (SavesUnchanged calls) pair turns := by
  obtain ⟨metadata, balanced⟩ := starts.balanced
  exact Balanced.entriesTrue_iff returned balanced ends

section Instances

/-- `A` for block 0 and `B` for block 1 of the same File:Tag. -/
def writesToA : WriteCalls where
  fileTag := fileA
  blockNumber
    | .first => 0
    | .second => 1
  blockData
    | .first => [65]
    | .second => [66]

/-- A File:Tag of two blocks, both still linked to physical block 0. -/
def bothEntered : WritePair fourByteConfig String where
  disk := sampleDisk [.createFile fileA, .truncateFile fileA 2]
  phase := fun _ => .entered

/-- Some turns of one thread, with every host call succeeding. -/
def turnsOf (writer : Writer) (count : Nat) : List WriteTurn :=
  List.replicate count ⟨writer, reliable⟩

theorem starts_bothEntered : bothEntered.Starts writesToA where
  entered writer := rfl
  linked := by
    refine ⟨⟨2, [0, 0], .workInProgress⟩, by decide +kernel, ?_, ?_⟩
    · intro index bound
      refine ⟨⟨2, [0, 0], .workInProgress⟩, 0, by decide +kernel, ?_⟩
      match index, bound with
      | 0, _ => exact ⟨by decide +kernel, rfl⟩
      | 1, _ => exact ⟨by decide +kernel, rfl⟩
    · intro writer
      cases writer <;> decide
  different := by decide

/-- The first thread reads the metadata before the second one saves its entry, and saves its
own afterwards: entry 1 names block 0 again while logical block 1 is linked to block 1. -/
theorem entry_undone :
    ∃ last, TransitionSystem.runNext (next writesToA) bothEntered
        (turnsOf .first 2 ++ turnsOf .second 8 ++ turnsOf .first 6) = some last ∧
      bothEntered.Starts writesToA ∧ (∀ writer, last.phase writer = .returned 0) ∧
        ¬∀ writer, EntryTrue last.disk writesToA.fileTag
          (writesToA.blockNumber writer).toNat := by
  have summary : (TransitionSystem.runNext (next writesToA) bothEntered
      (turnsOf .first 2 ++ turnsOf .second 8 ++ turnsOf .first 6)).map (fun last =>
        (last.phase .first, last.phase .second, last.disk.metadata fileA,
          last.disk.links.inode fileA 1)) =
      some (.returned 0, .returned 0, some ⟨2, [2, 0], .workInProgress⟩, some 1) := by
    decide +kernel
  obtain ⟨last, ends, facts⟩ := Option.map_eq_some_iff.mp summary
  simp only [Prod.mk.injEq] at facts
  refine ⟨last, ends, starts_bothEntered, ?_, ?_⟩
  · intro writer
    cases writer with
    | first => exact facts.1
    | second => exact facts.2.1
  · intro entries
    obtain ⟨metadata, physical, stored, link, entry⟩ := entries .second
    obtain rfl := Option.some.inj (facts.2.2.1.symm.trans stored)
    obtain rfl := Option.some.inj (facts.2.2.2.symm.trans link)
    revert entry
    decide

/-- One call after the other. -/
theorem entriesTrue_inTurn :
    ∃ last, TransitionSystem.runNext (next writesToA) bothEntered
        (turnsOf .first 8 ++ turnsOf .second 8) = some last ∧
      (∀ writer, last.phase writer = .returned 0) ∧
        ((∀ writer, EntryTrue last.disk writesToA.fileTag (writesToA.blockNumber writer).toNat) ↔
          TransitionSystem.Along (next writesToA) (SavesUnchanged writesToA) bothEntered
            (turnsOf .first 8 ++ turnsOf .second 8)) := by
  have summary : (TransitionSystem.runNext (next writesToA) bothEntered
      (turnsOf .first 8 ++ turnsOf .second 8)).map (fun last =>
        (last.phase .first, last.phase .second)) = some (.returned 0, .returned 0) := by
    decide +kernel
  obtain ⟨last, ends, facts⟩ := Option.map_eq_some_iff.mp summary
  simp only [Prod.mk.injEq] at facts
  have returned : ∀ writer, last.phase writer = .returned 0 := by
    intro writer
    cases writer with
    | first => exact facts.1
    | second => exact facts.2
  exact ⟨last, ends, returned, entriesTrue_iff_savesUnchanged starts_bothEntered ends returned⟩

end Instances

end WritePair

end Storage

end MasterOfFiles
