import Mathlib.Data.Finset.Card
import Mathlib.Data.Finset.Image

/-!
# Hard-link tables

A link table is the finite set of directory entries of a file system, each
entry naming an inode.  The number of names of an inode is computed from the
entries, so link counts cannot drift from the links themselves; the lemmas
below read the two tests that reference-counting code makes (no link left, at
most one link left) back as statements about the entries.
-/

namespace MasterOfFiles

/-- The directory entries of a file system: entry `entry` of directory `dir`
is a hard link to `inode dir entry`. -/
structure LinkTable (Dir Entry Inode : Type*) where
  inode : Dir → Entry → Option Inode
  support : Finset (Dir × Entry)
  mem_support : ∀ dir entry,
    (dir, entry) ∈ support ↔ (inode dir entry).isSome = true

namespace LinkTable

variable {Dir Entry Inode : Type*}

def empty : LinkTable Dir Entry Inode where
  inode _ _ := none
  support := ∅
  mem_support := by simp

@[simp]
theorem inode_empty (dir : Dir) (entry : Entry) :
    (empty : LinkTable Dir Entry Inode).inode dir entry = none :=
  rfl

section Counting

variable [DecidableEq Inode]

def namesOf (table : LinkTable Dir Entry Inode) (inode : Inode) :
    Finset (Dir × Entry) :=
  table.support.filter (fun name => table.inode name.1 name.2 = some inode)

/-- How many entries are hard links to an inode. -/
def linkCount (table : LinkTable Dir Entry Inode) (inode : Inode) : Nat :=
  (table.namesOf inode).card

def Linked (table : LinkTable Dir Entry Inode) (inode : Inode) : Prop :=
  ∃ dir entry, table.inode dir entry = some inode

@[simp]
theorem mem_namesOf (table : LinkTable Dir Entry Inode) (inode : Inode)
    (dir : Dir) (entry : Entry) :
    (dir, entry) ∈ table.namesOf inode ↔ table.inode dir entry = some inode := by
  simp only [namesOf, Finset.mem_filter, table.mem_support, and_iff_right_iff_imp]
  intro held
  simp [held]

theorem linkCount_pos_iff (table : LinkTable Dir Entry Inode) (inode : Inode) :
    0 < table.linkCount inode ↔ table.Linked inode := by
  rw [linkCount, Finset.card_pos]
  constructor
  · rintro ⟨⟨dir, entry⟩, member⟩
    exact ⟨dir, entry, (table.mem_namesOf inode dir entry).mp member⟩
  · rintro ⟨dir, entry, held⟩
    exact ⟨(dir, entry), (table.mem_namesOf inode dir entry).mpr held⟩

theorem linkCount_eq_zero_iff (table : LinkTable Dir Entry Inode) (inode : Inode) :
    table.linkCount inode = 0 ↔ ¬ table.Linked inode := by
  rw [← linkCount_pos_iff]
  omega

/-- With at most one link, two entries naming the inode are the same entry. -/
theorem name_unique_of_linkCount_le_one {table : LinkTable Dir Entry Inode}
    {inode : Inode} (few : table.linkCount inode ≤ 1)
    {firstDir secondDir : Dir} {firstEntry secondEntry : Entry}
    (first : table.inode firstDir firstEntry = some inode)
    (second : table.inode secondDir secondEntry = some inode) :
    firstDir = secondDir ∧ firstEntry = secondEntry := by
  have same : (firstDir, firstEntry) = (secondDir, secondEntry) :=
    Finset.card_le_one.mp few _ ((table.mem_namesOf ..).mpr first) _
      ((table.mem_namesOf ..).mpr second)
  simpa using same

/-- With more than one link, some other entry names the inode as well. -/
theorem exists_other_name_of_one_lt_linkCount {table : LinkTable Dir Entry Inode}
    {inode : Inode} (many : 1 < table.linkCount inode) (dir : Dir) (entry : Entry) :
    ∃ otherDir otherEntry, (otherDir, otherEntry) ≠ (dir, entry) ∧
      table.inode otherDir otherEntry = some inode := by
  obtain ⟨⟨otherDir, otherEntry⟩, member, different⟩ :=
    Finset.exists_mem_ne many (dir, entry)
  exact ⟨otherDir, otherEntry, different,
    (table.mem_namesOf inode otherDir otherEntry).mp member⟩

end Counting

variable [DecidableEq Dir] [DecidableEq Entry]

def link (table : LinkTable Dir Entry Inode) (dir : Dir) (entry : Entry)
    (inode : Inode) : LinkTable Dir Entry Inode where
  inode otherDir otherEntry :=
    if otherDir = dir ∧ otherEntry = entry then some inode
    else table.inode otherDir otherEntry
  support := insert (dir, entry) table.support
  mem_support otherDir otherEntry := by
    by_cases same : otherDir = dir ∧ otherEntry = entry
    · simp [same]
    · simp [same, table.mem_support]

def unlink (table : LinkTable Dir Entry Inode) (dir : Dir) (entry : Entry) :
    LinkTable Dir Entry Inode where
  inode otherDir otherEntry :=
    if otherDir = dir ∧ otherEntry = entry then none
    else table.inode otherDir otherEntry
  support := table.support.erase (dir, entry)
  mem_support otherDir otherEntry := by
    by_cases same : otherDir = dir ∧ otherEntry = entry
    · simp [same]
    · simp [same, table.mem_support]

def removeDirectory (table : LinkTable Dir Entry Inode) (dir : Dir) :
    LinkTable Dir Entry Inode where
  inode otherDir otherEntry :=
    if otherDir = dir then none else table.inode otherDir otherEntry
  support := table.support.filter (fun name => name.1 ≠ dir)
  mem_support otherDir otherEntry := by
    by_cases same : otherDir = dir
    · simp [same]
    · simp [same, table.mem_support]

/-- Link every entry of `source` under the same entry name in `target`; an
entry that `target` already has is left alone. -/
def copyDirectory (table : LinkTable Dir Entry Inode) (source target : Dir) :
    LinkTable Dir Entry Inode where
  inode otherDir otherEntry :=
    if otherDir = target ∧ (table.inode target otherEntry).isNone then
      table.inode source otherEntry
    else table.inode otherDir otherEntry
  support := table.support ∪
    (table.support.filter (fun name => name.1 = source)).image
      (fun name => (target, name.2))
  mem_support otherDir otherEntry := by
    by_cases same : otherDir = target
    · subst same
      cases held : table.inode otherDir otherEntry with
      | none => simp [table.mem_support, held]
      | some inode => simp [table.mem_support, held]
    · simp [same, Ne.symm same, table.mem_support]

@[simp]
theorem inode_link (table : LinkTable Dir Entry Inode) (dir : Dir)
    (entry : Entry) (inode : Inode) (otherDir : Dir) (otherEntry : Entry) :
    (table.link dir entry inode).inode otherDir otherEntry =
      if otherDir = dir ∧ otherEntry = entry then some inode
      else table.inode otherDir otherEntry :=
  rfl

@[simp]
theorem inode_unlink (table : LinkTable Dir Entry Inode) (dir : Dir)
    (entry : Entry) (otherDir : Dir) (otherEntry : Entry) :
    (table.unlink dir entry).inode otherDir otherEntry =
      if otherDir = dir ∧ otherEntry = entry then none
      else table.inode otherDir otherEntry :=
  rfl

omit [DecidableEq Entry] in
@[simp]
theorem inode_removeDirectory (table : LinkTable Dir Entry Inode) (dir : Dir)
    (otherDir : Dir) (otherEntry : Entry) :
    (table.removeDirectory dir).inode otherDir otherEntry =
      if otherDir = dir then none else table.inode otherDir otherEntry :=
  rfl

@[simp]
theorem inode_copyDirectory (table : LinkTable Dir Entry Inode)
    (source target otherDir : Dir) (otherEntry : Entry) :
    (table.copyDirectory source target).inode otherDir otherEntry =
      if otherDir = target ∧ (table.inode target otherEntry).isNone then
        table.inode source otherEntry
      else table.inode otherDir otherEntry :=
  rfl

section Linked

variable {table : LinkTable Dir Entry Inode} {dir : Dir} {entry : Entry}
  {inode other : Inode}

theorem linked_unlink_of_ne (held : table.inode dir entry = some inode)
    (different : other ≠ inode) :
    (table.unlink dir entry).Linked other ↔ table.Linked other := by
  constructor
  · rintro ⟨otherDir, otherEntry, linked⟩
    refine ⟨otherDir, otherEntry, ?_⟩
    rw [inode_unlink] at linked
    split at linked
    · simp at linked
    · exact linked
  · rintro ⟨otherDir, otherEntry, linked⟩
    refine ⟨otherDir, otherEntry, ?_⟩
    have elsewhere : ¬ (otherDir = dir ∧ otherEntry = entry) := by
      rintro ⟨rfl, rfl⟩
      exact different (Option.some.inj (linked.symm.trans held))
    simpa [elsewhere] using linked

theorem linked_link (free : table.inode dir entry = none) :
    (table.link dir entry inode).Linked other ↔ other = inode ∨ table.Linked other := by
  constructor
  · rintro ⟨otherDir, otherEntry, linked⟩
    rw [inode_link] at linked
    split at linked
    · exact Or.inl (Option.some.inj linked).symm
    · exact Or.inr ⟨otherDir, otherEntry, linked⟩
  · rintro (rfl | ⟨otherDir, otherEntry, linked⟩)
    · exact ⟨dir, entry, by simp⟩
    · refine ⟨otherDir, otherEntry, ?_⟩
      have elsewhere : ¬ (otherDir = dir ∧ otherEntry = entry) := by
        rintro ⟨rfl, rfl⟩
        simp [free] at linked
      simpa [elsewhere] using linked

omit [DecidableEq Entry] in
theorem linked_removeDirectory (empty : ∀ entry, table.inode dir entry = none) :
    (table.removeDirectory dir).Linked other ↔ table.Linked other := by
  constructor
  · rintro ⟨otherDir, otherEntry, linked⟩
    refine ⟨otherDir, otherEntry, ?_⟩
    rw [inode_removeDirectory] at linked
    split at linked
    · simp at linked
    · exact linked
  · rintro ⟨otherDir, otherEntry, linked⟩
    refine ⟨otherDir, otherEntry, ?_⟩
    have elsewhere : otherDir ≠ dir := by
      rintro rfl
      simp [empty] at linked
    simpa [elsewhere] using linked

/-- Copying links creates no new linked inode and loses none. -/
theorem linked_copyDirectory (source target : Dir) :
    (table.copyDirectory source target).Linked other ↔ table.Linked other := by
  constructor
  · rintro ⟨otherDir, otherEntry, linked⟩
    rw [inode_copyDirectory] at linked
    split at linked
    · exact ⟨source, otherEntry, linked⟩
    · exact ⟨otherDir, otherEntry, linked⟩
  · rintro ⟨otherDir, otherEntry, linked⟩
    refine ⟨otherDir, otherEntry, ?_⟩
    have kept : ¬ (otherDir = target ∧ (table.inode target otherEntry).isNone) := by
      rintro ⟨rfl, free⟩
      simp [linked] at free
    rw [inode_copyDirectory, if_neg kept]
    exact linked

end Linked

end LinkTable

end MasterOfFiles
