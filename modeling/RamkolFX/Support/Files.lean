import Mathlib.Data.Nat.Notation
import Mathlib.Logic.Function.Basic

/-!
# Files

Names, the files they stand for, and what is in the files.  Who has a file open
has the file and not its name, so a file can be written after it was renamed.
-/

namespace Support

/-- The number of a file. -/
abbrev Inode := ℕ

/-- A directory in which no file has two names. -/
structure Files (ν : Type*) where
  inodeOf : ν → Option Inode
  contents : Inode → List UInt8
  /-- Neither this number nor a greater one is that of a file with a name. -/
  unused : Inode
  lt_unused : ∀ name inode, inodeOf name = some inode → inode < unused
  inodeOf_inj : ∀ name other inode, inodeOf name = some inode →
    inodeOf other = some inode → name = other

/-- What a file holds after some bytes were written to it at an offset.  A hole
in front of them reads as zeros. -/
def overwrite (contents : List UInt8) (offset : ℕ) (bytes : List UInt8) :
    List UInt8 :=
  if bytes = [] then contents
  else contents.take offset ++ List.replicate (offset - contents.length) 0 ++
    bytes ++ contents.drop (offset + bytes.length)

theorem overwrite_at_end (contents bytes : List UInt8) :
    overwrite contents contents.length bytes = contents ++ bytes := by
  rw [overwrite]
  split
  · rename_i hbytes
    rw [hbytes, List.append_nil]
  · rw [List.take_length, Nat.sub_self, List.replicate_zero, List.append_nil,
      List.drop_eq_nil_of_le (Nat.le_add_right ..), List.append_nil]

namespace Files

variable {ν : Type*} (files : Files ν) {name other : ν}

/-- A directory without files. -/
def empty : Files ν where
  inodeOf := fun _ => none
  contents := fun _ => []
  unused := 0
  lt_unused := nofun
  inodeOf_inj := nofun

/-- What one who opens the name reads. -/
def read (name : ν) : Option (List UInt8) :=
  (files.inodeOf name).map files.contents

theorem ne_unused {inode : Inode} (h : files.inodeOf name = some inode) :
    inode ≠ files.unused :=
  Nat.ne_of_lt (files.lt_unused name inode h)

/-- Some bytes are written to a file at an offset. -/
def write (inode : Inode) (offset : ℕ) (bytes : List UInt8) : Files ν :=
  { files with
    contents := Function.update files.contents inode
      (overwrite (files.contents inode) offset bytes) }

@[simp] theorem inodeOf_write {inode : Inode} {offset : ℕ}
    {bytes : List UInt8} :
    (files.write inode offset bytes).inodeOf = files.inodeOf := rfl

theorem contents_write_self {inode : Inode} {offset : ℕ} {bytes : List UInt8} :
    (files.write inode offset bytes).contents inode =
      overwrite (files.contents inode) offset bytes :=
  Function.update_self ..

theorem contents_write_of_ne {inode written : Inode} {offset : ℕ}
    {bytes : List UInt8} (h : inode ≠ written) :
    (files.write written offset bytes).contents inode = files.contents inode :=
  Function.update_of_ne h ..

@[simp] theorem write_nil {inode : Inode} {offset : ℕ} :
    files.write inode offset [] = files := by
  rw [write, overwrite, if_pos rfl, Function.update_eq_self]

/-- A name of another file reads what it did. -/
theorem read_write_of_ne {inode : Inode} {offset : ℕ} {bytes : List UInt8}
    (h : files.inodeOf name ≠ some inode) :
    (files.write inode offset bytes).read name = files.read name := by
  rw [read, read, inodeOf_write]
  cases hname : files.inodeOf name with
  | none => rfl
  | some named =>
      refine congrArg some (files.contents_write_of_ne ?_)
      rintro rfl
      exact h hname

/-- The file that opening a name to write gives, a new one if there is none. -/
def opened (name : ν) : Inode := (files.inodeOf name).getD files.unused

theorem ne_opened (h : other ≠ name) {inode : Inode}
    (hother : files.inodeOf other = some inode) : inode ≠ files.opened name := by
  rw [opened]
  cases hname : files.inodeOf name with
  | none => exact files.ne_unused hother
  | some named =>
      rintro rfl
      exact h (files.inodeOf_inj other name _ hother hname)

variable [DecidableEq ν]

/-- The name is opened for writing, and its file truncated. -/
def openTruncated (name : ν) : Files ν where
  inodeOf := Function.update files.inodeOf name (some (files.opened name))
  contents := Function.update files.contents (files.opened name) []
  unused := max files.unused (files.opened name + 1)
  lt_unused := by
    intro other inode h
    by_cases hother : other = name
    · rw [hother, Function.update_self] at h
      obtain rfl := Option.some.inj h
      exact Nat.lt_of_lt_of_le (Nat.lt_succ_self _) (Nat.le_max_right ..)
    · rw [Function.update_of_ne hother] at h
      exact Nat.lt_of_lt_of_le (files.lt_unused other inode h) (Nat.le_max_left ..)
  inodeOf_inj := by
    intro first second inode hfirst hsecond
    by_cases h1 : first = name
    · by_cases h2 : second = name
      · exact h1.trans h2.symm
      · rw [h1, Function.update_self] at hfirst
        rw [Function.update_of_ne h2] at hsecond
        exact absurd (Option.some.inj hfirst).symm (files.ne_opened h2 hsecond)
    · rw [Function.update_of_ne h1] at hfirst
      by_cases h2 : second = name
      · rw [h2, Function.update_self] at hsecond
        exact absurd (Option.some.inj hsecond).symm (files.ne_opened h1 hfirst)
      · rw [Function.update_of_ne h2] at hsecond
        exact files.inodeOf_inj first second inode hfirst hsecond

@[simp] theorem inodeOf_openTruncated_self :
    (files.openTruncated name).inodeOf name = some (files.opened name) :=
  Function.update_self ..

@[simp] theorem contents_openTruncated_self :
    (files.openTruncated name).contents (files.opened name) = [] :=
  Function.update_self ..

theorem contents_openTruncated_of_ne {inode : Inode}
    (h : inode ≠ files.opened name) :
    (files.openTruncated name).contents inode = files.contents inode :=
  Function.update_of_ne h ..

/-- Opening one name leaves what the others read. -/
theorem read_openTruncated_of_ne (h : other ≠ name) :
    (files.openTruncated name).read other = files.read other := by
  have hinode : (files.openTruncated name).inodeOf other = files.inodeOf other :=
    Function.update_of_ne h ..
  rw [read, read, hinode]
  cases hother : files.inodeOf other with
  | none => rfl
  | some inode =>
      exact congrArg some
        (files.contents_openTruncated_of_ne (files.ne_opened h hother))

/-- The file of one name has the other, whose own file loses it. -/
def renamed (old new : ν) : Files ν where
  inodeOf := Function.update (Function.update files.inodeOf old none) new
    (files.inodeOf old)
  contents := files.contents
  unused := files.unused
  lt_unused := by
    intro name inode h
    by_cases hnew : name = new
    · rw [hnew, Function.update_self] at h
      exact files.lt_unused old inode h
    · rw [Function.update_of_ne hnew] at h
      by_cases hold : name = old
      · rw [hold, Function.update_self] at h
        cases h
      · rw [Function.update_of_ne hold] at h
        exact files.lt_unused name inode h
  inodeOf_inj := by
    -- the names that keep their files are neither of the two
    have hkept : ∀ name inode, name ≠ new →
        Function.update (Function.update files.inodeOf old none) new
          (files.inodeOf old) name = some inode →
        name ≠ old ∧ files.inodeOf name = some inode := by
      intro name inode hnew h
      rw [Function.update_of_ne hnew] at h
      by_cases hold : name = old
      · rw [hold, Function.update_self] at h
        cases h
      · rw [Function.update_of_ne hold] at h
        exact ⟨hold, h⟩
    intro first second inode hfirst hsecond
    by_cases h1 : first = new
    · by_cases h2 : second = new
      · exact h1.trans h2.symm
      · rw [h1, Function.update_self] at hfirst
        obtain ⟨hne, hinode⟩ := hkept second inode h2 hsecond
        exact absurd (files.inodeOf_inj second old inode hinode hfirst) hne
    · obtain ⟨hne, hinode⟩ := hkept first inode h1 hfirst
      by_cases h2 : second = new
      · rw [h2, Function.update_self] at hsecond
        exact absurd (files.inodeOf_inj first old inode hinode hsecond) hne
      · exact files.inodeOf_inj first second inode hinode
          (hkept second inode h2 hsecond).2

/-- Without a file to rename it fails. -/
def rename (old new : ν) : Option (Files ν) :=
  (files.inodeOf old).map fun _ => files.renamed old new

/-- Under the new name the file of the old one is read. -/
theorem read_of_rename {files' : Files ν} {old new : ν}
    (h : files.rename old new = some files') :
    ∃ inode, files.inodeOf old = some inode ∧
      files'.read new = some (files.contents inode) := by
  obtain ⟨inode, hinode, rfl⟩ := Option.map_eq_some_iff.mp h
  refine ⟨inode, hinode, ?_⟩
  have hnew : (files.renamed old new).inodeOf new = files.inodeOf old :=
    Function.update_self ..
  rw [read, hnew, hinode]
  rfl

theorem contents_of_rename {files' : Files ν} {old new : ν}
    (h : files.rename old new = some files') :
    files'.contents = files.contents := by
  obtain ⟨inode, -, rfl⟩ := Option.map_eq_some_iff.mp h
  rfl

end Files

end Support
