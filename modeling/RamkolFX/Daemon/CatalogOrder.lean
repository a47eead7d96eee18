import RamkolFX.Daemon.ActiveHrtf
import RamkolFX.Daemon.UserDirectory

/-!
# Indices of the catalog

Clients choose a source by its index.  A directory may be enumerated in any
order, but the paths of two user files are never the same, so sorting by the
path undoes the enumeration, and the bundled sources stand in front of all
user files.
-/

namespace RamkolFX

theorem FileName.join_injective (directory : ByteString) :
    Function.Injective (FileName.join directory) := by
  intro fileName other h
  simp only [FileName.join] at h
  split at h
  · exact List.append_cancel_left h
  · exact (List.cons.inj (List.append_cancel_left h)).2

namespace HrtfCatalog

/-! ## The order of the user files -/

/-- No two user entries share their path. -/
theorem userEntry_path_injective {directoryPath : ByteString}
    {dirEntry other : DirectoryEntry} {entry otherEntry : HrtfCatalogEntry}
    (h : userEntry directoryPath dirEntry = some entry)
    (hother : userEntry directoryPath other = some otherEntry)
    (hpath : entry.path = otherEntry.path) : entry = otherEntry := by
  have hentry := eq_of_userEntry h
  have hotherEntry := eq_of_userEntry hother
  rw [hentry, hotherEntry] at hpath
  have hname := FileName.join_injective directoryPath hpath
  rw [hentry, hotherEntry, hname]

/-- Whatever sorts the user entries by their paths gives the same list. -/
theorem eq_scanUserHrtfDirectory {files : HrtfFiles}
    {entries : List HrtfCatalogEntry}
    (hperm : entries.Perm
      (files.userDirectory.filterMap (userEntry files.userHrtfDirectory)))
    (hsorted : entries.Pairwise fun a b => ¬ b.path < a.path) :
    entries = scanUserHrtfDirectory files := by
  have hscan : entries.Perm (scanUserHrtfDirectory files) :=
    hperm.trans (List.mergeSort_perm _ _).symm
  apply List.Perm.eq_of_pairwise ?_ hsorted (pairwise_scanUserHrtfDirectory files) hscan
  intro a b ha hb hab hba
  obtain ⟨dirEntry, -, hentry⟩ :=
    mem_scanUserHrtfDirectory.mp (hscan.mem_iff.mp ha)
  obtain ⟨other, -, hother⟩ := mem_scanUserHrtfDirectory.mp hb
  exact userEntry_path_injective hentry hother (List.le_antisymm hab hba)

theorem scanUserHrtfDirectory_of_perm (files : HrtfFiles)
    {contents : List DirectoryEntry} (h : contents.Perm files.userDirectory) :
    scanUserHrtfDirectory { files with userDirectory := contents } =
      scanUserHrtfDirectory files := by
  apply eq_scanUserHrtfDirectory
  · exact (List.mergeSort_perm _ _).trans (h.filterMap _)
  · exact pairwise_scanUserHrtfDirectory { files with userDirectory := contents }

/-! ## The rebuilt catalog -/

theorem newCatalog_of_perm (files : HrtfFiles) {contents : List DirectoryEntry}
    (h : contents.Perm files.userDirectory) :
    newCatalog { files with userDirectory := contents } = newCatalog files := by
  rw [newCatalog, scanUserHrtfDirectory_of_perm files h]
  rfl

/-- Up to the last index there is, the bundled entries come first. -/
theorem getElem?_newCatalog {files : HrtfFiles} {i : ℕ}
    (h : i < (buildHrtfCatalog files).length) (contents : List DirectoryEntry) :
    (newCatalog { files with userDirectory := contents })[i]? =
      if i < maxCatalogEntries then (buildHrtfCatalog files)[i]? else none := by
  have hbundled : buildHrtfCatalog { files with userDirectory := contents } =
      buildHrtfCatalog files := rfl
  rw [newCatalog, hbundled, List.getElem?_take, List.getElem?_append_left h]

/-- A rebuild does not depend on the order in which the user directory is
enumerated, and a bundled entry has the same index whatever that directory
holds. -/
theorem rebuildHrtfCatalog_indices (files : HrtfFiles) :
    (∀ contents : List DirectoryEntry, contents.Perm files.userDirectory →
      ∀ state, rebuildHrtfCatalog { files with userDirectory := contents } state =
        rebuildHrtfCatalog files state) ∧
    ∀ (contents other : List DirectoryEntry) (state otherState : State),
      ∀ i < (buildHrtfCatalog files).length,
        (rebuildHrtfCatalog { files with userDirectory := contents }
            state).runtimeHrtfCatalog[i]? =
          (rebuildHrtfCatalog { files with userDirectory := other }
            otherState).runtimeHrtfCatalog[i]? ∧
        (i < maxCatalogEntries →
          (rebuildHrtfCatalog { files with userDirectory := contents }
              state).runtimeHrtfCatalog[i]? = (buildHrtfCatalog files)[i]?) := by
  constructor
  · intro contents hperm state
    have hcatalog := newCatalog_of_perm files hperm
    rw [newCatalog, newCatalog] at hcatalog
    rw [rebuildHrtfCatalog, rebuildHrtfCatalog, hcatalog]
  · intro contents other state otherState i hi
    have hbundled (contents : List DirectoryEntry) (state : State) :
        (rebuildHrtfCatalog { files with userDirectory := contents }
            state).runtimeHrtfCatalog[i]? =
          if i < maxCatalogEntries then (buildHrtfCatalog files)[i]? else none := by
      rw [runtimeHrtfCatalog_rebuildHrtfCatalog, getElem?_newCatalog hi]
    constructor
    · rw [hbundled, hbundled]
    · intro hlimit
      rw [hbundled, if_pos hlimit]

/-- One bundled source, and two user files in either order. -/
theorem rebuildHrtfCatalog_indices_two :
    let a : DirectoryEntry := ⟨ascii "a.sofa", true⟩
    let b : DirectoryEntry := ⟨ascii "b.sofa", true⟩
    let files : HrtfFiles :=
      { bundled := [⟨ascii "Sphere", .syntheticSphericalHead, []⟩]
        exists_ := fun _ => false
        userHrtfDirectory := ascii "/hrtf"
        userDirectory := [a, b]
        defaultHrtfSofaPath := []
        sofaOverride := none }
    rebuildHrtfCatalog { files with userDirectory := [b, a] } {} =
        rebuildHrtfCatalog files {} ∧
      (rebuildHrtfCatalog { files with userDirectory := [] }
          {}).runtimeHrtfCatalog[0]? =
        (buildHrtfCatalog files)[0]? := by
  intro a b files
  obtain ⟨horder, hbundled⟩ := rebuildHrtfCatalog_indices files
  exact ⟨horder [b, a] (List.Perm.swap a b []) {},
    (hbundled [] [] {} {} 0 (by decide)).2 (by decide)⟩

end HrtfCatalog

end RamkolFX
