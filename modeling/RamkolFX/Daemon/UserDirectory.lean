import RamkolFX.Daemon.HrtfCatalog

/-!
# The user's directory

A SOFA file is listed under its stem, whatever the case of its extension, and
the files are listed in the order of their paths.
-/

namespace RamkolFX

namespace FileName

/-- A stem, a dot and an extension without one are found again. -/
theorem extensionStart_append {front back : ByteString} (hfront : front ≠ [])
    (hback : back ≠ []) (hdot : dot ∉ back) :
    extensionStart (front ++ dot :: back) = front.length := by
  have hbehind : ((front ++ dot :: back).reverse.takeWhile (· ≠ dot)).length =
      back.length := by
    have hall : ∀ b ∈ back.reverse, decide (b ≠ dot) = true := by
      intro b hb
      refine decide_eq_true fun heq => hdot ?_
      rwa [heq, List.mem_reverse] at hb
    rw [List.reverse_append, List.reverse_cons, List.append_assoc,
      List.takeWhile_append_of_pos hall, List.singleton_append,
      List.takeWhile_cons_of_neg (by simp), List.append_nil, List.length_reverse]
  have hsplit : ¬ (dot ∉ front ++ dot :: back ∨
      back.length + 1 = (front ++ dot :: back).length ∨
      front ++ dot :: back = [dot, dot]) := by
    have hlength := List.length_pos_iff.mpr hfront
    rintro (hmem | heq | heq)
    · exact hmem (List.mem_append_right front List.mem_cons_self)
    · simp only [List.length_append, List.length_cons] at heq
      omega
    · have htwo := congrArg List.length heq
      have hlengthBack := List.length_pos_iff.mpr hback
      simp only [List.length_append, List.length_cons, List.length_nil] at htwo
      omega
  simp only [extensionStart, hbehind]
  rw [if_neg hsplit]
  simp only [List.length_append, List.length_cons]
  omega

theorem extension_append {front back : ByteString} (hfront : front ≠ [])
    (hback : back ≠ []) (hdot : dot ∉ back) :
    extension (front ++ dot :: back) = dot :: back := by
  rw [extension, extensionStart_append hfront hback hdot, List.drop_left]

theorem stem_append {front back : ByteString} (hfront : front ≠ [])
    (hback : back ≠ []) (hdot : dot ∉ back) :
    stem (front ++ dot :: back) = front := by
  rw [stem, extensionStart_append hfront hback hdot, List.take_left]

end FileName

namespace HrtfCatalog

/-- The entry of a SOFA file with this stem. -/
theorem userEntry_sofa (directoryPath : ByteString) {front : ByteString}
    (hfront : front ≠ []) :
    userEntry directoryPath ⟨front ++ ascii ".sofa", true⟩ = some
      { displayName := ascii "(user) " ++ front
        kind := .sofaFile
        path := FileName.join directoryPath (front ++ ascii ".sofa") } := by
  have hname : front ++ ascii ".sofa" =
      front ++ FileName.dot :: ascii "sofa" := rfl
  have hback : ascii "sofa" ≠ [] := by decide
  have hdot : FileName.dot ∉ ascii "sofa" := by decide
  rw [userEntry, if_neg (by simp), if_neg ?_]
  · rw [hname, FileName.stem_append hfront hback hdot]
  · rw [hname, FileName.extension_append hfront hback hdot]
    decide

/-- What a user entry is named after and where it is. -/
theorem eq_of_userEntry {directoryPath : ByteString}
    {dirEntry : DirectoryEntry} {entry : HrtfCatalogEntry}
    (h : userEntry directoryPath dirEntry = some entry) :
    entry =
      { displayName := ascii "(user) " ++ FileName.stem dirEntry.fileName
        kind := .sofaFile
        path := FileName.join directoryPath dirEntry.fileName } := by
  rw [userEntry] at h
  split at h
  · cases h
  · split at h
    · cases h
    · exact (Option.some.inj h).symm

/-! ## The order of the scan -/

theorem mem_scanUserHrtfDirectory {files : HrtfFiles} {entry : HrtfCatalogEntry} :
    entry ∈ scanUserHrtfDirectory files ↔
      ∃ dirEntry ∈ files.userDirectory,
        userEntry files.userHrtfDirectory dirEntry = some entry := by
  rw [scanUserHrtfDirectory, List.mem_mergeSort, List.mem_filterMap]

/-- An entry stands in front of no other with a smaller path. -/
theorem pairwise_scanUserHrtfDirectory (files : HrtfFiles) :
    (scanUserHrtfDirectory files).Pairwise fun a b => ¬ b.path < a.path := by
  have hsorted := @List.pairwise_mergeSort HrtfCatalogEntry
    (fun a b => decide (¬ b.path < a.path)) ?_ ?_
    (files.userDirectory.filterMap (userEntry files.userHrtfDirectory))
  · exact hsorted.imp of_decide_eq_true
  · intro a b c hab hbc
    refine decide_eq_true ?_
    exact List.le_trans (of_decide_eq_true hab) (of_decide_eq_true hbc)
  · intro a b
    simp only [Bool.or_eq_true, decide_eq_true_eq]
    exact List.le_total a.path b.path

/-- Entries found in the order of their paths stay in that order. -/
theorem scanUserHrtfDirectory_of_pairwise {files : HrtfFiles}
    {entries : List HrtfCatalogEntry}
    (hfound : files.userDirectory.filterMap (userEntry files.userHrtfDirectory) =
      entries)
    (hsorted : entries.Pairwise fun a b => ¬ b.path < a.path) :
    scanUserHrtfDirectory files = entries := by
  rw [scanUserHrtfDirectory, hfound]
  exact List.mergeSort_of_pairwise (hsorted.imp decide_eq_true)

end HrtfCatalog

end RamkolFX
