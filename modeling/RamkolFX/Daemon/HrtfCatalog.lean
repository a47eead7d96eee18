import RamkolFX.Dsp.BinauralVoice
import Mathlib.Data.List.Sort

/-!
# HRTF catalog

The HRTF sources a client can choose from: the bundled ones whose files exist,
then the SOFA files in the user's directory.
-/

namespace RamkolFX

structure HrtfCatalogEntry where
  displayName : ByteString
  kind : HrtfSourceKind
  /-- Empty for the synthetic model, which has no file. -/
  path : ByteString
  deriving DecidableEq, Repr

/-- A name in the user directory, in the order the iterator finds it. -/
structure DirectoryEntry where
  fileName : ByteString
  bRegularFile : Bool
  deriving DecidableEq, Repr

/-- What the catalog is built from: the configured list, the files on disk and
the environment. -/
structure HrtfFiles where
  /-- `HrtfCatalog`, generated by the build. -/
  bundled : List HrtfCatalogEntry
  /-- `std::filesystem::exists` -/
  exists_ : ByteString → Bool
  userHrtfDirectory : ByteString
  userDirectory : List DirectoryEntry
  /-- `DefaultHrtfSofaPath`, generated by the build. -/
  defaultHrtfSofaPath : ByteString
  /-- The variable `RAMKOLFX_HRTF_SOFA`. -/
  sofaOverride : Option ByteString

/-! ## File names -/

namespace FileName

def dot : UInt8 := '.'.toUInt8

/-- Where the extension starts; a leading dot starts none. -/
def extensionStart (fileName : ByteString) : ℕ :=
  let behindDot := (fileName.reverse.takeWhile (· ≠ dot)).length
  if dot ∉ fileName ∨ behindDot + 1 = fileName.length ∨
      fileName = [dot, dot] then fileName.length
  else fileName.length - (behindDot + 1)

/-- `path::extension` -/
def extension (fileName : ByteString) : ByteString :=
  fileName.drop (extensionStart fileName)

/-- `path::stem` -/
def stem (fileName : ByteString) : ByteString :=
  fileName.take (extensionStart fileName)

/-- `std::tolower` in the C locale. -/
def toLower (b : UInt8) : UInt8 :=
  if 'A'.toUInt8 ≤ b ∧ b ≤ 'Z'.toUInt8 then b + 32 else b

/-- A directory and a name joined by one slash. -/
def join (directory fileName : ByteString) : ByteString :=
  if directory.getLast? = some '/'.toUInt8 then directory ++ fileName
  else directory ++ '/'.toUInt8 :: fileName

end FileName

namespace HrtfCatalog

def buildHrtfCatalog (files : HrtfFiles) : List HrtfCatalogEntry :=
  files.bundled.filter fun entry =>
    entry.kind = .syntheticSphericalHead ∨ files.exists_ entry.path

/-- The catalog entry of a user file; `none` if it is not a SOFA file. -/
def userEntry (directoryPath : ByteString) (dirEntry : DirectoryEntry) :
    Option HrtfCatalogEntry :=
  if ¬ dirEntry.bRegularFile then none
  else if (FileName.extension dirEntry.fileName).map FileName.toLower ≠
      ascii ".sofa" then none
  else some
    { displayName := ascii "(user) " ++ FileName.stem dirEntry.fileName
      kind := .sofaFile
      path := FileName.join directoryPath dirEntry.fileName }

/-- Sorted by path, byte by byte. -/
def scanUserHrtfDirectory (files : HrtfFiles) : List HrtfCatalogEntry :=
  (files.userDirectory.filterMap (userEntry files.userHrtfDirectory)).mergeSort
    fun a b => decide (¬ b.path < a.path)

/-- What fits the one byte of an index on the wire. -/
def maxCatalogEntries : ℕ := 255

/-- `RuntimeHrtfCatalog` and `ActiveHrtfIndex`. -/
structure State where
  runtimeHrtfCatalog : List HrtfCatalogEntry := []
  activeHrtfIndex : UInt8 := 0
  deriving DecidableEq

/-- The first entry a test accepts becomes the active one. -/
def State.activateFirst (state : State) (test : HrtfCatalogEntry → Bool) :
    State :=
  match state.runtimeHrtfCatalog.findIdx? test with
  | some i => { state with activeHrtfIndex := UInt8.ofNat i }
  | none => state

/-- The active entry keeps its place by its display name. -/
def rebuildHrtfCatalog (files : HrtfFiles) (state : State) : State :=
  let newCatalog :=
    (buildHrtfCatalog files ++ scanUserHrtfDirectory files).take
      maxCatalogEntries
  let state' : State := { state with runtimeHrtfCatalog := newCatalog }
  match state.runtimeHrtfCatalog[state.activeHrtfIndex.toNat]? with
  | none => state'
  | some old =>
      state'.activateFirst fun entry => entry.displayName = old.displayName

/-! ## The initial source -/

/-- The entry of the persisted choice, which the environment overrides. -/
def persistedChoice (files : HrtfFiles) (activeHrtfDisplayName : ByteString)
    (state : State) : Option HrtfCatalogEntry :=
  if files.sofaOverride = none ∧ activeHrtfDisplayName ≠ [] then
    state.runtimeHrtfCatalog.find? fun entry =>
      activeHrtfDisplayName = entry.displayName
  else none

/-- `ResolveHrtfSofaPath` -/
def resolveHrtfSofaPath (files : HrtfFiles) : ByteString :=
  files.sofaOverride.getD files.defaultHrtfSofaPath

/-- Kind and path of the initial source, and the catalog with its entry
active if it has one. -/
def resolveInitialHrtf (files : HrtfFiles) (activeHrtfDisplayName : ByteString)
    (state : State) : HrtfSourceKind × ByteString × State :=
  match persistedChoice files activeHrtfDisplayName state with
  | some chosen =>
      (chosen.kind, chosen.path, state.activateFirst fun entry =>
        activeHrtfDisplayName = entry.displayName)
  | none =>
      let initialSofaPath := resolveHrtfSofaPath files
      (.sofaFile, initialSofaPath, state.activateFirst fun entry =>
        entry.kind = .sofaFile ∧ initialSofaPath = entry.path)

end HrtfCatalog

end RamkolFX
