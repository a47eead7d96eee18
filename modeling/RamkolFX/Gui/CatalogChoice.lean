import RamkolFX.Gui.CatalogView
import RamkolFX.Support.Interleaving

/-!
# Choices from a list

A client chooses a row of the list it received last, and its request carries
the row's index and no name.  Meanwhile rebuilds replace the catalog, so that
an index may come to stand for another source than the one shown.
-/

namespace RamkolFX

open Support HrtfCatalog

/-! ## A client and the daemon -/

/-- A list a client received, and the files that its catalog was built from. -/
structure ShownCatalog where
  names : List ByteString
  files : HrtfFiles

/-- A request about the catalog; a choice comes with the list it was made
from. -/
inductive CatalogRequest
  | getHrtfCatalog
  | setHrtfFile (position : ℕ) (shown : ShownCatalog)

def CatalogRequest.frame : CatalogRequest → Frame
  | getHrtfCatalog => getHrtfCatalogFrame
  | setHrtfFile position _ => setHrtfFileFrame (UInt8.ofNat position)

/-- A response to a fetch, and the files of the catalog at that time. -/
structure CatalogResponse where
  bytes : List UInt8
  files : HrtfFiles

/-- The daemon and the files it read last, the list a client shows, and what is
in flight between them. -/
structure CatalogSession (α : Type) where
  daemon : AudioEngine.Daemon α
  files : HrtfFiles
  shown : ShownCatalog
  requests : List CatalogRequest := []
  responses : List CatalogResponse := []

/-- Messages arrive in any order, and a lost connection loses any of them.
Whatever else happens to the daemon comes between, rebuilds included. -/
inductive CatalogEvent (α : Type)
  | requestHrtfCatalog
  | setHrtfFile (position : ℕ)
  | handle (k : ℕ)
  | receive (k : ℕ)
  | loseRequest (k : ℕ)
  | loseResponse (k : ℕ)
  | daemon (event : AudioEngine.Event α)

namespace CatalogSession

variable {α : Type} [FloatArith α]

def start (setup : DaemonSetup α) (store : SettingsStore)
    (devices : DeviceRegistry) : CatalogSession α where
  daemon := ⟨.run setup store devices, []⟩
  files := setup.files
  shown := ⟨[], setup.files⟩

/-- A list that does not decode leaves the old one on the screen. -/
def step (setup : DaemonSetup α) (session : CatalogSession α) :
    CatalogEvent α → Option (CatalogSession α)
  | .requestHrtfCatalog =>
      some { session with requests := session.requests ++ [.getHrtfCatalog] }
  | .setHrtfFile position =>
      if position < session.shown.names.length then
        some { session with
          requests := session.requests ++ [.setHrtfFile position session.shown] }
      else none
  | .handle k => do
      let request ← session.requests[k]?
      let daemon ←
        AudioEngine.step setup session.daemon (.request request.frame true)
      let requests := session.requests.eraseIdx k
      match request with
      | .getHrtfCatalog =>
          let bytes := daemon.responses.getLast?.getD []
          return { session with
            daemon, requests
            responses := session.responses ++ [⟨bytes, session.files⟩] }
      | .setHrtfFile _ _ => return { session with daemon, requests }
  | .receive k => do
      let response ← session.responses[k]?
      let responses := session.responses.eraseIdx k
      match ClientCall.requestHrtfCatalog.returns response.bytes with
      | some (.hrtfCatalog names) =>
          return { session with shown := ⟨names, response.files⟩, responses }
      | _ => return { session with responses }
  | .loseRequest k =>
      some { session with requests := session.requests.eraseIdx k }
  | .loseResponse k =>
      some { session with responses := session.responses.eraseIdx k }
  | .daemon event => do
      let daemon ← AudioEngine.step setup session.daemon event
      return { session with
        daemon, files := event.filesRead.getD session.files }

omit [FloatArith α]

/-- If the event is a choice that switches the source, then to one with the
name that the list shows. -/
def SwitchesAsShown (session : CatalogSession α) : CatalogEvent α → Prop
  | .handle k => ∀ position shown,
      session.requests[k]? = some (.setHrtfFile position shown) →
      ∀ entry, AudioEngine.selectedEntry session.daemon.engine.catalog
          (Request.setHrtfFile (UInt8.ofNat position)).command = some entry →
        shown.names[position]? = some entry.displayName
  | _ => True

/-- If the event is a choice, then the catalog of the files read last has at
its index nothing, or the name that the catalog of the files of the list has. -/
def SameNameAt (session : CatalogSession α) : CatalogEvent α → Prop
  | .handle k => ∀ position shown,
      session.requests[k]? = some (.setHrtfFile position shown) →
      ∀ name, (catalogNames session.files)[position]? = some name →
        (catalogNames shown.files)[position]? = some name
  | _ => True

/-! ## Lists are prefixes of catalogs -/

/-- A list is a prefix of the names of its catalog. -/
def IsPrefix (shown : ShownCatalog) : Prop :=
  shown.names <+: catalogNames shown.files

/-- The catalog is the one of the files read last, and what is shown, chosen
from and in flight are lists of the files they come with. -/
structure Accounted (session : CatalogSession α) : Prop where
  engine : session.daemon.engine.Sound
  catalog : session.daemon.engine.catalog.runtimeHrtfCatalog =
    newCatalog session.files
  shown : IsPrefix session.shown
  requests : ∀ position shown,
    CatalogRequest.setHrtfFile position shown ∈ session.requests →
    position < shown.names.length ∧ IsPrefix shown
  responses : ∀ response ∈ session.responses,
    response.bytes = encodeHrtfCatalogResponse (catalogNames response.files)

theorem IsPrefix.of_returns {files : HrtfFiles} {names : List ByteString}
    (h : ClientCall.requestHrtfCatalog.returns
      (encodeHrtfCatalogResponse (catalogNames files)) =
        some (.hrtfCatalog names)) : IsPrefix ⟨names, files⟩ := by
  obtain ⟨kept, hkept, hreturns⟩ :=
    ClientCall.returns_requestHrtfCatalog (catalogNames files)
  obtain rfl : kept = names := ClientValue.hrtfCatalog.inj
    (Option.some.inj (hreturns.symm.trans h))
  exact hkept.isPrefix

/-- A row of a list has the name of its catalog's entry, and its position fits
the index byte. -/
theorem IsPrefix.row {shown : ShownCatalog} (h : IsPrefix shown) {position : ℕ}
    (hlt : position < shown.names.length) :
    (UInt8.ofNat position).toNat = position ∧
      shown.names[position]? = (catalogNames shown.files)[position]? := by
  obtain ⟨behind, hnames⟩ := h
  constructor
  · have hlength := congrArg List.length hnames
    rw [List.length_append, catalogNames, List.length_map] at hlength
    have hentry : position < (newCatalog shown.files).length := by omega
    exact toNat_ofNat_of_lt hentry
  · rw [← hnames, List.getElem?_append_left hlt]

section

variable [FloatArith α] {setup : DaemonSetup α} {session session' : CatalogSession α}
  {event : CatalogEvent α}

theorem accounted_start (setup : DaemonSetup α) (store : SettingsStore)
    (devices : DeviceRegistry) : (start setup store devices).Accounted := by
  obtain ⟨hsound, hcatalog⟩ := AudioEngine.runtimeHrtfCatalog_runFrom
    (runFrom_nil (⟨.run setup store devices, []⟩ : AudioEngine.Daemon α))
  refine ⟨hsound, hcatalog, List.nil_prefix, ?_, ?_⟩
  · intro position shown hmem
    cases hmem
  · intro response hmem
    cases hmem

/-- What an event leaves of the daemon. -/
theorem Accounted.daemonStep (h : session.Accounted)
    {daemonEvent : AudioEngine.Event α} {daemon' : AudioEngine.Daemon α}
    (hstep : AudioEngine.step setup session.daemon daemonEvent = some daemon') :
    AudioEngine.Stepped setup session.daemon daemonEvent daemon' ∧
      daemon'.engine.catalog.runtimeHrtfCatalog =
        newCatalog (daemonEvent.filesRead.getD session.files) := by
  obtain ⟨stepped, hstep', hstepped⟩ := h.engine.step setup daemonEvent
  obtain rfl := Option.some.inj (hstep.symm.trans hstep')
  refine ⟨hstepped, ?_⟩
  rw [AudioEngine.runtimeHrtfCatalog_of_step h.engine hstep, h.catalog]
  cases daemonEvent.filesRead <;> rfl

/-- The response to a fetch is the list of the files read last. -/
theorem Accounted.response (h : session.Accounted)
    {daemon' : AudioEngine.Daemon α}
    (hstep : AudioEngine.step setup session.daemon
      (.request getHrtfCatalogFrame true) = some daemon') :
    daemon'.responses.getLast?.getD [] =
      encodeHrtfCatalogResponse (catalogNames session.files) := by
  obtain ⟨hstepped, hcatalog⟩ := h.daemonStep hstep
  have hcommand : (AudioEngine.Event.request getHrtfCatalogFrame true :
      AudioEngine.Event α).command = some Request.getHrtfCatalog.command :=
    command_getHrtfCatalogFrame
  rw [hstepped.responses, hcommand, Option.map_some, Option.toList_some,
    List.getLast?_concat, Option.getD_some]
  exact congrArg encodeHrtfCatalogResponse
    (congrArg (List.map HrtfCatalogEntry.displayName) hcatalog)

theorem Accounted.step (h : session.Accounted)
    (hstep : session.step setup event = some session') : session'.Accounted := by
  cases event with
  | requestHrtfCatalog =>
      obtain rfl := Option.some.inj hstep
      refine { h with requests := fun position shown hmem => ?_ }
      rcases List.mem_append.mp hmem with hold | hnew
      · exact h.requests position shown hold
      · cases List.mem_singleton.mp hnew
  | setHrtfFile row =>
      rw [CatalogSession.step] at hstep
      split at hstep
      · rename_i hrow
        obtain rfl := Option.some.inj hstep
        refine { h with requests := fun position shown hmem => ?_ }
        rcases List.mem_append.mp hmem with hold | hnew
        · exact h.requests position shown hold
        · obtain ⟨rfl, rfl⟩ := CatalogRequest.setHrtfFile.inj
            (List.mem_singleton.mp hnew)
          exact ⟨hrow, h.shown⟩
      · cases hstep
  | handle k =>
      obtain ⟨request, hrequest, hstep⟩ := Option.bind_eq_some_iff.mp hstep
      obtain ⟨daemon', hdaemon, hstep⟩ := Option.bind_eq_some_iff.mp hstep
      obtain ⟨hstepped, hcatalog⟩ := h.daemonStep hdaemon
      have hrequests : ∀ position shown,
          .setHrtfFile position shown ∈ session.requests.eraseIdx k →
          position < shown.names.length ∧ IsPrefix shown :=
        fun position shown hmem =>
          h.requests position shown (List.mem_of_mem_eraseIdx hmem)
      cases request with
      | getHrtfCatalog =>
          obtain rfl := Option.some.inj hstep
          refine ⟨hstepped.sound, hcatalog, h.shown, hrequests, ?_⟩
          intro response hmem
          rcases List.mem_append.mp hmem with hold | hnew
          · exact h.responses response hold
          · obtain rfl := List.mem_singleton.mp hnew
            exact h.response hdaemon
      | setHrtfFile position shown =>
          obtain rfl := Option.some.inj hstep
          exact ⟨hstepped.sound, hcatalog, h.shown, hrequests, h.responses⟩
  | receive k =>
      obtain ⟨response, hresponse, hstep⟩ := Option.bind_eq_some_iff.mp hstep
      have hbytes := h.responses response (List.mem_of_getElem? hresponse)
      have hresponses : ∀ other ∈ session.responses.eraseIdx k,
          other.bytes = encodeHrtfCatalogResponse (catalogNames other.files) :=
        fun other hmem => h.responses other (List.mem_of_mem_eraseIdx hmem)
      dsimp only at hstep
      split at hstep
      · rename_i names hreturns
        obtain rfl := Option.some.inj hstep
        rw [hbytes] at hreturns
        exact ⟨h.engine, h.catalog, .of_returns hreturns, h.requests, hresponses⟩
      · obtain rfl := Option.some.inj hstep
        exact { h with responses := hresponses }
  | loseRequest k =>
      obtain rfl := Option.some.inj hstep
      refine { h with requests := fun position shown hmem => ?_ }
      exact h.requests position shown (List.mem_of_mem_eraseIdx hmem)
  | loseResponse k =>
      obtain rfl := Option.some.inj hstep
      refine { h with responses := fun response hmem => ?_ }
      exact h.responses response (List.mem_of_mem_eraseIdx hmem)
  | daemon daemonEvent =>
      obtain ⟨daemon', hdaemon, hstep⟩ := Option.bind_eq_some_iff.mp hstep
      obtain ⟨hstepped, hcatalog⟩ := h.daemonStep hdaemon
      obtain rfl := Option.some.inj hstep
      exact ⟨hstepped.sound, hcatalog, h.shown, h.requests, h.responses⟩

end

/-- A choice switches as shown exactly if its index has kept its name. -/
theorem Accounted.switchesAsShown_iff {session : CatalogSession α}
    (h : session.Accounted) (event : CatalogEvent α) :
    session.SwitchesAsShown event ↔ session.SameNameAt event := by
  cases event with
  | handle k =>
      constructor
      · intro hshows position shown hrequest name hname
        obtain ⟨hlt, hprefix⟩ :=
          h.requests position shown (List.mem_of_getElem? hrequest)
        obtain ⟨hbyte, hrow⟩ := hprefix.row hlt
        rw [catalogNames, List.getElem?_map] at hname
        obtain ⟨entry, hentry, rfl⟩ := Option.map_eq_some_iff.mp hname
        rw [← hrow]
        refine hshows position shown hrequest entry ?_
        rw [AudioEngine.selectedEntry_setHrtfFile, h.catalog, hbyte, hentry]
      · intro hsame position shown hrequest entry hselected
        obtain ⟨hlt, hprefix⟩ :=
          h.requests position shown (List.mem_of_getElem? hrequest)
        obtain ⟨hbyte, hrow⟩ := hprefix.row hlt
        rw [AudioEngine.selectedEntry_setHrtfFile, h.catalog, hbyte] at hselected
        rw [hrow]
        exact hsame position shown hrequest _ (catalogNames_getElem? hselected)
  | _ => exact Iff.rfl

/-- In every interleaving, choices switch to sources with the names shown exactly
as long as each is handled while its index has the name it had in the list. -/
theorem switchesAsShown_run_iff [FloatArith α] (setup : DaemonSetup α)
    (store : SettingsStore) (devices : DeviceRegistry)
    (run : List (CatalogEvent α)) :
    AtEachEvent (StepMeets (step setup) SwitchesAsShown
        (start setup store devices)) run ↔
      AtEachEvent (StepMeets (step setup) SameNameAt
        (start setup store devices)) run := by
  refine stepMeets_congr (fun past session event hreached => ?_) run
  have haccounted : session.Accounted :=
    invariant_of_runFrom Accounted (accounted_start setup store devices)
      (fun _ _ _ hinv hstep => hinv.step hstep) hreached
  exact haccounted.switchesAsShown_iff event

/-! ## A file that takes a row -/

/-- A fetch with nothing else in flight shows what fits of the catalog. -/
theorem exists_shown_of_fetch [FloatArith α] {setup : DaemonSetup α}
    {daemon : AudioEngine.Daemon α} {files : HrtfFiles} {shown : ShownCatalog}
    (h : (⟨daemon, files, shown, [], []⟩ : CatalogSession α).Accounted) :
    ∃ daemon' names, IsLongestFitting stringBytes (catalogNames files) names ∧
      runFrom (step setup) ⟨daemon, files, shown, [], []⟩
        [.requestHrtfCatalog, .handle 0, .receive 0] =
          some ⟨daemon', files, ⟨names, files⟩, [], []⟩ := by
  obtain ⟨daemon', hstep, -⟩ :=
    h.engine.step setup (.request getHrtfCatalogFrame true)
  obtain ⟨names, hnames, hreturns⟩ :=
    ClientCall.returns_requestHrtfCatalog (catalogNames files)
  have hhandle : (⟨daemon, files, shown, [.getHrtfCatalog], []⟩ :
      CatalogSession α).step setup (.handle 0) =
        some ⟨daemon', files, shown, [],
          [⟨encodeHrtfCatalogResponse (catalogNames files), files⟩]⟩ := by
    have hresponse : daemon'.responses.getLast?.getD [] =
      encodeHrtfCatalogResponse (catalogNames files) := h.response hstep
    rw [← hresponse]
    simp only [step, List.getElem?_cons_zero, Option.bind_eq_bind,
      Option.bind_some, CatalogRequest.frame, hstep]
    rfl
  have hreceive : (⟨daemon', files, shown, [],
      [⟨encodeHrtfCatalogResponse (catalogNames files), files⟩]⟩ :
        CatalogSession α).step setup (.receive 0) =
          some ⟨daemon', files, ⟨names, files⟩, [], []⟩ := by
    rw [step, List.getElem?_cons_zero, Option.bind_eq_bind, Option.bind_some]
    simp only [hreturns]
    rfl
  have hsent : runFrom (step setup) ⟨daemon, files, shown, [], []⟩
      [.requestHrtfCatalog] =
        some ⟨daemon, files, shown, [.getHrtfCatalog], []⟩ := rfl
  exact ⟨daemon', names, hnames,
    runFrom_concat_of (runFrom_concat_of hsent hhandle) hreceive⟩

theorem catalogNames_a : catalogNames (AudioEngine.oneUserFile (ascii "a.sofa")) =
    [ascii "default", ascii "(user) a"] := by
  rw [catalogNames, AudioEngine.newCatalog_a]
  rfl

theorem catalogNames_b : catalogNames (AudioEngine.oneUserFile (ascii "b.sofa")) =
    [ascii "default", ascii "(user) b"] := by
  rw [catalogNames, AudioEngine.newCatalog_b]
  rfl

/-- The list is fetched, the file in its second row is replaced by another one,
and the second row is chosen. -/
theorem switchesAsShown_lost :
    ¬ AtEachEvent (StepMeets (step AudioEngine.oneUserFileSetup) SwitchesAsShown
        (start AudioEngine.oneUserFileSetup ⟨none, true⟩ .new))
      [.requestHrtfCatalog, .handle 0, .receive 0,
        .daemon (.hrtfDirectoryChanged (AudioEngine.oneUserFile (ascii "b.sofa"))),
        .setHrtfFile 1, .handle 0] := by
  intro h
  have hstart := accounted_start AudioEngine.oneUserFileSetup ⟨none, true⟩ .new
  have hkeeps : ∀ {past reached}, runFrom (step AudioEngine.oneUserFileSetup)
      (start AudioEngine.oneUserFileSetup ⟨none, true⟩ .new) past = some reached →
      reached.Accounted :=
    invariant_of_runFrom Accounted hstart (fun _ _ _ hinv hstep => hinv.step hstep)
  obtain ⟨fetched, names, hnames, hfetch⟩ := exists_shown_of_fetch hstart
  obtain ⟨rebuilt, hrebuild, -⟩ := (hkeeps hfetch).engine.step
    AudioEngine.oneUserFileSetup
    (.hrtfDirectoryChanged (AudioEngine.oneUserFile (ascii "b.sofa")))
  have hrow : names[1]? = some (ascii "(user) a") := by
    have hname : (catalogNames AudioEngine.oneUserFileSetup.files)[1]? =
        some (ascii "(user) a") := by
      show (catalogNames (AudioEngine.oneUserFile (ascii "a.sofa")))[1]? = _
      rw [catalogNames_a]
      rfl
    rw [hnames.getElem?_eq_some_iff hname]
    show listPayloadSize stringBytes
      ((catalogNames (AudioEngine.oneUserFile (ascii "a.sofa"))).take 2) ≤ _
    rw [catalogNames_a]
    decide
  obtain ⟨hlt, -⟩ := List.getElem?_eq_some_iff.mp hrow
  let shown : ShownCatalog := ⟨names, AudioEngine.oneUserFileSetup.files⟩
  have hreplaced : step AudioEngine.oneUserFileSetup
      ⟨fetched, AudioEngine.oneUserFileSetup.files, shown, [], []⟩
      (.daemon (.hrtfDirectoryChanged (AudioEngine.oneUserFile (ascii "b.sofa")))) =
        some ⟨rebuilt, AudioEngine.oneUserFile (ascii "b.sofa"), shown, [], []⟩ := by
    rw [step, hrebuild]
    rfl
  have hsent : step AudioEngine.oneUserFileSetup
      ⟨rebuilt, AudioEngine.oneUserFile (ascii "b.sofa"), shown, [], []⟩
      (.setHrtfFile 1) =
        some ⟨rebuilt, AudioEngine.oneUserFile (ascii "b.sofa"), shown,
          [.setHrtfFile 1 shown], []⟩ := if_pos hlt
  have hchosen := runFrom_concat_of (runFrom_concat_of hfetch hreplaced) hsent
  have hshows := h _ (.handle 0) (List.prefix_refl _) _ hchosen
  have hsame := (hkeeps hchosen).switchesAsShown_iff (.handle 0) |>.mp hshows
  have hname := hsame 1 shown rfl (ascii "(user) b") (by rw [catalogNames_b]; rfl)
  have ha : (catalogNames shown.files)[1]? = some (ascii "(user) a") := by
    show (catalogNames (AudioEngine.oneUserFile (ascii "a.sofa")))[1]? = _
    rw [catalogNames_a]
    rfl
  exact absurd (ha.symm.trans hname) (by decide)

end CatalogSession

end RamkolFX
