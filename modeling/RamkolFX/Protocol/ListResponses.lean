import RamkolFX.Protocol.Responses

/-!
# Control protocol: list responses

A list response carries the longest prefix of the list that fits: its frame
is well formed, its payload decodes to that prefix with every string intact,
and no proper prefix of the payload decodes.  The argument is made once for
the shared layout and holds for each of the four list responses.
-/

namespace RamkolFX

open Support

/-- Size of the payload that carries `entries`: the count and the entries. -/
def listPayloadSize {α : Type}
    (entryBytes : α → List UInt8) (entries : List α) : ℕ :=
  2 + (entries.flatMap entryBytes).length

/-- `kept` is the longest prefix of `entries` whose payload fits. -/
structure IsLongestFitting {α : Type}
    (entryBytes : α → List UInt8) (entries kept : List α) : Prop where
  isPrefix : kept <+: entries
  fits : listPayloadSize entryBytes kept ≤ maxPayloadSize
  longest : ∀ other, other <+: entries →
    listPayloadSize entryBytes other ≤ maxPayloadSize → other <+: kept

/-- What a client makes of a list response. -/
structure ListDelivered {α : Type}
    (op : Opcode) (entryBytes : α → List UInt8)
    (decode : List UInt8 → Checked (Option (List α)))
    (entries : List α) (frame : List UInt8) : Prop where
  delivered : ∃ payload kept,
    WellFramed op frame payload ∧
    IsLongestFitting entryBytes entries kept ∧
    decode payload = .ok (some kept) ∧
    ∀ part, part <+: payload → part ≠ payload → decode part = .ok none

section

variable {α : Type} {entryBytes : α → List UInt8}

theorem listPayloadSize_append (xs ys : List α) :
    listPayloadSize entryBytes (xs ++ ys) =
      listPayloadSize entryBytes xs + (ys.flatMap entryBytes).length := by
  simp [listPayloadSize, Nat.add_assoc]

/-- The encoder's loop adds whole entries to the payload, counts them, and
stops only at the end of the list or before an entry that does not fit. -/
theorem appendEntries_spec
    (entryBytes : α → List UInt8) (as : List α) (payload : List UInt8)
    (count : UInt16)
    (h : payload.length ≤ maxPayloadSize) :
    ∃ kept rest, as = kept ++ rest ∧
      appendEntries entryBytes as payload count =
        (payload ++ kept.flatMap entryBytes,
          count + UInt16.ofNat kept.length) ∧
      payload.length + (kept.flatMap entryBytes).length ≤ maxPayloadSize ∧
      ∀ a tail, rest = a :: tail →
        maxPayloadSize < payload.length + (kept.flatMap entryBytes).length +
          (entryBytes a).length := by
  induction as generalizing payload count with
  | nil => exact ⟨[], [], rfl, by simp [appendEntries], by simpa, by simp⟩
  | cons a as ih =>
      by_cases hfit : maxPayloadSize < payload.length + (entryBytes a).length
      · refine ⟨[], a :: as, rfl, ?_, by simpa, ?_⟩
        · simp [appendEntries, hfit]
        · rintro b tail ⟨rfl, rfl⟩
          simpa using hfit
      · have hlen : (payload ++ entryBytes a).length ≤ maxPayloadSize := by
          simpa using Nat.le_of_not_lt hfit
        obtain ⟨kept, rest, hsplit, hrun, hsize, hstop⟩ :=
          ih (payload ++ entryBytes a) (count + 1) hlen
        refine ⟨a :: kept, rest, by simp [hsplit], ?_, ?_, ?_⟩
        · rw [appendEntries]
          simp only [hfit, if_false, hrun, List.flatMap_cons,
            List.append_assoc, List.length_cons, Prod.mk.injEq, true_and]
          rw [UInt16.ofNat_add, UInt16.add_assoc, UInt16.add_comm 1]
          rfl
        · simp only [List.length_append, List.flatMap_cons] at hsize ⊢
          omega
        · intro b tail hrest
          have hb := hstop b tail hrest
          simp only [List.length_append, List.flatMap_cons] at hb ⊢
          omega

/-- Entries that take at least one byte each number at most as many as the
payload has bytes. -/
theorem length_le_flatMap (hpos : ∀ a, 1 ≤ (entryBytes a).length)
    (as : List α) : as.length ≤ (as.flatMap entryBytes).length := by
  induction as with
  | nil => simp
  | cons a as ih =>
      have ha := hpos a
      simp only [List.length_cons, List.flatMap_cons, List.length_append]
      omega

/-- One entry takes no more bytes than all of them. -/
theorem length_le_of_mem
    (entryBytes : α → List UInt8) {a : α} {as : List α} (h : a ∈ as) :
    (entryBytes a).length ≤ (as.flatMap entryBytes).length := by
  obtain ⟨front, back, rfl⟩ := List.append_of_mem h
  simp only [List.flatMap_append, List.flatMap_cons, List.length_append]
  omega

/-- Stopping before the first entry that does not fit keeps the longest
fitting prefix. -/
theorem isLongestFitting_of_stop {kept rest : List α}
    (hfits : listPayloadSize entryBytes kept ≤ maxPayloadSize)
    (hstop : ∀ a tail, rest = a :: tail →
      maxPayloadSize < listPayloadSize entryBytes kept +
        (entryBytes a).length) :
    IsLongestFitting entryBytes (kept ++ rest) kept := by
  refine ⟨List.prefix_append _ _, hfits, ?_⟩
  intro other hother hsize
  rcases List.prefix_or_prefix_of_prefix hother (List.prefix_append kept rest)
    with h | h
  · exact h
  · obtain ⟨extra, rfl⟩ := h
    have hextra : extra <+: rest := (List.prefix_append_right_inj kept).mp hother
    cases extra with
    | nil => simp
    | cons a extra =>
        obtain ⟨tail, rfl⟩ := hextra
        have ha := hstop a (extra ++ tail) rfl
        rw [listPayloadSize_append] at hsize
        simp only [List.flatMap_cons, List.length_append] at hsize
        omega

theorem listPayloadSize_mono {front entries : List α}
    (h : front <+: entries) :
    listPayloadSize entryBytes front ≤ listPayloadSize entryBytes entries := by
  obtain ⟨back, rfl⟩ := h
  rw [listPayloadSize_append]
  exact Nat.le_add_right _ _

/-- An entry is delivered at its index exactly if the entries up to it fit. -/
theorem IsLongestFitting.getElem?_eq_some_iff {entries kept : List α}
    (h : IsLongestFitting entryBytes entries kept) {i : ℕ} {a : α}
    (ha : entries[i]? = some a) :
    kept[i]? = some a ↔
      listPayloadSize entryBytes (entries.take (i + 1)) ≤ maxPayloadSize := by
  obtain ⟨back, rfl⟩ := h.isPrefix
  constructor
  · intro hkept
    obtain ⟨hlt, -⟩ := List.getElem?_eq_some_iff.mp hkept
    have hfront : (kept ++ back).take (i + 1) <+: kept := by
      rw [List.take_append_of_le_length hlt]
      exact List.take_prefix _ _
    exact (listPayloadSize_mono hfront).trans h.fits
  · intro hfits
    have hfront := h.longest _ (List.take_prefix _ _) hfits
    obtain ⟨hi, -⟩ := List.getElem?_eq_some_iff.mp ha
    have hlt : i < kept.length := by
      have hle := hfront.length_le
      rw [List.length_take_of_le hi] at hle
      exact hle
    rwa [List.getElem?_append_left hlt] at ha

/-- Every entry is delivered at its index exactly if the whole list fits. -/
theorem IsLongestFitting.forall_getElem?_iff {entries kept : List α}
    (h : IsLongestFitting entryBytes entries kept) :
    (∀ (i : ℕ) a, entries[i]? = some a → kept[i]? = some a) ↔
      listPayloadSize entryBytes entries ≤ maxPayloadSize := by
  constructor
  · intro hall
    have hlength : entries.length ≤ kept.length := by
      by_contra hlt
      have hlast := hall kept.length _
        (List.getElem?_eq_getElem (Nat.lt_of_not_le hlt))
      rw [List.getElem?_eq_none (Nat.le_refl _)] at hlast
      cases hlast
    rw [← h.isPrefix.eq_of_length_le hlength]
    exact h.fits
  · intro hfits
    have hwhole := h.longest entries (List.prefix_refl _) hfits
    rw [h.isPrefix.eq_of_length_le hwhole.length_le]
    exact fun i a ha => ha

/-- A counted payload decodes to its entries, and no proper prefix of it
decodes. -/
theorem decodeListResponse_counted
    {entry : OffsetReader α} {as : List α}
    (hread : ∀ a ∈ as, OffsetReader.Reads entry (entryBytes a) a)
    (hlen : as.length < 2 ^ 16) :
    let payload :=
      bytesOfUInt16 (UInt16.ofNat as.length) ++ as.flatMap entryBytes
    decodeListResponse entry payload = .ok (some as) ∧
      ∀ part, part <+: payload → part ≠ payload →
        decodeListResponse entry part = .ok none := by
  intro payload
  have hcount : (UInt16.ofNat as.length).toNat = as.length := by
    rw [UInt16.toNat_ofNat']
    exact Nat.mod_eq_of_lt hlen
  have hentries := OffsetReader.Reads.times hread
  constructor
  · have hfront := uint16At_append [] (as.flatMap entryBytes)
      (UInt16.ofNat as.length)
    have htimes := hentries.complete
      (bytesOfUInt16 (UInt16.ofNat as.length)) []
    simp only [List.nil_append, List.length_nil] at hfront
    simp only [List.append_nil, length_bytesOfUInt16] at htimes
    have hcounted : ¬ payload.length < 2 := by
      simp only [payload, List.length_append, length_bytesOfUInt16]
      omega
    rw [decodeListResponse, if_neg hcounted]
    simp [payload, hfront, hcount, htimes]
  · intro part hpre hne
    rcases OffsetReader.properPrefix_append_cases hpre hne with
      ⟨hp, hne⟩ | ⟨body, rfl, hp, hne⟩
    · have hshort : part.length < 2 := by
        rcases Nat.lt_or_ge part.length 2 with hlt | hge
        · exact hlt
        · exact absurd (hp.eq_of_length_le (by simpa using hge)) hne
      simp [decodeListResponse, hshort]
    · have hfront := uint16At_append [] body (UInt16.ofNat as.length)
      have htimes := hentries.truncated
        (bytesOfUInt16 (UInt16.ofNat as.length)) body hp hne
      simp only [List.nil_append, List.length_nil] at hfront
      simp only [length_bytesOfUInt16] at htimes
      simp [decodeListResponse, hfront, hcount, htimes]

/-- The payload that counts `entries` and carries their bytes. -/
def listLayout (entryBytes : α → List UInt8) (entries : List α) : List UInt8 :=
  bytesOfUInt16 (UInt16.ofNat entries.length) ++ entries.flatMap entryBytes

theorem length_listLayout (entries : List α) :
    (listLayout entryBytes entries).length =
      listPayloadSize entryBytes entries := by
  rw [listLayout, List.length_append, length_bytesOfUInt16, listPayloadSize]

/-- The encoder lays out the longest prefix that fits. -/
theorem encodeListResponse_spec (op : Opcode) (entryBytes : α → List UInt8)
    (entries : List α) :
    ∃ kept, IsLongestFitting entryBytes entries kept ∧
      encodeListResponse op entryBytes entries =
        encodeMessage op (listLayout entryBytes kept) := by
  obtain ⟨kept, rest, rfl, hrun, hsize, hstop⟩ :=
    appendEntries_spec entryBytes entries [0, 0] 0
      (by simp [maxPayloadSize])
  refine ⟨kept, isLongestFitting_of_stop ?_ ?_, ?_⟩
  · simpa [listPayloadSize] using hsize
  · intro a tail hrest
    simpa [listPayloadSize] using hstop a tail hrest
  · simp only [encodeListResponse, hrun, UInt16.zero_add]
    rfl

/-- The shared layout delivers every list: the frame is well formed and
carries exactly the longest prefix that fits. -/
theorem encodeListResponse_delivered
    (op : Opcode) {entry : OffsetReader α}
    (hpos : ∀ a, 1 ≤ (entryBytes a).length)
    (hread : ∀ a, (entryBytes a).length ≤ maxPayloadSize →
      OffsetReader.Reads entry (entryBytes a) a)
    (entries : List α) :
    ListDelivered op entryBytes (decodeListResponse entry) entries
      (encodeListResponse op entryBytes entries) := by
  obtain ⟨kept, hkept, hframe⟩ := encodeListResponse_spec op entryBytes entries
  have hsize := hkept.fits
  have hmem : ∀ a ∈ kept, (entryBytes a).length ≤ maxPayloadSize := by
    intro a ha
    have hle := length_le_of_mem entryBytes ha
    simp only [listPayloadSize] at hsize
    omega
  have hcount : kept.length < 2 ^ 16 := by
    have hle := length_le_flatMap hpos kept
    simp only [listPayloadSize, maxPayloadSize] at hsize
    omega
  obtain ⟨hdecode, htrunc⟩ := decodeListResponse_counted
    (fun a ha => hread a (hmem a ha)) hcount
  refine ⟨_, kept, ?_, hkept, hdecode, htrunc⟩
  rw [hframe]
  exact wellFramed_encodeMessage (by rwa [length_listLayout])

end

/-! ## The four list responses -/

/-- One string as an entry. -/
theorem stringEntry_reads (value : ByteString)
    (h : (stringBytes value).length ≤ maxPayloadSize) :
    OffsetReader.Reads readString (stringBytes value) value := by
  apply readString_reads
  simp only [length_stringBytes, maxPayloadSize] at h
  omega

/-- Two strings as one entry. -/
theorem stringPair_reads {α : Type} {first second : ByteString}
    (make : ByteString → ByteString → α) (hfirst : first.length ≤ 0xFFFF)
    (hsecond : second.length ≤ 0xFFFF) :
    OffsetReader.Reads
      (do let a ← readString; let b ← readString; return make a b)
      (stringBytes first ++ stringBytes second) (make first second) := by
  have hmake := (readString_reads hsecond).bind
    (f := fun b => pure (make first b))
    (OffsetReader.Reads.pure (make first second))
  rw [List.append_nil] at hmake
  exact (readString_reads hfirst).bind hmake

/-- Two strings that fit a payload. -/
theorem stringPairEntry_reads {α : Type}
    (first second : ByteString) (make : ByteString → ByteString → α)
    (h : (stringBytes first ++ stringBytes second).length ≤ maxPayloadSize) :
    OffsetReader.Reads
      (do let a ← readString; let b ← readString; return make a b)
      (stringBytes first ++ stringBytes second) (make first second) := by
  simp only [List.length_append, length_stringBytes, maxPayloadSize] at h
  exact stringPair_reads make (by omega) (by omega)

def deviceEntryBytes (device : AudioDeviceInfo) : List UInt8 :=
  stringBytes device.name ++ stringBytes device.description

def streamEntryBytes (stream : ContentStreamInfo) : List UInt8 :=
  stringBytes stream.appName ++ stringBytes stream.mediaName

theorem deviceEntryBytes_eq :
    (fun device : AudioDeviceInfo =>
      appendString (appendString [] device.name) device.description) =
      deviceEntryBytes := by
  funext device
  simp [appendString_eq, deviceEntryBytes]

theorem streamEntryBytes_eq :
    (fun stream : ContentStreamInfo =>
      appendString (appendString [] stream.appName) stream.mediaName) =
      streamEntryBytes := by
  funext stream
  simp [appendString_eq, streamEntryBytes]

theorem appendString_nil : appendString [] = stringBytes := by
  funext value
  simp [appendString_eq]

theorem encodeDeviceListResponse_delivered (devices : List AudioDeviceInfo) :
    ListDelivered .deviceListResponse deviceEntryBytes
      decodeDeviceListResponse devices (encodeDeviceListResponse devices) := by
  rw [encodeDeviceListResponse, deviceEntryBytes_eq]
  refine encodeListResponse_delivered _ ?_ ?_ devices
  · intro device
    simp [deviceEntryBytes]
    omega
  · intro device h
    exact stringPairEntry_reads device.name device.description
      AudioDeviceInfo.mk h

theorem encodeContentStreamListResponse_delivered
    (streams : List ContentStreamInfo) :
    ListDelivered .contentStreamListResponse streamEntryBytes
      decodeContentStreamListResponse streams
      (encodeContentStreamListResponse streams) := by
  rw [encodeContentStreamListResponse, streamEntryBytes_eq]
  refine encodeListResponse_delivered _ ?_ ?_ streams
  · intro stream
    simp [streamEntryBytes]
    omega
  · intro stream h
    exact stringPairEntry_reads stream.appName stream.mediaName
      ContentStreamInfo.mk h

/-- The catalog responses: display names under an opcode of their own. -/
theorem encodeNameList_delivered (op : Opcode) (names : List ByteString) :
    ListDelivered op stringBytes (decodeListResponse readString) names
      (encodeListResponse op (appendString []) names) := by
  rw [appendString_nil]
  refine encodeListResponse_delivered op ?_ stringEntry_reads names
  intro value
  simp
  omega

/-- Every list response delivers the longest prefix of the list that fits. -/
theorem listResponses_delivered :
    (∀ devices, ListDelivered .deviceListResponse deviceEntryBytes
      decodeDeviceListResponse devices (encodeDeviceListResponse devices)) ∧
    (∀ names, ListDelivered .hrtfCatalogResponse stringBytes
      decodeHrtfCatalogResponse names (encodeHrtfCatalogResponse names)) ∧
    (∀ streams, ListDelivered .contentStreamListResponse streamEntryBytes
      decodeContentStreamListResponse streams
      (encodeContentStreamListResponse streams)) ∧
    (∀ names, ListDelivered .eqPresetCatalogResponse stringBytes
      decodeEqPresetCatalogResponse names
      (encodeEqPresetCatalogResponse names)) :=
  ⟨encodeDeviceListResponse_delivered, encodeNameList_delivered _,
    encodeContentStreamListResponse_delivered, encodeNameList_delivered _⟩

end RamkolFX
