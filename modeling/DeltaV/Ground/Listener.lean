import DeltaV.Ground.Model

/-!
# What the listener records

A datagram is recorded when its header names a kind of packet and the payload that was read is long
enough for it, unless the checksum was read and is wrong (`records_iff`). The checksum is looked for
behind the announced length, which nothing protects, so a datagram that ends before it is recorded
without a check.
-/

namespace DeltaV

namespace Gds

/-! ## Datagrams -/

/-- The sync word in the header of a datagram. -/
def syncWord (datagram : List UInt8) : ℕ := le (slice datagram 0 4)

/-- The kind of packet that the header names. -/
def apid (datagram : List UInt8) : ℕ := le (slice datagram 4 2)

/-- The length of the payload that the header announces. -/
def announced (datagram : List UInt8) : ℕ := le (slice datagram 8 2)

/-- As much of the announced payload as there is. -/
def payload (datagram : List UInt8) : List UInt8 :=
  slice datagram HEADER_FMT.sum (announced datagram)

/-- The bytes of the checksum behind the announced payload, as far as there are any. -/
def checksum (datagram : List UInt8) : List UInt8 :=
  slice datagram (HEADER_FMT.sum + announced datagram) CRC_FMT.sum

/-- A header with the sync word, the whole announced payload and its checksum. -/
structure Verified (datagram : List UInt8) : Prop where
  header_complete : HEADER_FMT.sum ≤ datagram.length
  sync_word : syncWord datagram = CCSDS_SYNC_WORD
  complete : HEADER_FMT.sum + announced datagram + CRC_FMT.sum ≤ datagram.length
  checked : crc16 (payload datagram) = unpackCrc (checksum datagram)

/-- What the listener reads of a datagram. -/
def received (datagram : List UInt8) : List UInt8 := datagram.take 2048

/-- A header with the sync word that names a kind of packet, and a payload long enough for it. -/
structure Recordable (datagram : List UInt8) : Prop where
  length_ge : HEADER_FMT.sum + CRC_FMT.sum ≤ datagram.length
  sync_word : syncWord datagram = CCSDS_SYNC_WORD
  kind : apid datagram = 10 ∧ 12 ≤ (payload (received datagram)).length ∨
    apid datagram = 20 ∧ 36 ≤ (payload (received datagram)).length

/-- The listener reads the checksum of a datagram. -/
def ChecksumRead (datagram : List UInt8) : Prop :=
  HEADER_FMT.sum + announced datagram + CRC_FMT.sum ≤ min datagram.length 2048

/-- The listener writes a row or a line, or changes the mission state that is shown. -/
def Records (components : ℕ → Option Text) (g : Gds) (ts : Text) (datagram : List UInt8) : Prop :=
  (udpListener components g ts datagram).data_file ≠ g.data_file ∨
    (udpListener components g ts datagram).event_file ≠ g.event_file ∨
    (udpListener components g ts datagram).mission_state ≠ g.mission_state

/-! ## What the listener does -/

variable {components : ℕ → Option Text} {g : Gds} {ts : Text} {datagram : List UInt8}

/-- The header is read from the first bytes of the data. -/
theorem unpackHeader_take (data : List UInt8) :
    unpackHeader (data.take HEADER_FMT.sum) =
      (syncWord data, apid data, le (slice data 6 2), announced data) := by
  have hread : ∀ off len, off + len ≤ 10 → slice (data.take 10) off len = slice data off len :=
    fun off len h => slice_take h
  have hsize : HEADER_FMT.sum = 10 := rfl
  simp only [unpackHeader, hsize, hread, syncWord, apid, announced, Nat.reduceAdd, Nat.reduceLeDiff]

/-- The header that the listener reads is that of the datagram. -/
theorem unpackHeader_received :
    unpackHeader ((received datagram).take HEADER_FMT.sum) =
      (syncWord datagram, apid datagram, le (slice datagram 6 2), announced datagram) := by
  have hshort : HEADER_FMT.sum ≤ 2048 := by decide
  rw [received, List.take_take, min_eq_left hshort, unpackHeader_take]

/-- The fields that the listener reads are those of the datagram. -/
theorem announced_received : announced (received datagram) = announced datagram := by
  rw [announced, received, slice_take (by decide)]
  rfl

/-- The listener gets a datagram up to the size of its buffer. -/
theorem length_received (datagram : List UInt8) : (received datagram).length = min 2048 datagram.length :=
  List.length_take

/-- The checksum is read in full when it is within the bytes that are read. -/
theorem checksumRead_iff :
    ChecksumRead datagram ↔ (checksum (received datagram)).length = CRC_FMT.sum := by
  have hsize : CRC_FMT.sum = 2 := rfl
  rw [checksum, length_slice, length_received, announced_received, ChecksumRead, hsize]
  omega

/-- A checksum that is read is that of the datagram, and so is the payload before it. -/
theorem received_of_checksumRead (h : ChecksumRead datagram) :
    payload (received datagram) = payload datagram ∧
      checksum (received datagram) = checksum datagram := by
  have hle : HEADER_FMT.sum + announced datagram + CRC_FMT.sum ≤ 2048 := le_trans h (min_le_right ..)
  rw [payload, payload, checksum, checksum, announced_received]
  exact ⟨slice_take (by omega), slice_take hle⟩

/-- The record of a packet. -/
def record (components : ℕ → Option Text) (g : Gds) (ts : Text) (apid : ℕ) (payload : List UInt8) :
    Gds :=
  if apid = 10 then
    let (_, comp_id, value) := unpackTelem (payload.take 12)
    { g with data_file := g.data_file ++ telemetryRow components ts comp_id value }
  else
    let (severity, src_id, msg_b) := unpackEvent (payload.take 36)
    let msg := decodeMessage msg_b
    let g := g.showState msg
    { g with event_file := g.event_file ++ eventLine components ts severity src_id msg }

/-- The listener records a packet unless its checksum was read and is wrong. -/
def Passes (datagram : List UInt8) : Prop :=
  Recordable datagram ∧
    (ChecksumRead datagram → crc16 (payload datagram) = unpackCrc (checksum datagram))

/-- The listener records what passes, and ignores everything else. -/
theorem udpListener_cases (components : ℕ → Option Text) (g : Gds) (ts : Text)
    (datagram : List UInt8) :
    Passes datagram ∧ udpListener components g ts datagram =
        record components g ts (apid datagram) (payload (received datagram)) ∨
      ¬Passes datagram ∧ udpListener components g ts datagram = g := by
  have hlen := length_received datagram
  have hsize : HEADER_FMT.sum + CRC_FMT.sum = 12 := rfl
  have hpayload : slice (received datagram) HEADER_FMT.sum (announced datagram) =
      payload (received datagram) := by
    rw [payload, announced_received]
  have hchecksum : slice (received datagram) (HEADER_FMT.sum + announced datagram) CRC_FMT.sum =
      checksum (received datagram) := by
    rw [checksum, announced_received]
  simp only [udpListener, show datagram.take 2048 = received datagram from rfl,
    unpackHeader_received, hpayload, hchecksum]
  split_ifs with hshort hsync hbad htelem hevent
  · exact Or.inr ⟨fun h => absurd h.1.length_ge (by omega), rfl⟩
  · exact Or.inr ⟨fun h => hsync h.1.sync_word, rfl⟩
  · refine Or.inr ⟨fun h => hbad.2 ?_, rfl⟩
    have hread := checksumRead_iff.mpr hbad.1
    obtain ⟨hpay, hsum⟩ := received_of_checksumRead hread
    rw [hpay, hsum]
    exact h.2 hread
  all_goals
    -- The checksum is compared only when the datagram was long enough to hold it.
    have hgood : ChecksumRead datagram → crc16 (payload datagram) = unpackCrc (checksum datagram) := by
      intro hread
      obtain ⟨hpay, hsum⟩ := received_of_checksumRead hread
      rw [← hpay, ← hsum]
      exact not_not.mp fun hne => hbad ⟨checksumRead_iff.mp hread, hne⟩
  · refine Or.inl ⟨⟨⟨by omega, not_not.mp hsync, Or.inl htelem⟩, hgood⟩, ?_⟩
    rw [record, if_pos htelem.1]
  · refine Or.inl ⟨⟨⟨by omega, not_not.mp hsync, Or.inr hevent⟩, hgood⟩, ?_⟩
    rw [record, if_neg (by omega)]
  · exact Or.inr ⟨fun h => h.1.kind.elim htelem hevent, rfl⟩

/-- Showing a state leaves the file of events alone. -/
@[simp] theorem event_file_showState (msg : Text) : (g.showState msg).event_file = g.event_file := by
  unfold showState
  cases parseStateFromEvent msg <;> rfl

/-- A line is written for what passes, so the ground records it. -/
theorem records_iff : Records components g ts datagram ↔ Passes datagram := by
  have happend : ∀ {xs ys : Text}, ys ≠ [] → xs ++ ys ≠ xs := by
    intro xs ys hne h
    exact hne (List.append_right_eq_self.mp h)
  rcases udpListener_cases components g ts datagram with ⟨hpass, heq⟩ | ⟨hpass, heq⟩
  · refine iff_of_true ?_ hpass
    rw [Records, heq]
    by_cases htelem : apid datagram = 10
    · rw [record, if_pos htelem]
      refine Or.inl (happend ?_)
      simp [telemetryRow, ascii]
    · rw [record, if_neg htelem]
      refine Or.inr (Or.inl ?_)
      simp only [event_file_showState]
      refine happend ?_
      simp [eventLine, ascii]
  · refine iff_of_false ?_ hpass
    rw [Records, heq]
    simp

/-! ## Unverified packets -/

/-- The checksum of a datagram is right, but lies behind the bytes that are read. -/
structure ChecksumBeyond (datagram : List UInt8) : Prop where
  unread : 2048 < HEADER_FMT.sum + announced datagram + CRC_FMT.sum
  complete : HEADER_FMT.sum + announced datagram + CRC_FMT.sum ≤ datagram.length
  checked : crc16 (payload datagram) = unpackCrc (checksum datagram)

/-- The ground records nothing unverified from a datagram exactly when it is not recordable, its
checksum is read, or its checksum is right although it is not read. -/
theorem records_only_verified_iff (datagram : List UInt8) :
    (∀ components g ts, Records components g ts datagram → Verified datagram) ↔
      (Recordable datagram → ChecksumRead datagram ∨ ChecksumBeyond datagram) := by
  constructor
  · intro honly hrec
    by_cases hread : ChecksumRead datagram
    · exact Or.inl hread
    · -- A checksum that is not read stops nothing.
      have hpass : Passes datagram := ⟨hrec, fun h => absurd h hread⟩
      have hver := honly (fun _ => none) create [] (records_iff.mpr hpass)
      have hlong : 2048 < HEADER_FMT.sum + announced datagram + CRC_FMT.sum := by
        by_contra hle
        exact hread (le_min hver.complete (not_lt.mp hle))
      exact Or.inr ⟨hlong, hver.complete, hver.checked⟩
  · intro hcond components g ts hrecords
    obtain ⟨hrec, hgood⟩ := records_iff.mp hrecords
    have hheader : HEADER_FMT.sum ≤ datagram.length := le_trans (Nat.le_add_right _ _) hrec.length_ge
    rcases hcond hrec with hread | hbeyond
    · exact ⟨hheader, hrec.sync_word, le_trans hread (min_le_left ..), hgood hread⟩
    · exact ⟨hheader, hrec.sync_word, hbeyond.complete, hbeyond.checked⟩

/-- A telemetry frame that is cut off before its checksum is recorded. -/
theorem records_unverified :
    let datagram : List UInt8 :=
      [0x1D, 0xFC, 0xCF, 0x1A, 10, 0, 0, 0, 12, 0, 0, 0, 0, 0, 100, 0, 0, 0, 0, 0, 0x80, 0x3F]
    Records (fun _ => none) create (ascii "12:00:00") datagram ∧ ¬Verified datagram := by
  refine ⟨Or.inl (by decide +kernel), fun h => absurd h.complete (by decide)⟩

end Gds

end DeltaV
