import DeltaV.Bridge.Frame
import DeltaV.Serializer

/-!
# The downlink side of the telemetry bridge

`sendTelemetry` and `sendEvents` send what waits in their ports, each packet in a frame of its own
with the next number of its kind. Over a link that takes every frame, the frames sent are the frames
of the packets that waited, in order (`sent_drain`). What has been sent does not wait any more
(`pending_drain`).
-/

namespace DeltaV

/-- The frame of a payload: the checksum follows it, most significant byte first. -/
def buildFrame (apid seq : UInt16) (payload : List UInt8) : List UInt8 :=
  let hdr : CcsdsHeader := ⟨CCSDS_SYNC_WORD, apid, seq, UInt16.ofNat payload.length⟩
  let crc := Serializer.crc16 payload
  hdr.bytes ++ payload ++ [(crc >>> 8).toUInt8, (crc &&& 0xFF).toUInt8]

/-! ## State -/

/-- What a loop over a port reads and writes: the port, the number of the next frame, the component
that counts errors, and the frames sent so far. -/
structure Sender (T : Type*) where
  port : InputPort T DEFAULT_QUEUE_DEPTH
  seq : UInt16
  base : Component
  sent : List (List UInt8)

/-- The telemetry bridge, as far as the downlink reads and writes it. -/
structure Downlink where
  base : Component
  telem_in : InputPort (List UInt8) DEFAULT_QUEUE_DEPTH
  event_in : InputPort EventPacket DEFAULT_QUEUE_DEPTH
  telem_seq : UInt16
  event_seq : UInt16
  /-- The frames that the link took. -/
  sent : List (List UInt8)

namespace Sender

variable {T : Type*}

/-- Sends a frame; `link` says whether the link takes it. -/
def sendFrame (link : List UInt8 → Bool) (s : Sender T) (frame : List UInt8) : Sender T :=
  if link frame then { s with sent := s.sent ++ [frame] } else { s with base := s.base.recordError }

/-- Sends up to `fuel` packets. -/
def drain (link : List UInt8 → Bool) (apid : UInt16) (pack : T → List UInt8) :
    ℕ → Sender T → Sender T
  | 0, s => s
  | fuel + 1, s =>
    match s.port.tryConsume with
    | none => s
    | some (data, port) =>
      drain link apid pack fuel
        (sendFrame link { s with port := port, seq := s.seq + 1 } (buildFrame apid s.seq (pack data)))

end Sender

namespace Downlink

/-- Sends the telemetry packets that wait. -/
def sendTelemetry (link : List UInt8 → Bool) (d : Downlink) : Downlink :=
  let s := Sender.drain link Apid.TELEMETRY id d.telem_in.queue.size
    ⟨d.telem_in, d.telem_seq, d.base, d.sent⟩
  { d with telem_in := s.port, telem_seq := s.seq, base := s.base, sent := s.sent }

/-- Sends the events that wait. -/
def sendEvents (link : List UInt8 → Bool) (d : Downlink) : Downlink :=
  let s := Sender.drain link Apid.EVENT Serializer.packEvent d.event_in.queue.size
    ⟨d.event_in, d.event_seq, d.base, d.sent⟩
  { d with event_in := s.port, event_seq := s.seq, base := s.base, sent := s.sent }

end Downlink

/-! ## The frames sent -/

/-- The frames of payloads, numbered from `seq` on. -/
def frames (apid : UInt16) : UInt16 → List (List UInt8) → List (List UInt8)
  | _, [] => []
  | seq, payload :: payloads => buildFrame apid seq payload :: frames apid (seq + 1) payloads

/-- There is a frame for each payload. -/
theorem length_frames (apid seq : UInt16) (payloads : List (List UInt8)) :
    (frames apid seq payloads).length = payloads.length := by
  induction payloads generalizing seq with
  | nil => rfl
  | cons payload payloads ih => rw [frames, List.length_cons, List.length_cons, ih]

namespace Sender

variable {T : Type*}

/-- Over a link that takes every frame, the oldest packets are sent in order. -/
theorem sent_drain {link : List UInt8 → Bool} (hlink : ∀ frame, link frame = true) (apid : UInt16)
    (pack : T → List UInt8) (fuel : ℕ) (s : Sender T) :
    (drain link apid pack fuel s).sent =
      s.sent ++ frames apid s.seq ((s.port.pending.take fuel).map pack) := by
  induction fuel generalizing s with
  | zero =>
    rw [List.take_zero]
    exact (List.append_nil _).symm
  | succ fuel ih =>
    unfold drain
    rcases hport : s.port.tryConsume with _ | ⟨data, port⟩
    · rw [(s.port.tryConsume_eq_none_iff).mp hport]
      exact (List.append_nil _).symm
    · simp only [ih, sendFrame, hlink, if_true, InputPort.tryConsume_eq_some hport,
        List.take_succ_cons, List.map_cons, frames, List.append_assoc, List.singleton_append]

/-- The packets that are sent do not wait any more, whether the link takes them or not. -/
theorem pending_drain (link : List UInt8 → Bool) (apid : UInt16) (pack : T → List UInt8)
    (fuel : ℕ) (s : Sender T) :
    (drain link apid pack fuel s).port.pending = s.port.pending.drop fuel := by
  induction fuel generalizing s with
  | zero => rfl
  | succ fuel ih =>
    unfold drain
    rcases hport : s.port.tryConsume with _ | ⟨data, port⟩
    · rw [(s.port.tryConsume_eq_none_iff).mp hport]
      exact List.drop_nil.symm
    · have hframe (s : Sender T) (frame : List UInt8) : (sendFrame link s frame).port = s.port := by
        unfold sendFrame
        split_ifs <;> rfl
      simp only [ih, hframe, InputPort.tryConsume_eq_some hport, List.drop_succ_cons]

end Sender

namespace Downlink

/-- Over a link that takes every frame, the telemetry that waits is sent in order. -/
theorem sent_sendTelemetry {link : List UInt8 → Bool} (hlink : ∀ frame, link frame = true)
    (d : Downlink) :
    (d.sendTelemetry link).sent = d.sent ++ frames Apid.TELEMETRY d.telem_seq d.telem_in.pending := by
  rw [sendTelemetry, Sender.sent_drain hlink, ← InputPort.length_pending, List.take_length,
    List.map_id]

/-- Over a link that takes every frame, the events that wait are sent in order. -/
theorem sent_sendEvents {link : List UInt8 → Bool} (hlink : ∀ frame, link frame = true)
    (d : Downlink) :
    (d.sendEvents link).sent =
      d.sent ++ frames Apid.EVENT d.event_seq (d.event_in.pending.map Serializer.packEvent) := by
  rw [sendEvents, Sender.sent_drain hlink, ← InputPort.length_pending, List.take_length]

/-- No telemetry waits after it has been sent. -/
theorem pending_sendTelemetry (link : List UInt8 → Bool) (d : Downlink) :
    (d.sendTelemetry link).telem_in.pending = [] := by
  rw [sendTelemetry, Sender.pending_drain, ← InputPort.length_pending, List.drop_length]

/-- No event waits after it has been sent. -/
theorem pending_sendEvents (link : List UInt8 → Bool) (d : Downlink) :
    (d.sendEvents link).event_in.pending = [] := by
  rw [sendEvents, Sender.pending_drain, ← InputPort.length_pending, List.drop_length]

end Downlink

end DeltaV
