import DeltaV.Bridge.Kiss

/-!
# The datagram link

The uplink socket is read until nothing is there or `MAX_CMDS_PER_TICK` datagrams have been
processed. A datagram from an untrusted source is not counted, so a call keeps its bound of 20
datagrams only in the cases of `withinBudget_iff`. The trusted source is an address in network byte
order, read by a little-endian host; the default is a constant in host order
(`isTrusted_iff_of_default`).
-/

namespace DeltaV

/-- The size of the largest payload of an uplink datagram. -/
def MAX_UPLINK_PAYLOAD : ℕ := 64

/-- How the bridge is linked to the ground. -/
inductive LinkMode where
  | UDP
  | SERIAL_KISS
deriving DecidableEq, Repr

/-- An address, as its four octets. -/
structure IPv4 where
  a : UInt8
  b : UInt8
  c : UInt8
  d : UInt8
deriving DecidableEq, Repr

/-- The field `s_addr` of an address on a little-endian host: the octets lie in memory in network
byte order. -/
def IPv4.s_addr (ip : IPv4) : UInt32 := UInt32.ofNat (le [ip.a, ip.b, ip.c, ip.d])

/-- The address of the host itself, as a number in host byte order. -/
def INADDR_LOOPBACK : UInt32 := 0x7F000001

/-- A datagram with its source. -/
structure Datagram where
  source : IPv4
  data : List UInt8
deriving DecidableEq, Repr

/-- The bridge with what the datagram link reads besides the uplink state. -/
structure UdpLink where
  bridge : TelemetryBridge
  link_mode : LinkMode
  uplink_enabled : Bool
  allowed_uplink_addr : UInt32

namespace UdpLink

/-- The link before its configuration is loaded. -/
def create (bridge : TelemetryBridge) (link_mode : LinkMode) : UdpLink :=
  ⟨bridge, link_mode, true, INADDR_LOOPBACK⟩

/-- Loads the configuration from the environment: whether the uplink is enabled, and the address it
trusts. The library function `inet_aton` reads a dotted address. -/
def loadUplinkConfiguration (inet_aton : Text → Option IPv4) (u : UdpLink)
    (enable_env allow_ip_env : Option Text) : UdpLink :=
  let u := { u with
    uplink_enabled :=
      if u.link_mode = LinkMode.SERIAL_KISS then true else decide (enable_env = some (ascii "1")) }
  match allow_ip_env with
  | none => u
  | some text =>
    if text = [] then u
    else
      match inet_aton text with
      | some parsed => { u with allowed_uplink_addr := parsed.s_addr }
      | none => { u with bridge := u.bridge.recordError }

/-- Whether a datagram comes from the trusted source. -/
def isTrustedUplinkSource (u : UdpLink) (client : IPv4) : Bool :=
  decide (client.s_addr = u.allowed_uplink_addr)

/-- The size of the receive buffer. -/
def BUF_SIZE : ℕ := CCSDS_HEADER_SIZE + MAX_UPLINK_PAYLOAD

/-- The loop over the datagrams: `recv k` is what the call of `recvfrom` finds after `k` datagrams
have been consumed, `none` when nothing is there. Returns the link and the number of datagrams
consumed, or `none` when the fuel runs out. -/
def receiveLoop (recv : ℕ → Option Datagram) : ℕ → UdpLink → ℕ → ℕ → Option (UdpLink × ℕ)
  | 0, _, _, _ => none
  | fuel + 1, u, processed, consumed =>
    if processed < MAX_CMDS_PER_TICK then
      match recv consumed with
      | none => some (u, consumed)
      | some client =>
        let data := client.data.take BUF_SIZE
        if data = [] then some (u, consumed + 1)
        else if u.isTrustedUplinkSource client.source = false then
          receiveLoop recv fuel { u with bridge := u.bridge.reject.recordError } processed
            (consumed + 1)
        else
          receiveLoop recv fuel { u with bridge := (u.bridge.processIncomingFrame data).1 }
            (processed + 1) (consumed + 1)
    else some (u, consumed)

/-- One call. -/
def receiveCommandsUdp (recv : ℕ → Option Datagram) (fuel : ℕ) (u : UdpLink) :
    Option (UdpLink × ℕ) := receiveLoop recv fuel u 0 0

/-! ## The bound -/

/-- The call returns after at most `MAX_CMDS_PER_TICK` datagrams. -/
def WithinBudget (recv : ℕ → Option Datagram) (u : UdpLink) : Prop :=
  ∃ fuel r, receiveCommandsUdp recv fuel u = some r ∧ r.2 ≤ MAX_CMDS_PER_TICK

/-- The loop ends here: nothing is there, or an empty datagram. -/
def Ends (found : Option Datagram) : Prop := ∀ client ∈ found, client.data = []

/-- A datagram from the trusted source is there. -/
def Trusted (u : UdpLink) (found : Option Datagram) : Prop :=
  ∃ client ∈ found, u.isTrustedUplinkSource client.source = true

/-- The loop returns, with at most `MAX_CMDS_PER_TICK` datagrams consumed in all. -/
def Stops (recv : ℕ → Option Datagram) (u : UdpLink) (processed consumed : ℕ) : Prop :=
  ∃ fuel r, receiveLoop recv fuel u processed consumed = some r ∧ r.2 ≤ MAX_CMDS_PER_TICK

section Loop

variable {recv : ℕ → Option Datagram} {u v : UdpLink} {processed consumed processed' : ℕ}

/-- The loop returns here. -/
theorem stops_of_return {n : ℕ}
    (h : ∀ fuel, receiveLoop recv (fuel + 1) u processed consumed = some (v, n)) :
    Stops recv u processed consumed ↔ n ≤ MAX_CMDS_PER_TICK := by
  constructor
  · rintro ⟨fuel, r, hr, hle⟩
    cases fuel with
    | zero => cases hr
    | succ fuel =>
      rw [h] at hr
      cases hr
      exact hle
  · intro hle
    exact ⟨1, _, h 0, hle⟩

/-- The loop goes on behind one more datagram. -/
theorem stops_of_continue
    (h : ∀ fuel, receiveLoop recv (fuel + 1) u processed consumed =
      receiveLoop recv fuel v processed' (consumed + 1)) :
    Stops recv u processed consumed ↔ Stops recv v processed' (consumed + 1) := by
  constructor
  · rintro ⟨fuel, r, hr, hle⟩
    cases fuel with
    | zero => cases hr
    | succ fuel => exact ⟨fuel, r, (h fuel).symm.trans hr, hle⟩
  · rintro ⟨fuel, r, hr, hle⟩
    exact ⟨fuel + 1, r, (h fuel).trans hr, hle⟩

/-- The loop consumes and never gives back. -/
theorem le_of_receiveLoop {fuel : ℕ} {r : UdpLink × ℕ}
    (h : receiveLoop recv fuel u processed consumed = some r) : consumed ≤ r.2 := by
  induction fuel generalizing u processed consumed with
  | zero => cases h
  | succ fuel ih =>
    rw [receiveLoop] at h
    split_ifs at h
    · cases hrecv : recv consumed with
      | none =>
        rw [hrecv] at h
        cases h
        exact le_rfl
      | some client =>
        rw [hrecv] at h
        simp only at h
        split_ifs at h
        · cases h
          exact Nat.le_succ _
        · exact (Nat.le_succ _).trans (ih h)
        · exact (Nat.le_succ _).trans (ih h)
    · cases h
      exact le_rfl

/-- The loop ends where nothing is there, and consumes an empty datagram before. -/
theorem stops_of_ends (hlt : processed < MAX_CMDS_PER_TICK) (hends : Ends (recv consumed)) :
    Stops recv u processed consumed ↔
      consumed + (if recv consumed = none then 0 else 1) ≤ MAX_CMDS_PER_TICK := by
  refine stops_of_return (v := u) fun fuel => ?_
  rw [receiveLoop, if_pos hlt]
  cases hrecv : recv consumed with
  | none => rfl
  | some client =>
    have hdata : client.data.take BUF_SIZE = [] := by rw [hends client hrecv, List.take_nil]
    simp [hdata]

/-- A datagram that is not empty is refused or processed, and the loop goes on. -/
theorem stops_of_some {client : Datagram} (hlt : processed < MAX_CMDS_PER_TICK)
    (hrecv : recv consumed = some client) (hdata : client.data ≠ []) :
    ∃ bridge, Stops recv u processed consumed ↔
      Stops recv { u with bridge := bridge }
        (processed + if u.isTrustedUplinkSource client.source then 1 else 0) (consumed + 1) := by
  have htake : client.data.take BUF_SIZE ≠ [] := by
    rw [Ne, List.take_eq_nil_iff]
    exact not_or.mpr ⟨by decide, hdata⟩
  cases htrust : u.isTrustedUplinkSource client.source with
  | false =>
    refine ⟨u.bridge.reject.recordError, stops_of_continue fun fuel => ?_⟩
    rw [receiveLoop, if_pos hlt, hrecv]
    simp [htake, htrust]
  | true =>
    refine ⟨(u.bridge.processIncomingFrame (client.data.take BUF_SIZE)).1,
      stops_of_continue fun fuel => ?_⟩
    rw [receiveLoop, if_pos hlt, hrecv]
    simp [htake, htrust]

/-- Where the loop does not end, a datagram that is not empty is there. -/
theorem exists_of_not_ends {found : Option Datagram} (h : ¬Ends found) :
    ∃ client, found = some client ∧ client.data ≠ [] := by
  unfold Ends at h
  push Not at h
  exact h

/-- After 20 datagrams the loop keeps its bound exactly when it has counted every one or finds nothing
behind them. -/
theorem stops_at_limit (hprocessed : processed ≤ 20) :
    Stops recv u processed 20 ↔ processed = 20 ∨ recv 20 = none := by
  rcases hprocessed.eq_or_lt with rfl | hlt
  · have hret : ∀ fuel, receiveLoop recv (fuel + 1) u 20 20 = some (u, 20) := fun _ => rfl
    exact iff_of_true ((stops_of_return hret).mpr le_rfl) (Or.inl rfl)
  · rw [or_iff_right hlt.ne]
    by_cases hends : Ends (recv 20)
    · rw [stops_of_ends hlt hends]
      split_ifs with h
      · exact iff_of_true le_rfl h
      · exact iff_of_false (by decide) h
    · -- The datagram behind the 20th is consumed.
      obtain ⟨client, hrecv, hdata⟩ := exists_of_not_ends hends
      obtain ⟨bridge, hiff⟩ := stops_of_some (u := u) hlt hrecv hdata
      rw [hiff, hrecv]
      refine iff_of_false ?_ (Option.some_ne_none client)
      rintro ⟨fuel, r, hr, hle⟩
      exact absurd ((le_of_receiveLoop hr).trans hle) (by decide)

/-- A datagram counts as trusted exactly when the test of its source says so. -/
theorem trusted_iff {client : Datagram} (hrecv : recv consumed = some client) :
    Trusted u (recv consumed) ↔ u.isTrustedUplinkSource client.source = true := by
  rw [hrecv]
  exact ⟨fun ⟨c, hc, h⟩ => Option.some.inj hc ▸ h, fun h => ⟨client, rfl, h⟩⟩

/-- The loop keeps its bound exactly when it ends within 20 datagrams, or has counted every one, or
finds nothing behind them. -/
theorem stops_iff (hprocessed : processed ≤ consumed) (hconsumed : consumed ≤ 20) :
    Stops recv u processed consumed ↔
      (∃ k, consumed ≤ k ∧ k < 20 ∧ Ends (recv k)) ∨
        (processed = consumed ∧ ∀ k, consumed ≤ k → k < 20 → Trusted u (recv k)) ∨
        recv 20 = none := by
  -- The induction is on the datagrams left within the bound.
  induction hm : 20 - consumed generalizing u processed consumed with
  | zero =>
    obtain rfl : consumed = 20 := by omega
    have hnone : ¬∃ k, 20 ≤ k ∧ k < 20 ∧ Ends (recv k) := by
      rintro ⟨k, hk, hk', -⟩
      omega
    have hall : ∀ k, 20 ≤ k → k < 20 → Trusted u (recv k) := fun k hk hk' => by omega
    rw [stops_at_limit hprocessed, or_iff_right hnone, and_iff_left hall]
  | succ m ih =>
    have hlt : processed < MAX_CMDS_PER_TICK := by
      show processed < 20
      omega
    by_cases hends : Ends (recv consumed)
    · rw [stops_of_ends hlt hends]
      refine iff_of_true ?_ (Or.inl ⟨consumed, le_rfl, by omega, hends⟩)
      show _ ≤ 20
      split_ifs <;> omega
    · obtain ⟨client, hrecv, hdata⟩ := exists_of_not_ends hends
      obtain ⟨bridge, hiff⟩ := stops_of_some (u := u) hlt hrecv hdata
      rw [hiff, ih (by split_ifs <;> omega) (by omega) (by omega)]
      -- The datagram here does not end the loop, and counts only if it is trusted.
      refine or_congr ?_ (or_congr ?_ Iff.rfl)
      · constructor
        · rintro ⟨k, hk, h⟩
          exact ⟨k, by omega, h⟩
        · rintro ⟨k, hk, hk', h⟩
          have hne : k ≠ consumed := by
            rintro rfl
            exact hends h
          exact ⟨k, by omega, hk', h⟩
      · constructor
        · rintro ⟨hcount, h⟩
          split_ifs at hcount with htrust
          · refine ⟨by omega, fun k hk hk' => ?_⟩
            rcases hk.eq_or_lt with rfl | hk
            · exact (trusted_iff hrecv).mpr htrust
            · exact h k hk hk'
          · omega
        · rintro ⟨rfl, h⟩
          rw [(trusted_iff hrecv).mp (h processed le_rfl (by omega))]
          exact ⟨rfl, fun k hk hk' => h k (by omega) hk'⟩

end Loop

/-- The bound on datagrams, for every link and every sequence of datagrams. A call returns after at
most 20 datagrams exactly when one of the first 20 receptions finds nothing or an empty datagram, or
all 20 find a datagram from the trusted source, or the one after them finds nothing. -/
theorem withinBudget_iff (recv : ℕ → Option Datagram) (u : UdpLink) :
    WithinBudget recv u ↔
      (∃ k, k < 20 ∧ Ends (recv k)) ∨ (∀ k, k < 20 → Trusted u (recv k)) ∨ recv 20 = none := by
  have h : Stops recv u 0 0 ↔ _ := stops_iff (le_refl 0) (Nat.zero_le 20)
  show Stops recv u 0 0 ↔ _
  simpa using h

/-- A flood from a source that is not trusted is consumed beyond the bound. -/
theorem flood_not_withinBudget :
    ¬WithinBudget (fun _ => some ⟨⟨10, 0, 0, 9⟩, [0]⟩)
      (create TelemetryBridge.silent LinkMode.UDP) := by
  intro h
  rcases (stops_iff (le_refl 0) (Nat.zero_le 20)).mp h with ⟨k, -, -, hends⟩ | ⟨-, htrust⟩ | hnone
  · exact absurd (hends _ rfl) (by decide)
  · obtain ⟨client, hclient, htrusted⟩ := htrust 0 le_rfl (by decide)
    cases hclient
    exact absurd htrusted (by decide)
  · cases hnone

/-! ## The trusted source -/

/-- The address that the environment configures, if it configures one. -/
def configured (inet_aton : Text → Option IPv4) (allow_ip_env : Option Text) : Option IPv4 :=
  match allow_ip_env with
  | none => none
  | some text => if text = [] then none else inet_aton text

/-- Addresses with the same number are the same. -/
theorem s_addr_inj {x y : IPv4} : x.s_addr = y.s_addr ↔ x = y := by
  constructor
  · intro h
    have hlt : ∀ ip : IPv4, le [ip.a, ip.b, ip.c, ip.d] < 2^32 := fun ip =>
      lt_of_lt_of_eq (le_lt [ip.a, ip.b, ip.c, ip.d]) (show 256^4 = 2^32 by norm_num)
    have hnum := congrArg UInt32.toNat h
    rw [IPv4.s_addr, IPv4.s_addr, UInt32.toNat_ofNat_of_lt' (hlt x),
      UInt32.toNat_ofNat_of_lt' (hlt y)] at hnum
    obtain ⟨xa, xb, xc, xd⟩ := x
    obtain ⟨ya, yb, yc, yd⟩ := y
    have hbytes := le_injective (by rfl) hnum
    simp only [List.cons.injEq, and_true] at hbytes
    rw [IPv4.mk.injEq]
    exact hbytes
  · rintro rfl
    rfl

/-- The trusted number is that of the configured address, or the default. -/
theorem loadUplinkConfiguration_addr (inet_aton : Text → Option IPv4) (u : UdpLink)
    (enable_env allow_ip_env : Option Text) :
    (u.loadUplinkConfiguration inet_aton enable_env allow_ip_env).allowed_uplink_addr =
      match configured inet_aton allow_ip_env with
      | some ip => ip.s_addr
      | none => u.allowed_uplink_addr := by
  unfold loadUplinkConfiguration configured
  cases allow_ip_env with
  | none => rfl
  | some text =>
    by_cases hempty : text = []
    · simp [hempty]
    · cases hparse : inet_aton text with
      | none => simp [hempty, hparse]
      | some ip => simp [hempty, hparse]

/-- In host byte order the loopback address is that of another host. -/
theorem loopback_eq : INADDR_LOOPBACK = IPv4.s_addr ⟨1, 0, 0, 127⟩ := by decide

/-- The trusted source, for every value of the environment variable and every source address. A
datagram is accepted exactly when it comes from the configured address, or from 127.0.0.1 when none
is configured, if and only if an address is configured or the source is neither 127.0.0.1 nor
1.0.0.127. -/
theorem trusted_source_iff (inet_aton : Text → Option IPv4) (bridge : TelemetryBridge)
    (link_mode : LinkMode) (enable_env allow_ip_env : Option Text) (source : IPv4) :
    (((create bridge link_mode).loadUplinkConfiguration inet_aton enable_env
          allow_ip_env).isTrustedUplinkSource source = true ↔
        source = (configured inet_aton allow_ip_env).getD ⟨127, 0, 0, 1⟩) ↔
      (configured inet_aton allow_ip_env).isSome = true ∨
        (source ≠ ⟨127, 0, 0, 1⟩ ∧ source ≠ ⟨1, 0, 0, 127⟩) := by
  unfold isTrustedUplinkSource
  rw [decide_eq_true_iff, loadUplinkConfiguration_addr]
  cases configured inet_aton allow_ip_env with
  | some ip => exact iff_of_true s_addr_inj (Or.inl rfl)
  | none =>
    show (source.s_addr = INADDR_LOOPBACK ↔ source = ⟨127, 0, 0, 1⟩) ↔ _
    rw [loopback_eq, s_addr_inj]
    -- The two addresses differ, so a source is at most one of them.
    have hne : (⟨1, 0, 0, 127⟩ : IPv4) ≠ ⟨127, 0, 0, 1⟩ := by decide
    constructor
    · intro h
      refine Or.inr ⟨fun hsource => ?_, fun hsource => ?_⟩
      · exact hne ((h.mpr hsource).symm.trans hsource)
      · exact hne (hsource.symm.trans (h.mp hsource))
    · rintro (h | ⟨h, h'⟩)
      · cases h
      · exact iff_of_false h' h

/-- With nothing configured, datagrams from 127.0.0.1 are refused. -/
theorem loopback_not_trusted :
    ((create TelemetryBridge.silent LinkMode.UDP).loadUplinkConfiguration (fun _ => none) none
      none).isTrustedUplinkSource ⟨127, 0, 0, 1⟩ = false := by
  decide

end UdpLink

end DeltaV
