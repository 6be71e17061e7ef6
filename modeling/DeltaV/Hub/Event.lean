import DeltaV.Hub.FanOut

/-!
# The event hub

`EventHub` keeps the input ports it collects from and the input ports that its outputs are connected
to. Both registrations refuse what does not fit and say so on the console only. The ports belong to
the components behind them, so a step is told what they hold and returns what they hold then.
-/

namespace DeltaV

/-- The most sources of the event hub. -/
def MAX_EVENT_SOURCES : ℕ := 32

/-- The most listeners of the event hub. -/
def MAX_EVENT_LISTENERS : ℕ := 8

/-- The event broadcast. -/
structure EventHub (In : Type*) where
  base : Component
  /-- The ports that events are collected from. -/
  inputs : List In
  input_count_le : inputs.length ≤ MAX_EVENT_SOURCES
  /-- The listeners that the outputs are connected to. -/
  listeners : List In
  listener_count_le : listeners.length ≤ MAX_EVENT_LISTENERS

namespace EventHub

variable {In : Type*}

/-- A hub without connections. -/
def create (base : Component) : EventHub In := ⟨base, [], Nat.zero_le _, [], Nat.zero_le _⟩

/-- Collects from one more port, while there is room. -/
def registerEventSource (hub : EventHub In) (port : In) : EventHub In :=
  { hub with
    inputs := offer MAX_EVENT_SOURCES hub.inputs port
    input_count_le := length_offer_le hub.input_count_le port }

/-- Connects the next output to a listener, while there is room. -/
def registerListener (hub : EventHub In) (dest : In) : EventHub In :=
  { hub with
    listeners := offer MAX_EVENT_LISTENERS hub.listeners dest
    listener_count_le := length_offer_le hub.listener_count_le dest }

/-- The number of sources. -/
def getSourceCount (hub : EventHub In) : ℕ := hub.inputs.length

/-- The number of listeners. -/
def getListenerCount (hub : EventHub In) : ℕ := hub.listeners.length

/-- The hub as its loop sees it. -/
def fanOut (hub : EventHub In) (ports : In → InputPort EventPacket DEFAULT_QUEUE_DEPTH) :
    FanOut In EventPacket := ⟨hub.base, ports, []⟩

/-- `EventHub::step()`; before the `n`th event is sent on, the owner of a port takes `others n`
events from it. -/
def step [DecidableEq In] (hub : EventHub In)
    (ports : In → InputPort EventPacket DEFAULT_QUEUE_DEPTH) (others : ℕ → In → ℕ) :
    EventHub In × (In → InputPort EventPacket DEFAULT_QUEUE_DEPTH) :=
  let r := FanOut.step hub.inputs hub.listeners others (hub.fanOut ports)
  ({ hub with base := r.base }, r.ports)

end EventHub

end DeltaV
