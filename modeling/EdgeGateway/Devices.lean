import EdgeGateway.Json

/-!
The bounded registry of `DeviceManager`.

`_devices` is a dictionary from the identity of a device to its record, kept as
an association list in insertion order. The identity is the text of the first of
`device_id`, `node_id`, `id` and the peer address that the packet has
(`nodeIdOf`). A device that is new to a full registry takes the place of the one
whose `last_seen` is least.
-/

namespace EdgeGateway.Devices

open EdgeGateway.Lib

/-- A device record. -/
structure Device where
  deviceName : Text
  nodeId : Text
  ipAddress : String
  lastSeen : String
  packetCount : Nat
  latestJson : Text
deriving DecidableEq, Repr

structure DeviceManager where
  capacity : Nat
  devices : List (Text × Device)
deriving DecidableEq, Repr

/-- `__init__`. -/
def DeviceManager.init (capacity : Nat) : DeviceManager := ⟨capacity, []⟩

/-! ### Identity and name -/

/-- `_field`. -/
def field (value : Json) (key : String) (default : Json) : Json :=
  match value with
  | .dict fields => Dict.get fields key default
  | _ => default

/-- The key a packet is filed under. Versioned plug-and-play clients use
`device_id`; the other fallbacks are for older ones. -/
def nodeIdOf (ip : String) (parsed : Json) : Text :=
  (field parsed "device_id" (field parsed "node_id" (field parsed "id" (.str ip)))).strText

/-- `str(name)`. -/
def nameOf (ip : String) (parsed : Json) : Text :=
  let nodeId := Json.str (String.ofList (nodeIdOf ip parsed))
  (field parsed "device_name" (field parsed "name" nodeId)).strText

/-! ### `update` -/

/-- The body of the loop of `_evict_oldest`: the key and the time found so far. -/
def older (oldest : Option (Text × String)) (entry : Text × Device) : Option (Text × String) :=
  match oldest with
  | none => some (entry.1, entry.2.lastSeen)
  | some (key, seen) =>
      if entry.2.lastSeen < seen then some (entry.1, entry.2.lastSeen) else some (key, seen)

/-- `_evict_oldest`. -/
def evictOldest (devices : List (Text × Device)) : List (Text × Device) :=
  match devices.foldl older none with
  | none => devices
  | some (key, _) => devices.eraseP (fun entry => entry.1 = key)

/-- The record of a device before its first packet is counted. -/
def Device.discovered (ip : String) (parsed : Json) : Device where
  deviceName := nameOf ip parsed
  nodeId := nodeIdOf ip parsed
  ipAddress := ip
  lastSeen := ""
  packetCount := 0
  latestJson := []

/-- The last lines of `update`. -/
def Device.seen (now ip : String) (payload : Text) (parsed : Json) (device : Device) : Device :=
  { device with
    deviceName := nameOf ip parsed
    ipAddress := ip
    lastSeen := now
    packetCount := device.packetCount + 1
    latestJson := payload }

/-- `update`: the registry, and the text logged for a device that is new to it. -/
def DeviceManager.update (now ip : String) (payload : Text) (parsed : Json) (m : DeviceManager) :
    DeviceManager × Option String :=
  let nodeId := nodeIdOf ip parsed
  match m.devices.lookup nodeId with
  | some _ =>
      let seen := fun entry : Text × Device =>
        if entry.1 = nodeId then (entry.1, entry.2.seen now ip payload parsed) else entry
      ({ m with devices := m.devices.map seen }, none)
  | none =>
      let devices := if m.capacity ≤ m.devices.length then evictOldest m.devices else m.devices
      let device := (Device.discovered ip parsed).seen now ip payload parsed
      ({ m with devices := devices ++ [(nodeId, device)] },
        some ("Device discovered: " ++ String.ofList nodeId ++ " (" ++ ip ++ ")"))

/-- `list`. -/
def DeviceManager.list (m : DeviceManager) : List Device := m.devices.map Prod.snd

end EdgeGateway.Devices
