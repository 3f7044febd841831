import NetOpsBench.Lib.Patterns
import NetOpsBench.Lib.Sha256
import NetOpsBench.Topology.Planning
import NetOpsBench.Utils.FrrConfig

/-!
# Rendered configurations

`_build_config_db` and `_frr_config` of `netopsbench/platform/topology/renderer.py`, and what
`configdb_payload.py` reads of the former. The names of the ports of a plan end in decimal digits.
-/

namespace NetOpsBench

open Fallible

/-! ## ConfigDB -/

abbrev ConfigRow : Type := Dict String String

abbrev ConfigTable : Type := Dict String ConfigRow

abbrev ConfigDb : Type := Dict String ConfigTable

def configTable (rows : List (String × List (String × String))) : ConfigTable :=
  .ofEntries (rows.map fun (name, fields) => (name, .ofEntries fields))

/-- `sonic_vs_base_config_db.json` -/
def sonicBaseConfigDb : ConfigDb := .ofEntries
  [("DEVICE_METADATA", configTable
      [("localhost", [("mac", "2a:69:12:f9:25:59"), ("switch_type", "switch"),
        ("buffer_model", "traditional"), ("hwsku", "Force10-S6000")])]),
    ("FEATURE", configTable
      (["swss", "bgp", "teamd", "nat", "database", "lldp", "dhcp_relay", "macsec"].map fun name =>
        (name, [("state", "enabled")]))),
    ("FLEX_COUNTER_TABLE", configTable
      [("PORT", [("FLEX_COUNTER_STATUS", "enable"), ("POLL_INTERVAL", "10000")])]),
    ("GNMI", configTable
      [("gnmi", [("port", "50051"), ("client_auth", "false"), ("log_level", "2")]),
        ("certs", [("ca_crt", "/etc/sonic/telemetry/dsmsroot.cer"),
          ("server_crt", "/etc/sonic/telemetry/streamingtelemetryserver.cer"),
          ("server_key", "/etc/sonic/telemetry/streamingtelemetryserver.key")])])]

def sonicPlatform : String := "x86_64-kvm_x86_64-r0"

def sonicHwsku : String := "Force10-S6000"

/-- `_sonic_port_attrs` -/
def sonicPortAttrs (portIdx : Nat) : List (String × String) :=
  let eth := portIdx * 4
  [("alias", "fortyGigE0/" ++ toString eth), ("index", toString portIdx),
    ("lanes", Text.join "," ((List.range 4).map fun offset => toString (eth + 1 + offset))),
    ("speed", "100000"), ("subport", "0"), ("admin_status", "up")]

/-- The names of the ports. -/
def portNames (requiredPorts : Nat) : List String :=
  (List.range requiredPorts).map fun portIdx => "Ethernet" ++ toString (portIdx * 4)

/-- `_port_entries` -/
def portTable (requiredPorts : Nat) : ConfigTable :=
  configTable ((portNames requiredPorts).zip ((List.range requiredPorts).map sonicPortAttrs))

/-- `_device_mac` -/
def deviceMac (device : String) : String :=
  let digest := (Sha256.digest device.toUTF8.toList).take 5
  "02:" ++ Text.join ":" (digest.map fun byte => String.ofList (Sha256.hexBytes [byte]))

/-- `_interface_sort_key` -/
def interfaceSortKey (name : String) : Except String Nat :=
  if "Ethernet".toList.isPrefixOf name.toList then
    let suffix := String.ofList (name.toList.drop 8)
    if Text.isNumeral suffix then .ok (Text.numeralValue suffix)
    else .error ("invalid literal for int() with base 10: " ++ Text.quoted suffix)
  else .ok 0

/-- `sorted(cidrs, key=_interface_sort_key)` -/
def sortedInterfaces (names : List String) : Except String (List String) := do
  let keyed ← names.mapM fun name => do
    let key ← interfaceSortKey name
    pure (key, name)
  pure ((Sorting.sorted (fun a b => decide (a.1 ≤ b.1)) keyed).map Prod.snd)

/-- The keys of the table `INTERFACE` in the order in which they are set. -/
def interfaceKeys (cidrs : Dict String (List String)) (names : List String) : List String :=
  names.flatMap fun name =>
    name :: ((cidrs.get name).getD []).map fun cidr => name ++ "|" ++ cidr

def interfaceTable (cidrs : Dict String (List String)) : Except String ConfigTable := do
  let names ← sortedInterfaces cidrs.keys
  pure (.ofEntries ((interfaceKeys cidrs names).map fun key => (key, .empty)))

/-- The tables but for `INTERFACE`. -/
def deviceTables (plan : FabricPlan) (device : DevicePlan) : ConfigDb :=
  let metadataTable := (sonicBaseConfigDb.get "DEVICE_METADATA").getD .empty
  let metadata := (metadataTable.get "localhost").getD .empty
  let metadata := metadata.set "hostname" device.name
  let metadata := metadata.set "hwsku" sonicHwsku
  let metadata := metadata.set "platform" sonicPlatform
  let metadata := metadata.set "mac" (deviceMac device.name)
  let configDb := sonicBaseConfigDb.set "DEVICE_METADATA" (metadataTable.set "localhost" metadata)
  let ports := portNames device.requiredPorts
  let configDb := configDb.set "PORT" (portTable device.requiredPorts)
  let configDb := configDb.set "CABLE_LENGTH"
    (configTable [("AZURE", ports.map fun name => (name, "0m"))])
  let configDb := configDb.set "BREAKOUT_CFG"
    (configTable (ports.map fun name => (name, [("brkout_mode", "1x100G[40G]")])))
  configDb.set "SYSLOG_SERVER"
    (configTable [("telegraf", [("server", plan.renderSettings.syslogCollector)])])

/-- `_build_config_db` -/
def buildConfigDb (plan : FabricPlan) (device : DevicePlan) : Except String ConfigDb := do
  let interfaces ← interfaceTable device.configdbInterfaceCidrs
  pure ((deviceTables plan device).set "INTERFACE" interfaces)

/-- `key.split("|", 1)`, for a key with a bar -/
def splitKey (key : String) : Option (String × String) :=
  if '|' ∈ key.toList then
    some (.ofList (key.toList.takeWhile (· != '|')),
      .ofList ((key.toList.dropWhile (· != '|')).drop 1))
  else none

/-- What one key of the table says. -/
def keyNetwork (key : String) : Option (String × String) := do
  let (name, cidr) ← splitKey key
  let network ← Ipv4.interfaceNetwork cidr
  pure (name, network)

/-- `interface_networks_from_payload` -/
def interfaceNetworks (payload : ConfigDb) : Dict String String :=
  match payload.get "INTERFACE" with
  | none => .empty
  | some interfaces => .ofEntries (interfaces.keys.filterMap keyNetwork)

/-! ## FRR -/

/-- The text of an optional number. -/
def optionalText (number : Option Int) : String := (number.map toString).getD "None"

def frrHead (device : DevicePlan) : List String :=
  ["frr version 10.3", "frr defaults traditional", "hostname " ++ device.name,
    "log syslog informational", "no ipv6 forwarding", "service integrated-vtysh-config", "!",
    "route-map RM-ALLOW permit 10", "!", "router bgp " ++ optionalText device.bgpAsn,
    " bgp router-id " ++ device.bgpRouterId.getD "None", " no bgp ebgp-requires-policy",
    " bgp bestpath as-path multipath-relax"]

/-- `_frr_config`, as its lines -/
def frrLines (device : DevicePlan) : List String :=
  frrHead device ++
    (device.bgpNeighbors.map fun neighbor =>
      " neighbor " ++ neighbor.peerIp ++ " remote-as " ++ toString neighbor.remoteAs) ++
    [" !", " address-family ipv4 unicast", "  maximum-paths 64"] ++
    (device.bgpNeighbors.flatMap fun neighbor =>
      ["  neighbor " ++ neighbor.peerIp ++ " activate",
        "  neighbor " ++ neighbor.peerIp ++ " route-map RM-ALLOW out"]) ++
    (device.bgpNetworks.map fun network => "  network " ++ network ++ " route-map RM-ALLOW") ++
    [" exit-address-family", "!", "line vty", "!"]

/-- `_frr_config` -/
def frrConfig (device : DevicePlan) : String := Text.join "\n" (frrLines device) ++ "\n"

/-- `parse_bgp_config` of a text -/
def parseBgpText (text : String) : ParsedBgp :=
  parseBgpConfig ((Patterns.splitLines text).map String.ofList)

end NetOpsBench
