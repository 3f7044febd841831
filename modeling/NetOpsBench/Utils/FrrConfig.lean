import NetOpsBench.Lib.Words
import NetOpsBench.Lib.Dict
import NetOpsBench.Lib.Sorting

/-!
# BGP configurations

`parse_bgp_config` of `netopsbench/platform/utils/frr.py`, over the lines of a text. Numbers are
written in ASCII digits.
-/

namespace NetOpsBench

open Sorting

/-- The direction of a policy. -/
inductive Direction : Type where
  | inbound
  | outbound
  deriving DecidableEq, Repr

def Direction.text : Direction → String
  | .inbound => "in"
  | .outbound => "out"

/-- `in|out` -/
def readDirection (text : String) : Option Direction :=
  if text = "in" then some .inbound else if text = "out" then some .outbound else none

structure PolicyUse : Type where
  name : String
  direction : Direction
  deriving DecidableEq, Repr

structure ParsedNeighbor : Type where
  peerIp : String
  remoteAs : Option Nat := none
  password : Option String := none
  updateSource : Option String := none
  routeMaps : List PolicyUse := []
  deriving DecidableEq, Repr

structure ParsedNetwork : Type where
  target : String
  routeMap : Option String
  deriving DecidableEq, Repr

/-- The dictionaries of the loop. -/
structure BgpScan : Type where
  localAs : Option Nat := none
  neighbors : Dict String ParsedNeighbor := .empty
  networks : Dict (String × Option String) ParsedNetwork := .empty

structure ParsedBgp : Type where
  localAs : Option Nat
  neighbors : List ParsedNeighbor
  networks : List ParsedNetwork

namespace BgpScan

/-- `neighbors.setdefault(address, …)`, and a change of what is there. -/
def change (scan : BgpScan) (address : String) (edit : ParsedNeighbor → ParsedNeighbor) : BgpScan :=
  { scan with
    neighbors := scan.neighbors.set address
      (edit ((scan.neighbors.get address).getD { peerIp := address })) }

/-- `neighbor[option] = value` -/
def setOption (option value : String) (neighbor : ParsedNeighbor) : ParsedNeighbor :=
  if option = "remote-as" then
    if Text.isNumeral value then { neighbor with remoteAs := some (Text.numeralValue value) }
    else neighbor
  else if option = "password" then { neighbor with password := some value }
  else { neighbor with updateSource := some value }

/-- `neighbor["route_maps"].append(attachment)`, for a new one -/
def addPolicy (use : PolicyUse) (neighbor : ParsedNeighbor) : ParsedNeighbor :=
  if use ∈ neighbor.routeMaps then neighbor
  else { neighbor with routeMaps := neighbor.routeMaps ++ [use] }

def addNetwork (scan : BgpScan) (target : String) (routeMap : Option String) : BgpScan :=
  { scan with networks := scan.networks.set (target, routeMap) { target, routeMap } }

/-- One turn of the loop, over the fields of the stripped line. -/
def readFields (scan : BgpScan) : List String → BgpScan
  | ["router", "bgp", number] =>
      if Text.isNumeral number then { scan with localAs := some (Text.numeralValue number) } else scan
  | ["neighbor", address, option, value] =>
      if option = "remote-as" ∨ option = "password" ∨ option = "update-source" then
        scan.change address (setOption option value)
      else scan
  | ["neighbor", address, "route-map", name, direction] =>
      match readDirection direction with
      | some direction => scan.change address (addPolicy { name, direction })
      | none => scan
  | ["network", target] => scan.addNetwork target none
  | ["network", target, "route-map", routeMap] => scan.addNetwork target (some routeMap)
  | _ => scan

/-- Every field is a `\\S+`. -/
def solidFields (line : String) : Option (List String) :=
  let fields := Text.fields line
  if fields.all Text.isSolid then some fields else none

/-- One turn of the loop -/
def readLine (scan : BgpScan) (raw : String) : BgpScan :=
  match solidFields (Text.strip raw) with
  | some fields => scan.readFields fields
  | none => scan

end BgpScan

/-- `parse_bgp_config` -/
def parseBgpConfig (lines : List String) : ParsedBgp :=
  let scan := lines.foldl BgpScan.readLine {}
  { localAs := scan.localAs
    neighbors := sorted (fun a b => decide (a.peerIp ≤ b.peerIp)) scan.neighbors.values
    networks := sorted (fun a b => decide (a.target ≤ b.target)) scan.networks.values }

/-- `next(n for n in snapshot["neighbors"] if n["peer_ip"] == peer)` -/
def ParsedBgp.neighbor (config : ParsedBgp) (peer : String) : Option ParsedNeighbor :=
  config.neighbors.find? fun neighbor => decide (neighbor.peerIp = peer)

/-- `next((a["name"] for a in neighbor["route_maps"] if a["direction"] == direction), None)` -/
def ParsedNeighbor.policy (neighbor : ParsedNeighbor) (direction : Direction) : Option String :=
  (neighbor.routeMaps.find? fun use => decide (use.direction = direction)).map PolicyUse.name

/-! ## What the parser finds -/

/-- A line of a running configuration. -/
structure ConfigLine : Type where
  indent : Nat
  words : List String
  solid : ∀ word ∈ words, Text.Solid word

namespace ConfigLine

def text (line : ConfigLine) : String := Text.lineText line.indent line.words

/-- The line of some words. -/
def ofWords (indent : Nat) (words : List String) : ConfigLine where
  indent := indent
  words := words.filter Text.isSolid
  solid _ mem := Text.isSolid_iff.mp (List.mem_filter.mp mem).2

end ConfigLine

/-- The route-map that a line of these words attaches. -/
def attachedBy (peer : String) (direction : Direction) : List String → Option String
  | ["neighbor", address, "route-map", name, way] =>
      if address = peer ∧ way = direction.text then some name else none
  | _ => none

/-- The first route-map that any line attaches to a peer in a direction. -/
def firstAttachment (config : List ConfigLine) (peer : String) (direction : Direction) :
    Option String :=
  config.findSome? fun line => attachedBy peer direction line.words

theorem readDirection_eq_some {text : String} {direction : Direction} :
    readDirection text = some direction ↔ text = direction.text := by
  unfold readDirection
  split
  · rename_i isIn
    cases direction <;> simp [isIn, Direction.text]
  · split
    · rename_i isOut
      cases direction <;> simp [isOut, Direction.text]
    · cases direction <;> simp_all [Direction.text]

@[simp] theorem readDirection_text (direction : Direction) :
    readDirection direction.text = some direction := readDirection_eq_some.mpr rfl

namespace BgpScan

variable {scan : BgpScan} {peer : String} {direction : Direction}

/-- Every neighbor is under its own address. -/
def Keyed (scan : BgpScan) : Prop :=
  ∀ address neighbor, scan.neighbors.get address = some neighbor → neighbor.peerIp = address

/-- The route-map that the loop has found. -/
def found (scan : BgpScan) (peer : String) (direction : Direction) : Option String :=
  (scan.neighbors.get peer).bind fun neighbor => neighbor.policy direction

theorem policy_addPolicy (use : PolicyUse) (neighbor : ParsedNeighbor) :
    (addPolicy use neighbor).policy direction =
      (neighbor.policy direction).or (if use.direction = direction then some use.name else none) := by
  unfold addPolicy ParsedNeighbor.policy
  split
  · rename_i known
    by_cases same : use.direction = direction
    · have some : (neighbor.routeMaps.find? fun use => decide (use.direction = direction)).isSome :=
        List.find?_isSome.mpr ⟨use, known, by simpa using same⟩
      obtain ⟨first, isFirst⟩ := Option.isSome_iff_exists.mp some
      simp [isFirst]
    · simp [same]
  · rw [List.find?_append, Option.map_or]
    by_cases same : use.direction = direction <;> simp [same]

theorem policy_setOption (option value : String) (neighbor : ParsedNeighbor) :
    (setOption option value neighbor).policy direction = neighbor.policy direction := by
  unfold setOption
  repeat' split
  all_goals rfl

theorem found_change {address : String} {edit : ParsedNeighbor → ParsedNeighbor} :
    (scan.change address edit).found peer direction =
      if peer = address then
        (edit ((scan.neighbors.get address).getD { peerIp := address })).policy direction
      else scan.found peer direction := by
  unfold change found
  dsimp only
  rw [Dict.get_set]
  split <;> rfl

theorem policy_getD (address : String) :
    ((scan.neighbors.get address).getD { peerIp := address }).policy direction =
      scan.found address direction := by
  unfold found
  cases scan.neighbors.get address <;> rfl

theorem keyed_change {address : String} {edit : ParsedNeighbor → ParsedNeighbor}
    (keyed : scan.Keyed) (keeps : ∀ neighbor, (edit neighbor).peerIp = neighbor.peerIp) :
    (scan.change address edit).Keyed := by
  intro address' neighbor here
  unfold change at here
  rw [Dict.get_set] at here
  split at here
  · rename_i same
    cases here
    rw [keeps, same]
    cases old : scan.neighbors.get address with
    | none => rfl
    | some known => exact keyed address known old
  · exact keyed address' neighbor here

theorem peerIp_addPolicy (use : PolicyUse) (neighbor : ParsedNeighbor) :
    (addPolicy use neighbor).peerIp = neighbor.peerIp := by
  unfold addPolicy
  split <;> rfl

theorem peerIp_setOption (option value : String) (neighbor : ParsedNeighbor) :
    (setOption option value neighbor).peerIp = neighbor.peerIp := by
  unfold setOption
  repeat' split
  all_goals rfl

theorem keyed_readFields (keyed : scan.Keyed) (fields : List String) :
    (scan.readFields fields).Keyed := by
  unfold readFields
  split
  · split <;> exact keyed
  · split
    · exact keyed_change keyed (peerIp_setOption _ _)
    · exact keyed
  · split
    · exact keyed_change keyed (peerIp_addPolicy _)
    · exact keyed
  · exact keyed
  · exact keyed
  · exact keyed

/-- A line adds the route-map that it attaches. -/
theorem found_readFields (fields : List String) :
    (scan.readFields fields).found peer direction =
      (scan.found peer direction).or (attachedBy peer direction fields) := by
  unfold readFields
  split
  · rw [attachedBy, Option.or_none]
    · split <;> rfl
    · simp
  · rw [attachedBy, Option.or_none]
    · split
      · rw [found_change, policy_setOption, policy_getD]
        split
        · rename_i same
          rw [same]
        · rfl
      · rfl
    · simp
  · rename_i address name way
    rw [attachedBy]
    split
    · rename_i way' reads
      rw [found_change, policy_addPolicy, policy_getD, readDirection_eq_some.mp reads]
      by_cases same : peer = address
      · rw [if_pos same, same]
        congr 1
        cases way' <;> cases direction <;> simp [Direction.text]
      · rw [if_neg same, if_neg fun both => same both.1.symm, Option.or_none]
    · rename_i unread
      rw [if_neg, Option.or_none]
      intro both
      rw [readDirection_eq_some.mpr both.2] at unread
      cases unread
  · rw [attachedBy, Option.or_none]
    · rfl
    · simp
  · rw [attachedBy, Option.or_none]
    · rfl
    · simp
  · rename_i shapes _ _
    rw [attachedBy, Option.or_none]
    intro address name way shape
    exact shapes address name way shape

theorem solidFields_text (line : ConfigLine) :
    solidFields (Text.strip line.text) = if line.words = [] then none else some line.words := by
  unfold ConfigLine.text solidFields
  rw [Text.strip_lineText line.solid]
  split
  · rename_i empty
    rw [empty]
    rfl
  · rename_i some
    rw [Text.fields_join line.solid some, if_pos]
    rw [List.all_eq_true]
    intro word mem
    exact Text.isSolid_iff.mpr (line.solid word mem)

theorem readLine_text (line : ConfigLine) : scan.readLine line.text = scan.readFields line.words := by
  unfold readLine
  rw [solidFields_text]
  split
  · rename_i fields some
    split at some
    · cases some
    · cases some
      rfl
  · rename_i none
    split at none
    · rename_i empty
      rw [empty]
      rfl
    · cases none

/-- The loop keeps every neighbor under its address and finds the first attachments. -/
theorem foldl_readLine (config : List ConfigLine) (keyed : scan.Keyed) :
    ((config.map ConfigLine.text).foldl readLine scan).Keyed ∧
      ((config.map ConfigLine.text).foldl readLine scan).found peer direction =
        (scan.found peer direction).or (firstAttachment config peer direction) := by
  induction config generalizing scan with
  | nil =>
      constructor
      · exact keyed
      · simp [firstAttachment]
  | cons line config ih =>
      rw [List.map_cons, List.foldl_cons, readLine_text]
      obtain ⟨isKeyed, isFound⟩ := ih (keyed_readFields keyed line.words)
      constructor
      · exact isKeyed
      · rw [isFound, found_readFields, Option.or_assoc]
        unfold firstAttachment
        rw [List.findSome?_cons]
        cases attachedBy peer direction line.words <;> rfl

theorem find?_neighbors (keyed : scan.Keyed) :
    (sorted (fun a b => decide (a.peerIp ≤ b.peerIp)) scan.neighbors.values).find?
        (fun neighbor => decide (neighbor.peerIp = peer)) = scan.neighbors.get peer := by
  have only : ∀ neighbor, neighbor ∈ sorted (fun a b => decide (a.peerIp ≤ b.peerIp))
      scan.neighbors.values → neighbor.peerIp = peer → scan.neighbors.get peer = some neighbor := by
    intro neighbor mem isPeer
    obtain ⟨address, here⟩ := Dict.mem_values.mp (mem_sorted.mp mem)
    rw [← isPeer, keyed address neighbor here]
    exact here
  cases seen : List.find? (fun neighbor => decide (neighbor.peerIp = peer))
      (sorted (fun a b => decide (a.peerIp ≤ b.peerIp)) scan.neighbors.values) with
  | some neighbor =>
      exact (only neighbor (List.mem_of_find?_eq_some seen)
        (by simpa using List.find?_some seen)).symm
  | none =>
      cases here : scan.neighbors.get peer with
      | none => rfl
      | some neighbor =>
          have mem : neighbor ∈ sorted (fun a b => decide (a.peerIp ≤ b.peerIp))
              scan.neighbors.values := mem_sorted.mpr (Dict.mem_values.mpr ⟨peer, here⟩)
          have absent := List.find?_eq_none.mp seen neighbor mem
          simp [keyed peer neighbor here] at absent

end BgpScan

/-- The policy that the parser gives for a neighbor is the first one that a line attaches. -/
theorem policy_parseBgpConfig {config : List ConfigLine} {peer : String} {direction : Direction}
    {neighbor : ParsedNeighbor}
    (known : (parseBgpConfig (config.map ConfigLine.text)).neighbor peer = some neighbor) :
    neighbor.policy direction = firstAttachment config peer direction := by
  have start : ({} : BgpScan).Keyed := nofun
  obtain ⟨keyed, isFound⟩ := @BgpScan.foldl_readLine {} peer direction config start
  unfold parseBgpConfig ParsedBgp.neighbor at known
  rw [BgpScan.find?_neighbors keyed] at known
  unfold BgpScan.found at isFound
  rw [known] at isFound
  simpa using isFound

/-- The words of a line are words, and so is the name that it attaches. -/
theorem solid_firstAttachment {config : List ConfigLine} {peer name : String}
    {direction : Direction} (found : firstAttachment config peer direction = some name) :
    Text.Solid name := by
  unfold firstAttachment at found
  obtain ⟨line, _, attaches⟩ := List.exists_of_findSome?_eq_some found
  have solid := line.solid
  unfold attachedBy at attaches
  split at attaches
  · rename_i address name' way shape
    split at attaches
    · cases attaches
      apply solid
      simp [shape]
    · cases attaches
  · cases attaches

namespace BgpScan

/-- The names of the parsed networks are words. -/
def SolidNetworks (scan : BgpScan) : Prop :=
  ∀ key statement, scan.networks.get key = some statement →
    ∀ name ∈ statement.routeMap, Text.Solid name

theorem solidNetworks_addNetwork {scan : BgpScan} {target : String} {routeMap : Option String}
    (solid : scan.SolidNetworks) (isWord : ∀ name ∈ routeMap, Text.Solid name) :
    (scan.addNetwork target routeMap).SolidNetworks := by
  intro key statement here
  unfold addNetwork at here
  rw [Dict.get_set] at here
  split at here
  · cases here
    exact isWord
  · exact solid key statement here

theorem solidNetworks_readFields {scan : BgpScan} {fields : List String}
    (solid : scan.SolidNetworks) (words : ∀ word ∈ fields, Text.Solid word) :
    (scan.readFields fields).SolidNetworks := by
  unfold readFields
  split
  · split <;> exact solid
  · split <;> exact solid
  · split <;> exact solid
  · exact solidNetworks_addNetwork solid nofun
  · rename_i target routeMap
    apply solidNetworks_addNetwork solid
    intro name isName
    cases isName
    exact words routeMap (by simp)
  · exact solid

theorem solidNetworks_foldl {scan : BgpScan} (config : List ConfigLine)
    (solid : scan.SolidNetworks) :
    ((config.map ConfigLine.text).foldl readLine scan).SolidNetworks := by
  induction config generalizing scan with
  | nil => exact solid
  | cons line config ih =>
      rw [List.map_cons, List.foldl_cons, readLine_text]
      exact ih (solidNetworks_readFields solid line.solid)

end BgpScan

theorem solid_parseBgpConfig {config : List ConfigLine} {statement : ParsedNetwork} {name : String}
    (parsed : statement ∈ (parseBgpConfig (config.map ConfigLine.text)).networks)
    (isName : statement.routeMap = some name) : Text.Solid name := by
  obtain ⟨key, here⟩ := Dict.mem_values.mp (mem_sorted.mp parsed)
  have start : ({} : BgpScan).SolidNetworks := nofun
  exact BgpScan.solidNetworks_foldl config start key statement here name isName

end NetOpsBench
