import NetOpsBench.Faults.FrrShell
import NetOpsBench.Lib.Fallible
import Mathlib.Data.List.DropRight

/-!
# Scoped prefix policies

`_prefix_policy` of `netopsbench/platform/faults/handlers/network.py`. A text is the list of its
lines; no line has another line break in it, and numbers are written in ASCII digits.
-/

namespace NetOpsBench

/-- `"P" + uuid.uuid4().hex[:12].upper()` -/
structure PolicyToken : Type where
  digits : List Char
  hex : ∀ c ∈ digits, c ∈ "0123456789ABCDEF".toList
  twelve : digits.length = 12

def PolicyToken.text (token : PolicyToken) : String := "P" ++ String.ofList token.digits

inductive PolicyError : Type where
  /-- `next` finds no neighbor. -/
  | stopIteration
  | cannotSnapshot (original : String)
  | noSafeSequence
  deriving DecidableEq, Repr

/-- `str(error)` -/
def PolicyError.text : PolicyError → String
  | .stopIteration => ""
  | .cannotSnapshot original => "Cannot snapshot attached policy " ++ original
  | .noSafeSequence => "No safe sequence before the existing route-map"

/-- What a policy is attached to: a peer, or the network statement of the target. -/
inductive PolicySlot : Type where
  | peer (address : String)
  | network (routeMap : Option String)
  deriving DecidableEq, Repr

/-- The commands of an operation. -/
structure PolicyOperation : Type where
  apply : List String
  restore : List String
  deriving DecidableEq, Repr

/-! ## The clone -/

/-- `^route-map original (?:permit|deny) \\d+` up to the end of the line -/
def isTermHeader (original line : String) : Bool :=
  match Text.fields line with
  | [keyword, name, action, digits] =>
      keyword == "route-map" && name == original && (action == "permit" || action == "deny") &&
        Text.isNumeral digits
  | _ => false

/-- `(?: .*)?` up to the end of the line -/
def isTermBody (line : String) : Bool := line == "" || line.toList.head? == some ' '

/-- `re.findall`. A line of a body is no header, so the search may go on after the header. -/
def policyBlocks (original : String) : List String → List (List String)
  | [] => []
  | line :: rest =>
      if isTermHeader original line then
        (line :: rest.takeWhile isTermBody) :: policyBlocks original rest
      else policyBlocks original rest

/-- `block.rstrip().splitlines()`, but for the spaces at the end of the last line -/
def blockLines (block : List String) : List String :=
  block.rdropWhile fun line => Text.strip line == ""

/-- One turn of the loop over the blocks. -/
def cloneBlock (original routeMap : String) (block : List String) :
    Except PolicyError (List String) :=
  match blockLines block with
  | [] => .ok []
  | header :: body =>
      if Text.numeralValue ((Text.words header).getLastD "") ≤ 1 then .error .noSafeSequence
      else .ok (Text.replaceFirst header original routeMap :: body.map Text.strip)

/-- `cloned` -/
def clonePolicy (config : List String) (original : Option String) (routeMap : String) :
    Except PolicyError (List String) :=
  match original with
  | none => .ok ["route-map " ++ routeMap ++ " permit 100"]
  | some original =>
      if policyBlocks original config = [] then .error (.cannotSnapshot original)
      else (policyBlocks original config).mapM (cloneBlock original routeMap) >>= fun cloned =>
        .ok cloned.flatten

/-! ## The operations -/

/-- `_config` -/
def inConfiguration (commands : List String) : List String :=
  "configure terminal" :: commands ++ ["end", "write memory"]

/-- `format_network_statement` -/
def formatNetworkStatement (target : String) (routeMap : Option String) : String :=
  match routeMap with
  | none => "network " ++ target
  | some routeMap => "network " ++ target ++ " route-map " ++ routeMap

def applySlot (target routeMap : String) (direction : Direction) (original : Option String) :
    PolicySlot → List String
  | .peer address => ["neighbor " ++ address ++ " route-map " ++ routeMap ++ " " ++ direction.text]
  | .network _ => ["no " ++ formatNetworkStatement target original,
      "network " ++ target ++ " route-map " ++ routeMap]

def restoreSlot (target routeMap : String) (direction : Direction) (original : Option String) :
    PolicySlot → List String
  | .peer address =>
      match original with
      | some original =>
          ["neighbor " ++ address ++ " route-map " ++ original ++ " " ++ direction.text]
      | none => ["no neighbor " ++ address ++ " route-map " ++ routeMap ++ " " ++ direction.text]
  | .network _ => ["no network " ++ target ++ " route-map " ++ routeMap,
      formatNetworkStatement target original]

/-- `refresh` -/
def refreshSlot (direction : Direction) : PolicySlot → List String
  | .peer address => ["clear bgp ipv4 unicast " ++ address ++ " soft " ++ direction.text]
  | .network _ => []

/-- The commands before the attachment. -/
def applySetup (target routeMap : String) (cloned : List String) (asn : Nat) : List String :=
  ["ip prefix-list " ++ (routeMap ++ "L") ++ " seq 5 permit " ++ target,
    "route-map " ++ routeMap ++ " deny 1", "match ip address prefix-list " ++ (routeMap ++ "L")] ++
    cloned ++ ["router bgp " ++ toString asn, "address-family ipv4 unicast"]

/-- The commands after the attachment is restored. -/
def restoreCleanup (routeMap : String) : List String :=
  ["exit-address-family", "exit", "no route-map " ++ routeMap,
    "no ip prefix-list " ++ (routeMap ++ "L")]

def buildOperation (target routeMap : String) (asn : Nat) (direction : Direction)
    (slot : PolicySlot) (original : Option String) (cloned : List String) : PolicyOperation where
  apply := inConfiguration (applySetup target routeMap cloned asn ++
    applySlot target routeMap direction original slot) ++ refreshSlot direction slot
  restore := inConfiguration (["router bgp " ++ toString asn, "address-family ipv4 unicast"] ++
    restoreSlot target routeMap direction original slot ++ restoreCleanup routeMap) ++
    refreshSlot direction slot

/-- The policy that is attached, as far as the parser sees; an empty name counts as none. -/
def slotOriginal (snapshot : ParsedBgp) (direction : Direction) :
    PolicySlot → Except PolicyError (Option String)
  | .peer address =>
      match snapshot.neighbor address with
      | none => .error .stopIteration
      | some neighbor => .ok ((neighbor.policy direction).bind Text.nonempty)
  | .network routeMap => .ok (routeMap.bind Text.nonempty)

/-- One turn of the loop over the attachments. -/
def policyOperation (token : PolicyToken) (config : List String) (asn : Nat) (target : String)
    (direction : Direction) (attachment : PolicySlot × Nat) : Except PolicyError PolicyOperation :=
  slotOriginal (parseBgpConfig config) direction attachment.1 >>= fun original =>
    clonePolicy config original (token.text ++ toString attachment.2) >>= fun cloned =>
      .ok (buildOperation target (token.text ++ toString attachment.2) asn direction attachment.1
        original cloned)

/-- `attachments` -/
def policySlots (peers : List String) (network : Option ParsedNetwork) : List PolicySlot :=
  match network with
  | none => peers.map .peer
  | some network => [.network network.routeMap]

/-- `_prefix_policy`, with the device's number and the configuration that it reads. -/
def prefixPolicy (token : PolicyToken) (config : List String) (asn : Nat) (target : String)
    (peers : List String) (direction : Direction) (network : Option ParsedNetwork) :
    Except PolicyError (List PolicyOperation) :=
  (policySlots peers network).zipIdx.mapM (policyOperation token config asn target direction)

end NetOpsBench
