import NetOpsBench.Lib.DictEntries
import NetOpsBench.Topology.Renderer

/-!
# What the parser reads of a rendered FRR configuration

The lines of `_frr_config` as words, and the fold of `parse_bgp_config` over them. The words of a
device have to be words and its peers and networks distinct (`Renderable`).
-/

namespace NetOpsBench

open Patterns Text

/-! ## The lines of a text -/

theorem isSpace_of_isLineBreak {c : Char} (lineBreak : isLineBreak c = true) :
    isSpace c = true := by
  unfold isLineBreak at lineBreak
  unfold isSpace
  simp only [List.mem_cons, List.not_mem_nil, or_false, decide_eq_true_eq] at lineBreak
  rw [decide_eq_true_eq]
  left
  simp only [List.mem_cons, List.not_mem_nil, or_false]
  omega

/-- The characters of joined words. -/
theorem mem_joined {c : Char} {words : List String} (mem : c ∈ (join " " words).toList) :
    c = ' ' ∨ ∃ word ∈ words, c ∈ word.toList := by
  unfold join at mem
  induction words with
  | nil => simp at mem
  | cons word words ih =>
    cases words with
    | nil =>
      rw [String.intercalate_singleton] at mem
      exact .inr ⟨word, List.mem_cons_self, mem⟩
    | cons next words =>
      rw [String.intercalate_cons_cons, String.toList_append, String.toList_append,
        List.mem_append, List.mem_append] at mem
      rcases mem with (here | space) | later
      · exact .inr ⟨word, List.mem_cons_self, here⟩
      · exact .inl (List.mem_singleton.mp space)
      · rcases ih later with space | ⟨other, memOther, memChars⟩
        · exact .inl space
        · exact .inr ⟨other, List.mem_cons_of_mem _ memOther, memChars⟩

/-- A line of words has no line break. -/
theorem lineBreak_lineText {c : Char} {indent : Nat} {words : List String}
    (solid : ∀ word ∈ words, Solid word) (mem : c ∈ (Text.lineText indent words).toList) :
    isLineBreak c = false := by
  have spaceOr : c = ' ' ∨ isSpace c = false := by
    unfold Text.lineText at mem
    rw [String.toList_append, List.mem_append, String.toList_ofList] at mem
    rcases mem with margin | inside
    · exact .inl (List.eq_of_mem_replicate margin)
    · rcases mem_joined inside with space | ⟨word, memWord, memChars⟩
      · exact .inl space
      · exact .inr ((solid word memWord).solid c memChars)
  rcases spaceOr with rfl | word
  · rfl
  · by_contra lineBreak
    rw [isSpace_of_isLineBreak (by simpa using lineBreak)] at word
    cases word

theorem splitLines_join {lines : List String} (nonempty : lines ≠ [])
    (unbroken : ∀ line ∈ lines, ∀ c ∈ line.toList, isLineBreak c = false) :
    splitLines (join "\n" lines ++ "\n") = lines.map String.toList ++ [[]] := by
  unfold splitLines join
  induction lines with
  | nil => contradiction
  | cons line lines ih =>
    have own := unbroken line List.mem_cons_self
    have later := fun other mem => unbroken other (List.mem_cons_of_mem _ mem)
    cases lines with
    | nil =>
      rw [String.intercalate_singleton, String.toList_append]
      exact List.splitOnP_append_cons_of_forall_mem own '\n' (by rfl) []
    | cons next lines =>
      have chars : ("\n".intercalate (line :: next :: lines) ++ "\n").toList =
          line.toList ++ '\n' :: ("\n".intercalate (next :: lines) ++ "\n").toList := by
        rw [String.intercalate_cons_cons]
        simp
      rw [chars, List.splitOnP_append_cons_of_forall_mem own '\n' (by rfl), ih (List.cons_ne_nil _ _) later]
      rfl

/-! ## The fold over lines of words -/

/-- A line: its indentation and its words. -/
abbrev WordLine : Type := Nat × List String

def WordLine.text (line : WordLine) : String := Text.lineText line.1 line.2

theorem readLine_lineText {scan : BgpScan} {line : WordLine} (solid : ∀ word ∈ line.2, Solid word) :
    scan.readLine line.text = scan.readFields line.2 :=
  BgpScan.readLine_text ⟨line.1, line.2, solid⟩

/-- The loop over lines of words. -/
def readWords (scan : BgpScan) (lines : List WordLine) : BgpScan :=
  lines.foldl (fun scan line => scan.readFields line.2) scan

theorem readWords_append (scan : BgpScan) (first second : List WordLine) :
    readWords scan (first ++ second) = readWords (readWords scan first) second := List.foldl_append

/-- What the parser returns after the loop. -/
def BgpScan.result (scan : BgpScan) : ParsedBgp where
  localAs := scan.localAs
  neighbors := Sorting.sorted (fun a b => decide (a.peerIp ≤ b.peerIp)) scan.neighbors.values
  networks := Sorting.sorted (fun a b => decide (a.target ≤ b.target)) scan.networks.values

theorem parseBgpText_lines {lines : List WordLine} (nonempty : lines ≠ [])
    (solid : ∀ line ∈ lines, ∀ word ∈ line.2, Solid word) :
    parseBgpText (join "\n" (lines.map WordLine.text) ++ "\n") = (readWords {} lines).result := by
  have unbroken : ∀ line ∈ lines.map WordLine.text, ∀ c ∈ line.toList, isLineBreak c = false := by
    intro line mem c memChars
    obtain ⟨words, memWords, rfl⟩ := List.mem_map.mp mem
    exact lineBreak_lineText (solid words memWords) memChars
  have read : ∀ (lines : List WordLine) (scan : BgpScan),
      (∀ line ∈ lines, ∀ word ∈ line.2, Solid word) →
      (lines.map WordLine.text).foldl BgpScan.readLine scan = readWords scan lines := by
    intro lines
    induction lines with
    | nil => exact fun _ _ => rfl
    | cons line lines ih =>
      intro scan solid
      rw [List.map_cons, List.foldl_cons, readLine_lineText (solid line List.mem_cons_self)]
      exact ih _ fun other mem => solid other (List.mem_cons_of_mem _ mem)
  have back : (splitLines (join "\n" (lines.map WordLine.text) ++ "\n")).map String.ofList =
      lines.map WordLine.text ++ [""] := by
    rw [splitLines_join (by simpa using nonempty) unbroken]
    simp [Function.comp_def]
  have blank : ∀ scan : BgpScan, scan.readLine "" = scan := fun _ => rfl
  unfold parseBgpText parseBgpConfig
  rw [back]
  simp only [List.foldl_append, List.foldl_cons, List.foldl_nil, blank, read lines {} solid]
  rfl

/-! ## The words of a device -/

def headWords (device : DevicePlan) : List WordLine :=
  [(0, ["frr", "version", "10.3"]), (0, ["frr", "defaults", "traditional"]),
    (0, ["hostname", device.name]), (0, ["log", "syslog", "informational"]),
    (0, ["no", "ipv6", "forwarding"]), (0, ["service", "integrated-vtysh-config"]), (0, ["!"]),
    (0, ["route-map", "RM-ALLOW", "permit", "10"]), (0, ["!"]),
    (0, ["router", "bgp", optionalText device.bgpAsn]),
    (1, ["bgp", "router-id", device.bgpRouterId.getD "None"]),
    (1, ["no", "bgp", "ebgp-requires-policy"]),
    (1, ["bgp", "bestpath", "as-path", "multipath-relax"])]

def remoteWords (neighbor : BgpNeighborPlan) : WordLine :=
  (1, ["neighbor", neighbor.peerIp, "remote-as", toString neighbor.remoteAs])

def policyWords (neighbor : BgpNeighborPlan) : List WordLine :=
  [(2, ["neighbor", neighbor.peerIp, "activate"]),
    (2, ["neighbor", neighbor.peerIp, "route-map", "RM-ALLOW", "out"])]

def networkWords (network : String) : WordLine :=
  (2, ["network", network, "route-map", "RM-ALLOW"])

def frrWords (device : DevicePlan) : List WordLine :=
  headWords device ++ device.bgpNeighbors.map remoteWords ++
    [(1, ["!"]), (1, ["address-family", "ipv4", "unicast"]), (2, ["maximum-paths", "64"])] ++
    device.bgpNeighbors.flatMap policyWords ++ device.bgpNetworks.map networkWords ++
    [(1, ["exit-address-family"]), (0, ["!"]), (0, ["line", "vty"]), (0, ["!"])]

theorem text_headWords (device : DevicePlan) :
    (headWords device).map WordLine.text = frrHead device := by
  simp only [headWords, frrHead, List.map_cons, List.map_nil, WordLine.text]
  congr

theorem text_remoteWords (neighbor : BgpNeighborPlan) :
    (remoteWords neighbor).text =
      " neighbor " ++ neighbor.peerIp ++ " remote-as " ++ toString neighbor.remoteAs := by
  apply String.toList_inj.mp
  simp [remoteWords, WordLine.text, Text.lineText, join]

theorem text_policyWords (neighbor : BgpNeighborPlan) :
    (policyWords neighbor).map WordLine.text =
      ["  neighbor " ++ neighbor.peerIp ++ " activate",
        "  neighbor " ++ neighbor.peerIp ++ " route-map RM-ALLOW out"] := by
  simp only [policyWords, List.map_cons, List.map_nil, WordLine.text]
  congr <;> apply String.toList_inj.mp <;> simp [Text.lineText, join]

theorem text_networkWords (network : String) :
    (networkWords network).text = "  network " ++ network ++ " route-map RM-ALLOW" := by
  apply String.toList_inj.mp
  simp [networkWords, WordLine.text, Text.lineText, join]

theorem text_frrWords (device : DevicePlan) :
    (frrWords device).map WordLine.text = frrLines device := by
  simp only [frrWords, frrLines, List.map_append, List.map_flatMap, List.map_map, text_headWords,
    text_policyWords, Function.comp_def, text_remoteWords, text_networkWords]
  rfl

/-! ## Devices that are read back -/

/-- What makes the rendered texts of a device mean what its plan says. -/
structure Renderable (device : DevicePlan) : Prop where
  name : Solid device.name
  routerId : ∃ routerId, device.bgpRouterId = some routerId ∧ Solid routerId
  asn : ∃ asn : Nat, device.bgpAsn = some asn
  peers_nodup : (device.bgpNeighbors.map BgpNeighborPlan.peerIp).Nodup
  peers : ∀ neighbor ∈ device.bgpNeighbors, Solid neighbor.peerIp ∧ 0 ≤ neighbor.remoteAs
  networks_nodup : device.bgpNetworks.Nodup
  networks : ∀ network ∈ device.bgpNetworks, Solid network

theorem toString_of_nonneg {n : Int} (nonneg : 0 ≤ n) : toString n = toString n.toNat := by
  obtain ⟨m, rfl⟩ := Int.eq_ofNat_of_zero_le nonneg
  rfl

theorem solid_literal {word : String} (check : isSolid word = true) : Solid word := isSolid_iff.mp check

theorem solid_of_check {lines : List WordLine}
    (check : (lines.all fun line => line.2.all isSolid) = true) :
    ∀ line ∈ lines, ∀ word ∈ line.2, Solid word := by
  intro line mem word memWord
  have whole := List.all_eq_true.mp check line mem
  exact solid_literal (List.all_eq_true.mp whole word memWord)

variable {device : DevicePlan}

theorem optionalText_asn {asn : Nat} (isAsn : device.bgpAsn = some (asn : Int)) :
    optionalText device.bgpAsn = toString asn := by
  rw [isAsn]
  rfl

theorem solid_frrWords (renderable : Renderable device) :
    ∀ line ∈ frrWords device, ∀ word ∈ line.2, Solid word := by
  obtain ⟨name, ⟨routerId, isRouter, solidRouter⟩, ⟨asn, isAsn⟩, -, peers, -, networks⟩ := renderable
  have number := Solid.toString asn
  intro line mem
  simp only [frrWords, List.mem_append] at mem
  rcases mem with ((((head | remote) | middle) | policy) | network) | tail
  · rw [headWords, isRouter, optionalText_asn isAsn] at head
    revert line
    simp only [List.forall_mem_cons]
    repeat' apply And.intro
    all_goals first
      | exact solid_literal (by rfl)
      | exact name
      | exact number
      | exact solidRouter
      | exact nofun
  · obtain ⟨neighbor, memNeighbor, rfl⟩ := List.mem_map.mp remote
    obtain ⟨peer, nonneg⟩ := peers neighbor memNeighbor
    rw [remoteWords, toString_of_nonneg nonneg]
    simp only [List.forall_mem_cons]
    exact ⟨solid_literal (by rfl), peer, solid_literal (by rfl), Solid.toString _, nofun⟩
  · exact solid_of_check (by rfl) line middle
  · obtain ⟨neighbor, memNeighbor, memPolicy⟩ := List.mem_flatMap.mp policy
    have peer := (peers neighbor memNeighbor).1
    rcases List.mem_pair.mp memPolicy with rfl | rfl
    · simp only [List.forall_mem_cons]
      exact ⟨solid_literal (by rfl), peer, solid_literal (by rfl), nofun⟩
    · simp only [List.forall_mem_cons]
      exact ⟨solid_literal (by rfl), peer, solid_literal (by rfl), solid_literal (by rfl),
        solid_literal (by rfl), nofun⟩
  · obtain ⟨target, memTarget, rfl⟩ := List.mem_map.mp network
    rw [networkWords]
    simp only [List.forall_mem_cons]
    exact ⟨solid_literal (by rfl), networks target memTarget, solid_literal (by rfl),
      solid_literal (by rfl), nofun⟩
  · exact solid_of_check (by rfl) line tail

/-! ## The loop over the device -/

theorem isNumeral_toString (n : Nat) : isNumeral (toString n) = true := by
  unfold isNumeral
  rw [Bool.and_eq_true, List.all_eq_true]
  exact ⟨by simp, fun c mem => isDigit_of_mem_toString mem⟩

theorem readWords_head {asn : Nat} (isAsn : device.bgpAsn = some (asn : Int)) :
    readWords {} (headWords device) = { localAs := some asn } := by
  have only : readWords {} (headWords device) =
      ({} : BgpScan).readFields ["router", "bgp", optionalText device.bgpAsn] := rfl
  have router : ({} : BgpScan).readFields ["router", "bgp", toString asn] =
      if isNumeral (toString asn) then { localAs := some (numeralValue (toString asn)) } else {} :=
    rfl
  rw [only, optionalText_asn isAsn, router, if_pos (isNumeral_toString asn), numeralValue_toString]

/-- Changes of distinct neighbors, each once. -/
theorem get_foldl_change {α : Type} {address : α → String} {edit : α → ParsedNeighbor → ParsedNeighbor}
    {entries : List α} (distinct : (entries.map address).Nodup) (scan : BgpScan) (peer : String) :
    (entries.foldl (fun scan entry => scan.change (address entry) (edit entry)) scan).neighbors.get
        peer =
      match entries.find? fun entry => decide (address entry = peer) with
      | none => scan.neighbors.get peer
      | some entry => some (edit entry ((scan.neighbors.get peer).getD { peerIp := peer })) := by
  induction entries generalizing scan with
  | nil => rfl
  | cons entry entries ih =>
    rw [List.map_cons, List.nodup_cons] at distinct
    rw [List.foldl_cons, ih distinct.2, List.find?_cons]
    by_cases same : address entry = peer
    · have absent : entries.find? (fun entry => decide (address entry = peer)) = none := by
        rw [List.find?_eq_none]
        intro other mem found
        apply distinct.1
        rw [same, ← of_decide_eq_true found]
        exact List.mem_map_of_mem mem
      rw [absent, decide_eq_true same]
      simp only [BgpScan.change, Dict.get_set, same, if_true]
    · rw [decide_eq_false same]
      have kept : (scan.change (address entry) (edit entry)).neighbors.get peer =
          scan.neighbors.get peer := by
        rw [BgpScan.change, Dict.get_set, if_neg (Ne.symm same)]
      rw [kept]

theorem foldl_change_rest {α : Type} {address : α → String}
    {edit : α → ParsedNeighbor → ParsedNeighbor} (entries : List α) (scan : BgpScan) :
    (entries.foldl (fun scan entry => scan.change (address entry) (edit entry)) scan).localAs =
        scan.localAs ∧
      (entries.foldl (fun scan entry => scan.change (address entry) (edit entry)) scan).networks =
        scan.networks := by
  induction entries generalizing scan with
  | nil => exact ⟨rfl, rfl⟩
  | cons entry entries ih => exact ih (scan.change (address entry) (edit entry))

theorem readWords_remote (neighbors : List BgpNeighborPlan) (scan : BgpScan) :
    readWords scan (neighbors.map remoteWords) =
      neighbors.foldl (fun scan neighbor => scan.change neighbor.peerIp
        (BgpScan.setOption "remote-as" (toString neighbor.remoteAs))) scan := by
  unfold readWords
  rw [List.foldl_map]
  rfl

/-- The only attachment of a neighbor -/
def allowOut : PolicyUse := ⟨"RM-ALLOW", .outbound⟩

theorem readWords_policy (neighbors : List BgpNeighborPlan) (scan : BgpScan) :
    readWords scan (neighbors.flatMap policyWords) =
      neighbors.foldl (fun scan neighbor => scan.change neighbor.peerIp
        (BgpScan.addPolicy allowOut)) scan := by
  induction neighbors generalizing scan with
  | nil => rfl
  | cons neighbor neighbors ih =>
    rw [List.flatMap_cons, readWords_append, ih]
    rfl

theorem readWords_networks (networks : List String) (scan : BgpScan) :
    readWords scan (networks.map networkWords) =
      { scan with
        networks := networks.foldl (fun found network => found.set (network, some "RM-ALLOW")
          { target := network, routeMap := some "RM-ALLOW" }) scan.networks } := by
  induction networks generalizing scan with
  | nil => rfl
  | cons network networks ih =>
    rw [List.map_cons]
    exact ih (scan.addNetwork network (some "RM-ALLOW"))

/-- What the parser shows of a planned neighbor. -/
def shownNeighbor (neighbor : BgpNeighborPlan) : ParsedNeighbor where
  peerIp := neighbor.peerIp
  remoteAs := some neighbor.remoteAs.toNat
  routeMaps := [allowOut]

def shownNetwork (network : String) : ParsedNetwork := ⟨network, some "RM-ALLOW"⟩

theorem shownNeighbor_eq {neighbor : BgpNeighborPlan} (nonneg : 0 ≤ neighbor.remoteAs) :
    BgpScan.addPolicy allowOut
        (BgpScan.setOption "remote-as" (toString neighbor.remoteAs) { peerIp := neighbor.peerIp }) =
      shownNeighbor neighbor := by
  have read : BgpScan.setOption "remote-as" (toString neighbor.remoteAs)
      { peerIp := neighbor.peerIp } =
        { peerIp := neighbor.peerIp, remoteAs := some neighbor.remoteAs.toNat } := by
    rw [toString_of_nonneg nonneg]
    simp only [BgpScan.setOption, isNumeral_toString, numeralValue_toString, if_true]
  rw [read]
  rfl

/-- The neighbors after both loops. -/
theorem values_neighbors (renderable : Renderable device) (scan : BgpScan)
    (start : scan.neighbors = .empty) :
    (readWords (readWords scan (device.bgpNeighbors.map remoteWords))
      (device.bgpNeighbors.flatMap policyWords)).neighbors.values.Perm
        (device.bgpNeighbors.map shownNeighbor) := by
  have entries := @Dict.values_perm String ParsedNeighbor _
    (readWords (readWords scan (device.bgpNeighbors.map remoteWords))
      (device.bgpNeighbors.flatMap policyWords)).neighbors
    (device.bgpNeighbors.map fun neighbor => (neighbor.peerIp, shownNeighbor neighbor))
  rw [List.map_map, List.map_map] at entries
  apply entries renderable.peers_nodup
  intro peer shown
  rw [readWords_policy, get_foldl_change renderable.peers_nodup, readWords_remote,
    get_foldl_change renderable.peers_nodup, start, Dict.get_empty]
  simp only [List.mem_map, Prod.mk.injEq]
  cases found : device.bgpNeighbors.find? fun neighbor => decide (neighbor.peerIp = peer) with
  | none =>
    simp only [reduceCtorEq, false_iff]
    intro ⟨neighbor, mem, isPeer, _⟩
    exact List.find?_eq_none.mp found neighbor mem (decide_eq_true isPeer)
  | some neighbor =>
    have mem := List.mem_of_find?_eq_some found
    have isPeer : neighbor.peerIp = peer := by simpa using List.find?_some found
    subst isPeer
    simp only [Option.getD_none, Option.getD_some, shownNeighbor_eq (renderable.peers neighbor mem).2,
      Option.some.injEq]
    constructor
    · intro same
      exact ⟨neighbor, mem, rfl, same⟩
    · intro ⟨other, memOther, isPeer, same⟩
      rw [← same, List.inj_on_of_nodup_map renderable.peers_nodup mem memOther isPeer.symm]

theorem values_networks (distinct : device.bgpNetworks.Nodup) :
    (device.bgpNetworks.foldl (fun (found : Dict (String × Option String) ParsedNetwork) network =>
      found.set (network, some "RM-ALLOW") { target := network, routeMap := some "RM-ALLOW" })
        .empty).values = device.bgpNetworks.map shownNetwork := by
  have asEntries : ∀ networks : List String,
      networks.foldl (fun (found : Dict (String × Option String) ParsedNetwork) network =>
        found.set (network, some "RM-ALLOW") { target := network, routeMap := some "RM-ALLOW" })
          .empty =
        .ofEntries (networks.map fun network =>
          ((network, some "RM-ALLOW"), shownNetwork network)) := by
    intro networks
    rw [Dict.ofEntries, List.foldl_map]
    rfl
  have keys : ((device.bgpNetworks.map fun network =>
      ((network, some "RM-ALLOW"), shownNetwork network)).map Prod.fst).Nodup := by
    rw [List.map_map]
    exact distinct.map fun _ _ same => (Prod.mk.inj same).1
  rw [asEntries, Dict.values, Dict.entries_ofEntries keys, List.map_map]
  rfl

/-- What the parser reads of the rendered configuration is the plan of the device. -/
theorem parseBgpText_frrConfig (renderable : Renderable device) :
    ((parseBgpText (frrConfig device)).localAs.map Int.ofNat = device.bgpAsn) ∧
      (parseBgpText (frrConfig device)).neighbors.Perm (device.bgpNeighbors.map shownNeighbor) ∧
      (parseBgpText (frrConfig device)).networks.Perm (device.bgpNetworks.map shownNetwork) := by
  obtain ⟨asn, isAsn⟩ := renderable.asn
  have text : frrConfig device = join "\n" ((frrWords device).map WordLine.text) ++ "\n" := by
    rw [text_frrWords]
    rfl
  have nonempty : frrWords device ≠ [] := by simp [frrWords]
  rw [text, parseBgpText_lines nonempty (solid_frrWords renderable)]
  -- the lines between and after the loops say nothing
  have middle : ∀ scan : BgpScan, readWords scan
      [(1, ["!"]), (1, ["address-family", "ipv4", "unicast"]), (2, ["maximum-paths", "64"])] = scan :=
    fun _ => rfl
  have tail : ∀ scan : BgpScan, readWords scan
      [(1, ["exit-address-family"]), (0, ["!"]), (0, ["line", "vty"]), (0, ["!"])] = scan :=
    fun _ => rfl
  simp only [frrWords, readWords_append, middle, tail, readWords_head isAsn, readWords_networks]
  have rest : ∀ scan : BgpScan,
      (readWords (readWords scan (device.bgpNeighbors.map remoteWords))
          (device.bgpNeighbors.flatMap policyWords)).localAs = scan.localAs ∧
        (readWords (readWords scan (device.bgpNeighbors.map remoteWords))
          (device.bgpNeighbors.flatMap policyWords)).networks = scan.networks := by
    intro scan
    rw [readWords_policy, readWords_remote]
    obtain ⟨first, second⟩ := @foldl_change_rest _ BgpNeighborPlan.peerIp
      (fun _ => BgpScan.addPolicy allowOut) device.bgpNeighbors
      (device.bgpNeighbors.foldl (fun scan neighbor => scan.change neighbor.peerIp
        (BgpScan.setOption "remote-as" (toString neighbor.remoteAs))) scan)
    obtain ⟨third, fourth⟩ := @foldl_change_rest _ BgpNeighborPlan.peerIp
      (fun neighbor => BgpScan.setOption "remote-as" (toString neighbor.remoteAs))
      device.bgpNeighbors scan
    exact ⟨first.trans third, second.trans fourth⟩
  refine ⟨?_, ?_, ?_⟩
  · simp only [BgpScan.result, (rest _).1, isAsn]
    rfl
  · exact (Sorting.sorted_perm _ _).trans (values_neighbors renderable _ rfl)
  · apply (Sorting.sorted_perm _ _).trans
    simp only [(rest _).2]
    rw [values_networks renderable.networks_nodup]

end NetOpsBench
