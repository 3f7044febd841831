import NetOpsBench.Lib.Scan
import NetOpsBench.Models.Runtime

/-!
# Interface names

`netopsbench/platform/utils/interface_names.py`: the labels of one front-panel port across
SONiC, Linux and vendor spellings. A port `n` is `ethn` for Linux, `Ethernet` with the first
lane `4 * (n - 1)` for SONiC, and `ek-n` or `ethernet-k/n` for vendors.
-/

namespace NetOpsBench

open Scan (Digits literal numeral atEnd Cased)

/-- The tables of Unicode that `str.lower` and `\d` read. -/
structure NameTables : Type where
  lower : String → String
  digits : Digits

/-- The tables, for texts of ASCII. -/
def NameTables.ascii : NameTables := ⟨Text.lower, Digits.western⟩

variable {tables : NameTables}

/-- A label with one number: `^pattern(\d+)$` -/
def matchNumber (tables : NameTables) (pattern name : String) : Option Nat := do
  let rest ← literal pattern.toList name.toList
  let (number, rest) ← numeral tables.digits rest
  if atEnd rest then some number else none

/-- A label with two numbers, of which the second is the port: `^pattern(\d+)separator(\d+)$` -/
def matchSecondNumber (tables : NameTables) (pattern : String) (separator : Char) (name : String) :
    Option Nat := do
  let rest ← literal pattern.toList name.toList
  let (_, rest) ← numeral tables.digits rest
  let rest ← literal [separator] rest
  let (number, rest) ← numeral tables.digits rest
  if atEnd rest then some number else none

/-- `_SONIC_INTERFACE_RE` -/
def sonicInterface (tables : NameTables) (name : String) : Option Nat :=
  matchNumber tables "ethernet" name

/-- `_LINUX_INTERFACE_RE` -/
def linuxInterface (tables : NameTables) (name : String) : Option Nat :=
  matchNumber tables "eth" name

/-- `_E_STYLE_INTERFACE_RE` -/
def eStyleInterface (tables : NameTables) (name : String) : Option Nat :=
  matchSecondNumber tables "e" '-' name

/-- `_VENDOR_STYLE_INTERFACE_RE` -/
def vendorStyleInterface (tables : NameTables) (name : String) : Option Nat :=
  matchSecondNumber tables "ethernet-" '/' name

/-- `f"eth{port}"` -/
def ethName (port : Nat) : String := "eth" ++ toString port

/-- `f"Ethernet{lane}"` -/
def sonicName (lane : Nat) : String := "Ethernet" ++ toString lane

/-- `normalize_interface_name` after the blank names are gone -/
def normalizeRaw (tables : NameTables) (rawName : String) : String :=
  match sonicInterface tables rawName with
  | some portIdx =>
      if portIdx % 4 = 0 then ethName (portIdx / 4 + 1) else tables.lower rawName
  | none =>
      match linuxInterface tables rawName with
      | some port => ethName port
      | none =>
          match eStyleInterface tables rawName with
          | some port => ethName port
          | none =>
              match vendorStyleInterface tables rawName with
              | some port => ethName port
              | none =>
                  Text.replace (Text.replace (Text.replace (Text.replace (tables.lower rawName)
                    "ethernet-" "eth") "ethernet" "eth") "/" "") "-" ""

def normalizeInterfaceName (tables : NameTables) (interfaceName : Option String) : String :=
  match interfaceName with
  | none => ""
  | some name => if Text.strip name = "" then "" else normalizeRaw tables (Text.strip name)

/-- `str(interface_name or "").strip()` -/
def strippedName (interfaceName : Option String) : String := Text.strip (interfaceName.getD "")

def toLinuxInterface (tables : NameTables) (interfaceName : Option String) : String :=
  match linuxInterface tables (normalizeInterfaceName tables interfaceName) with
  | some port => ethName port
  | none => strippedName interfaceName

def toSonicInterface (tables : NameTables) (interfaceName : Option String) : String :=
  match (linuxInterface tables (normalizeInterfaceName tables interfaceName)).filter (1 ≤ ·) with
  | some ethIdx => sonicName ((ethIdx - 1) * 4)
  | none =>
      match sonicInterface tables (strippedName interfaceName) with
      | some lane => sonicName lane
      | none => strippedName interfaceName

/-- The labels that `interface_aliases` adds for the port of a normalised name. -/
def portAliases (tables : NameTables) (normalized : String) : List String :=
  match (linuxInterface tables normalized).filter (1 ≤ ·) with
  | some ethIdx =>
      [ethName ethIdx, "e1-" ++ toString ethIdx, "ethernet-1/" ++ toString ethIdx,
        sonicName ((ethIdx - 1) * 4)]
  | none => []

/-- The members of the set, in the order in which they are added. -/
def interfaceAliases (tables : NameTables) (interfaceName : Option String) : List String :=
  let rawName := strippedName interfaceName
  if rawName = "" then []
  else
    let normalized := normalizeInterfaceName tables (some rawName)
    ([rawName, normalized] ++ portAliases tables normalized ++
      [toSonicInterface tables (some rawName), toLinuxInterface tables (some rawName)]).filter
        (· ≠ "")

def areInterfacesEquivalent (tables : NameTables) (left right : Option String) : Bool :=
  if left.getD "" = "" ∨ right.getD "" = "" then false
  else if normalizeInterfaceName tables left = normalizeInterfaceName tables right then true
  else (interfaceAliases tables left).any (· ∈ interfaceAliases tables right)

/-! ## The spellings of a port -/

/-- The labels of port `n`, their letters in either case and their numbers in any digits. -/
inductive PortLabel (digits : Digits) (n : Nat) : List Char → Prop
  | linux {head run : List Char} : Cased "eth".toList head → digits.Numeral run n →
    PortLabel digits n (head ++ run)
  | sonic {head run : List Char} : Cased "ethernet".toList head →
    digits.Numeral run (4 * (n - 1)) → PortLabel digits n (head ++ run)
  | eStyle {head slot run : List Char} {k : Nat} : Cased "e".toList head →
    digits.Numeral slot k → digits.Numeral run n →
    PortLabel digits n (head ++ (slot ++ '-' :: run))
  | vendorStyle {head slot run : List Char} {k : Nat} : Cased "ethernet-".toList head →
    digits.Numeral slot k → digits.Numeral run n →
    PortLabel digits n (head ++ (slot ++ '/' :: run))

/-- A name spells port `n`, whatever space surrounds it. -/
structure Spells (tables : NameTables) (name : String) (n : Nat) : Prop where
  positive : 1 ≤ n
  label : PortLabel tables.digits n (Text.strip name).toList

section Labels

variable {digits : Digits} {head run slot rest : List Char} {pattern name : String} {n k : Nat}

theorem matchNumber_cased (cased : Cased pattern.toList head)
    (number : tables.digits.Numeral run n) (text : name.toList = head ++ run) :
    matchNumber tables pattern name = some n := by
  have read : numeral tables.digits run = some (n, []) := Scan.numeral_all number
  unfold matchNumber
  rw [text, Scan.literal_append cased]
  simp only [Option.bind_eq_bind, Option.bind_some, read]
  rfl

theorem matchSecondNumber_cased {separator : Char} (cased : Cased pattern.toList head)
    (first : tables.digits.Numeral slot k) (number : tables.digits.Numeral run n)
    (own : separator.toLower = separator) (other : tables.digits.isDigit separator = false)
    (text : name.toList = head ++ (slot ++ separator :: run)) :
    matchSecondNumber tables pattern separator name = some n := by
  have read : numeral tables.digits run = some (n, []) := Scan.numeral_all number
  have stop : ∀ c, (separator :: run).head? = some c → tables.digits.isDigit c = false := by
    intro c same
    rw [← Option.some.inj same, other]
  have cased' : Cased [separator] [separator] := congrArg (fun c => [c]) own
  have between : literal [separator] (separator :: run) = some run := Scan.literal_append cased'
  unfold matchSecondNumber
  rw [text, Scan.literal_append cased]
  simp only [Option.bind_eq_bind, Option.bind_some]
  rw [Scan.numeral_append first stop]
  simp only [Option.bind_some, between, read]
  rfl

/-- A pattern whose number does not start where the text has one. -/
theorem matchNumber_eq_none (missing : ∀ rest, literal pattern.toList name.toList = some rest →
    numeral tables.digits rest = none) : matchNumber tables pattern name = none := by
  unfold matchNumber
  cases found : literal pattern.toList name.toList with
  | none => rfl
  | some rest =>
      simp only [Option.bind_eq_bind, Option.bind_some]
      rw [missing rest found]
      rfl

theorem matchSecondNumber_eq_none {separator : Char}
    (missing : ∀ rest, literal pattern.toList name.toList = some rest →
      numeral tables.digits rest = none) :
    matchSecondNumber tables pattern separator name = none := by
  unfold matchSecondNumber
  cases found : literal pattern.toList name.toList with
  | none => rfl
  | some rest =>
      simp only [Option.bind_eq_bind, Option.bind_some]
      rw [missing rest found]
      rfl

theorem isDigit_separator {separator : Char} (ascii : separator.toNat < 128)
    (other : separator.isDigit = false) : digits.isDigit separator = false := by
  rw [Digits.isDigit_ascii ascii, other]

/-- `ethN` is no SONiC name: its number stands where `ethernet` goes on. -/
theorem sonicInterface_linux (cased : Cased "eth".toList head)
    (port : tables.digits.Numeral run n) (text : name.toList = head ++ run) :
    sonicInterface tables name = none := by
  apply matchNumber_eq_none
  intro rest found
  have differ : literal ("eth".toList ++ 'e' :: "rnet".toList) (head ++ (run ++ [])) = none :=
    Digits.literal_numeral cased port (by decide) rfl
  rw [List.append_nil, ← text] at differ
  exact absurd (differ.symm.trans found) (Option.some_ne_none rest).symm

/-- `eK-N` begins neither like a SONiC name nor like a Linux name. -/
theorem literal_eStyle {l : Char} {more : List Char} (cased : Cased "e".toList head)
    (first : tables.digits.Numeral slot k) (ascii : l.toNat < 128) (other : l.isDigit = false)
    (text : name.toList = head ++ (slot ++ rest)) :
    literal ("e".toList ++ l :: more) name.toList = none := by
  rw [text]
  exact Digits.literal_numeral cased first ascii other

/-- `ethernet-K/N` has no number where a shorter pattern looks for one. -/
theorem numeral_vendor {front back : List Char} {l : Char} {more : List Char}
    (same : "ethernet-".toList = front ++ l :: more) (cased : Cased "ethernet-".toList head)
    (ascii : l.toNat < 128) (other : l.isDigit = false)
    (text : name.toList = head ++ back) :
    ∀ rest, literal front name.toList = some rest → numeral tables.digits rest = none := by
  intro rest found
  rw [same] at cased
  obtain ⟨left, right, rfl, leftCased, rightCased⟩ := cased.split
  rw [text, List.append_assoc, Scan.literal_append leftCased] at found
  rw [← Option.some.inj found]
  exact Digits.numeral_cased rightCased ascii other

/-- Every label of a port is normalised to its Linux name. -/
theorem normalizeRaw_label (positive : 1 ≤ n)
    (label : PortLabel tables.digits n name.toList) : normalizeRaw tables name = ethName n := by
  generalize text : name.toList = chars at label
  unfold normalizeRaw
  cases label with
  | linux cased port =>
      rw [sonicInterface_linux cased port text]
      have linux : linuxInterface tables name = some n := matchNumber_cased cased port text
      simp only [linux]
  | sonic cased lane =>
      have sonic : sonicInterface tables name = some (4 * (n - 1)) :=
        matchNumber_cased cased lane text
      have port : 4 * (n - 1) / 4 + 1 = n := by omega
      simp only [sonic, Nat.mul_mod_right, if_true, port]
  | eStyle cased slot port =>
      have sonic : sonicInterface tables name = none := by
        apply matchNumber_eq_none
        intro rest found
        have differ : literal ("e".toList ++ 't' :: "hernet".toList) name.toList = none :=
          literal_eStyle cased slot (by decide) rfl text
        exact absurd (differ.symm.trans found) (Option.some_ne_none rest).symm
      have linux : linuxInterface tables name = none := by
        apply matchNumber_eq_none
        intro rest found
        have differ : literal ("e".toList ++ 't' :: "h".toList) name.toList = none :=
          literal_eStyle cased slot (by decide) rfl text
        exact absurd (differ.symm.trans found) (Option.some_ne_none rest).symm
      have eStyle : eStyleInterface tables name = some n :=
        matchSecondNumber_cased cased slot port rfl
          (isDigit_separator (by decide) rfl) text
      simp only [sonic, linux, eStyle]
  | vendorStyle cased slot port =>
      have sonic : sonicInterface tables name = none :=
        matchNumber_eq_none (numeral_vendor (show _ = _ ++ '-' :: [] from rfl) cased
          (by decide) rfl text)
      have linux : linuxInterface tables name = none :=
        matchNumber_eq_none (numeral_vendor (show _ = _ ++ 'e' :: "rnet-".toList from rfl) cased
          (by decide) rfl text)
      have eStyle : eStyleInterface tables name = none :=
        matchSecondNumber_eq_none (numeral_vendor (show _ = _ ++ 't' :: "hernet-".toList from rfl)
          cased (by decide) rfl text)
      have vendor : vendorStyleInterface tables name = some n :=
        matchSecondNumber_cased cased slot port rfl
          (isDigit_separator (by decide) rfl) text
      simp only [sonic, linux, eStyle, vendor]

end Labels

/-! ## Conversions and aliases -/

variable {name : String} {n : Nat}

/-- A generated name has no space at its ends. -/
theorem strip_numbered {head : String} (solid : ∀ c ∈ head.toList, Text.isSpace c = false) (n : Nat) :
    Text.strip (head ++ toString n) = head ++ toString n := by
  apply Text.strip_eq_self
  intro c mem
  rw [String.toList_append] at mem
  rcases List.mem_append.mp mem with letter | digit
  · exact solid c letter
  · exact Text.isSpace_of_isDigit (Text.isDigit_of_mem_toString digit)

theorem solid_of_all {head : String}
    (all : (head.toList.all fun c => !Text.isSpace c) = true) :
    ∀ c ∈ head.toList, Text.isSpace c = false := by
  intro c mem
  exact Bool.not_eq_true' _ ▸ List.all_eq_true.mp all c mem

theorem Spells.numbered {head : String} (positive : 1 ≤ n) (number : Nat)
    (solid : ∀ c ∈ head.toList, Text.isSpace c = false)
    (label : PortLabel tables.digits n (head.toList ++ Nat.toDigits 10 number)) :
    Spells tables (head ++ toString number) n := by
  refine ⟨positive, ?_⟩
  rw [strip_numbered solid, String.toList_append, Text.toList_toString]
  exact label

theorem spells_ethName (positive : 1 ≤ n) : Spells tables (ethName n) n :=
  .numbered positive n (solid_of_all (by decide +kernel)) (.linux rfl (.toDigits n))

theorem spells_sonicName (positive : 1 ≤ n) : Spells tables (sonicName (4 * (n - 1))) n :=
  .numbered positive (4 * (n - 1)) (solid_of_all (by decide +kernel)) (.sonic rfl (.toDigits _))

theorem spells_eStyle (positive : 1 ≤ n) : Spells tables ("e1-" ++ toString n) n :=
  have cased : Cased "e".toList "e".toList := rfl
  .numbered positive n (solid_of_all (by decide +kernel)) (.eStyle cased (.toDigits 1) (.toDigits n))

theorem spells_vendorStyle (positive : 1 ≤ n) : Spells tables ("ethernet-1/" ++ toString n) n :=
  have cased : Cased "ethernet-".toList "ethernet-".toList := rfl
  .numbered positive n (solid_of_all (by decide +kernel)) (.vendorStyle cased (.toDigits 1) (.toDigits n))

theorem Spells.strip (port : Spells tables name n) : Spells tables (Text.strip name) n :=
  ⟨port.positive, (Text.strip_strip name).symm ▸ port.label⟩

theorem PortLabel.ne_nil {digits : Digits} {chars : List Char} (label : PortLabel digits n chars) :
    chars ≠ [] := by
  cases label with
  | linux _ port => exact List.append_ne_nil_of_right_ne_nil _ port.nonempty
  | sonic _ lane => exact List.append_ne_nil_of_right_ne_nil _ lane.nonempty
  | eStyle _ slot _ => simp
  | vendorStyle _ slot _ => simp

theorem Spells.strip_ne (port : Spells tables name n) : Text.strip name ≠ "" := by
  intro blank
  apply port.label.ne_nil
  rw [blank]
  rfl

/-- Every spelling of a port is normalised to its Linux name. -/
theorem Spells.normalize (port : Spells tables name n) :
    normalizeInterfaceName tables (some name) = ethName n := by
  unfold normalizeInterfaceName
  simp only [port.strip_ne, if_false]
  exact normalizeRaw_label port.positive port.label

theorem linuxInterface_ethName (n : Nat) : linuxInterface tables (ethName n) = some n := by
  have cased : Cased "eth".toList "eth".toList := rfl
  apply matchNumber_cased cased (.toDigits n)
  rw [ethName, String.toList_append, Text.toList_toString]

theorem normalize_ethName (n : Nat) :
    normalizeInterfaceName tables (some (ethName n)) = ethName n := by
  have stripped : Text.strip (ethName n) = ethName n := strip_numbered (solid_of_all rfl) n
  have chars : (ethName n).toList = "eth".toList ++ Nat.toDigits 10 n := by
    rw [ethName, String.toList_append, Text.toList_toString]
  have some_ : ethName n ≠ "" := by
    intro empty
    rw [empty] at chars
    cases chars
  have cased : Cased "eth".toList "eth".toList := rfl
  unfold normalizeInterfaceName
  dsimp only
  rw [stripped, if_neg some_]
  unfold normalizeRaw
  rw [sonicInterface_linux cased (.toDigits n) chars, linuxInterface_ethName]

/-- A Linux name is one of itself. -/
theorem toLinuxInterface_idempotent (name : String) :
    toLinuxInterface tables (some (toLinuxInterface tables (some name))) =
      toLinuxInterface tables (some name) := by
  cases port : linuxInterface tables (normalizeInterfaceName tables (some name)) with
  | some n =>
      have named : toLinuxInterface tables (some name) = ethName n := by
        unfold toLinuxInterface
        rw [port]
      have normal : normalizeInterfaceName tables (some (ethName n)) = ethName n :=
        normalize_ethName n
      rw [named]
      unfold toLinuxInterface
      rw [normal, linuxInterface_ethName]
  | none =>
      have named : toLinuxInterface tables (some name) = Text.strip name := by
        unfold toLinuxInterface
        rw [port]
        rfl
      have normal : normalizeInterfaceName tables (some (Text.strip name)) =
          normalizeInterfaceName tables (some name) := by
        unfold normalizeInterfaceName
        dsimp only
        rw [Text.strip_strip]
      rw [named]
      unfold toLinuxInterface
      rw [normal, port]
      exact Text.strip_strip name

theorem Spells.toLinux (port : Spells tables name n) :
    toLinuxInterface tables (some name) = ethName n := by
  unfold toLinuxInterface
  simp only [port.normalize, linuxInterface_ethName]

theorem Spells.toSonic (port : Spells tables name n) :
    toSonicInterface tables (some name) = sonicName (4 * (n - 1)) := by
  unfold toSonicInterface
  simp only [port.normalize, linuxInterface_ethName, Option.filter_some, port.positive,
    decide_true, if_true, Nat.mul_comm]

/-- The alternative labels of a port spell the same port. -/
theorem Spells.aliases (port : Spells tables name n) :
    ∀ label ∈ interfaceAliases tables (some name), Spells tables label n := by
  intro label mem
  unfold interfaceAliases portAliases at mem
  simp only [strippedName, Option.getD_some, port.strip_ne, if_false, port.strip.normalize,
    port.strip.toSonic, port.strip.toLinux, linuxInterface_ethName, Option.filter_some,
    port.positive, decide_true, if_true, List.mem_filter, List.mem_append, List.mem_cons,
    List.not_mem_nil, or_false] at mem
  have sonic : sonicName ((n - 1) * 4) = sonicName (4 * (n - 1)) := by rw [Nat.mul_comm]
  rcases mem.1 with ((own | own) | own | own | own | own) | own | own
  · exact own ▸ port.strip
  · exact own ▸ spells_ethName port.positive
  · exact own ▸ spells_ethName port.positive
  · exact own ▸ spells_eStyle port.positive
  · exact own ▸ spells_vendorStyle port.positive
  · exact own ▸ sonic ▸ spells_sonicName port.positive
  · exact own ▸ spells_sonicName port.positive
  · exact own ▸ spells_ethName port.positive

theorem ethName_injective {m n : Nat} (same : ethName m = ethName n) : m = n := by
  have texts := congrArg String.toList same
  rw [ethName, ethName, String.toList_append, String.toList_append, Text.toList_toString,
    Text.toList_toString] at texts
  have digits := congrArg (fun run => Nat.ofDigitChars 10 run 0) (List.append_cancel_left texts)
  rwa [Nat.ofDigitChars_ten_toDigits, Nat.ofDigitChars_ten_toDigits] at digits

theorem Spells.normalize_eq_iff {left right : String} {m n : Nat} (leftPort : Spells tables left m)
    (rightPort : Spells tables right n) :
    normalizeInterfaceName tables (some left) = normalizeInterfaceName tables (some right) ↔
      m = n := by
  rw [leftPort.normalize, rightPort.normalize]
  exact ⟨ethName_injective, congrArg ethName⟩

/-- A name that spells two ports would normalise to both. -/
theorem Spells.unique {m n : Nat} (first : Spells tables name m) (second : Spells tables name n) :
    m = n :=
  (first.normalize_eq_iff second).mp rfl

theorem Spells.getD_ne (port : Spells tables name n) : (some name).getD "" ≠ "" := by
  intro empty
  apply port.strip_ne
  rw [show name = "" from empty]
  rfl

theorem Spells.equivalent_iff {left right : String} {m n : Nat} (leftPort : Spells tables left m)
    (rightPort : Spells tables right n) :
    areInterfacesEquivalent tables (some left) (some right) = true ↔ m = n := by
  unfold areInterfacesEquivalent
  simp only [leftPort.getD_ne, rightPort.getD_ne, or_self, if_false,
    leftPort.normalize_eq_iff rightPort]
  constructor
  · intro equivalent
    split at equivalent
    · assumption
    · obtain ⟨label, mem, shared⟩ := List.any_eq_true.mp equivalent
      exact (leftPort.aliases label mem).unique
        (rightPort.aliases label (of_decide_eq_true shared))
  · intro same
    rw [if_pos same]

/-- Spellings agree in their normal form, and are held equivalent, when they spell one port; the
conversions lead to the SONiC name and to the Linux name of the port and undo each other. -/
theorem interface_alias_algebra (tables : NameTables) (m n : Nat) (left right : String)
    (leftPort : Spells tables left m) (rightPort : Spells tables right n) :
    (normalizeInterfaceName tables (some left) = normalizeInterfaceName tables (some right) ↔
        m = n) ∧
      (areInterfacesEquivalent tables (some left) (some right) = true ↔ m = n) ∧
      toSonicInterface tables (some left) = sonicName (4 * (m - 1)) ∧
      toLinuxInterface tables (some left) = ethName m ∧
      toSonicInterface tables (some (toLinuxInterface tables (some left))) =
        sonicName (4 * (m - 1)) ∧
      toLinuxInterface tables (some (toSonicInterface tables (some left))) = ethName m ∧
      toSonicInterface tables (some (ethName m)) = sonicName (4 * (m - 1)) ∧
      toLinuxInterface tables (some (sonicName (4 * (m - 1)))) = ethName m := by
  have ethPort : Spells tables (ethName m) m := spells_ethName leftPort.positive
  have lanePort : Spells tables (sonicName (4 * (m - 1))) m := spells_sonicName leftPort.positive
  have linux := ethPort.toSonic
  have sonic := lanePort.toLinux
  refine ⟨leftPort.normalize_eq_iff rightPort, leftPort.equivalent_iff rightPort, leftPort.toSonic,
    leftPort.toLinux, ?_, ?_, linux, sonic⟩
  · rw [leftPort.toLinux, linux]
  · rw [leftPort.toSonic, sonic]

/-- A SONiC name with a leading zero and a vendor name in capitals, both of port 3. -/
theorem interface_alias_algebra_three :
    (normalizeInterfaceName .ascii (some " Ethernet08") =
        normalizeInterfaceName .ascii (some "E12-3") ↔ 3 = 3) ∧
      areInterfacesEquivalent .ascii (some " Ethernet08") (some "E12-3") = true := by
  have lane : Digits.western.Numeral ['0', '8'] (4 * (3 - 1)) :=
    ⟨List.cons_ne_nil _ _, List.all_eq_true.mp (by decide +kernel), rfl⟩
  have slot : Digits.western.Numeral ['1', '2'] 12 :=
    ⟨List.cons_ne_nil _ _, List.all_eq_true.mp (by decide +kernel), rfl⟩
  have port : Digits.western.Numeral ['3'] 3 :=
    ⟨List.cons_ne_nil _ _, List.all_eq_true.mp (by decide +kernel), rfl⟩
  have sonic : Spells .ascii " Ethernet08" 3 := by
    have label : PortLabel Digits.western 3 ("Ethernet".toList ++ ['0', '8']) :=
      .sonic (by decide) lane
    exact ⟨by decide, label⟩
  have vendor : Spells .ascii "E12-3" 3 := by
    have label : PortLabel Digits.western 3 (['E'] ++ (['1', '2'] ++ '-' :: ['3'])) :=
      .eStyle (by decide) slot port
    exact ⟨by decide, label⟩
  have algebra := interface_alias_algebra .ascii 3 3 " Ethernet08" "E12-3" sonic vendor
  exact ⟨algebra.1, algebra.2.1.mpr rfl⟩

end NetOpsBench
