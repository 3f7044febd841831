import Mathlib.Algebra.Order.Ring.Nat
import NetOpsBench.Lib.Ipv4
import NetOpsBench.Lib.Words

/-!
# IPv4 networks

Addresses as numbers, networks, their texts, and what `ipaddress` reads of such texts
(`readInterface_text`, `interfaceNetwork_text`). Texts of IPv6 are not read.
-/

namespace Ipv4

/-- The number of an address. -/
def value (address : Nat × Nat × Nat × Nat) : Nat :=
  ((address.1 * 256 + address.2.1) * 256 + address.2.2.1) * 256 + address.2.2.2

def octets (n : Nat) : Nat × Nat × Nat × Nat :=
  (n / 16777216, n / 65536 % 256, n / 256 % 256, n % 256)

/-- `str(ipaddress.IPv4Address(n))` -/
def text (n : Nat) : String := display (octets n)

structure Network : Type where
  address : Nat
  prefixLength : Nat
  deriving DecidableEq, Repr

namespace Network

def size (network : Network) : Nat := 2 ^ (32 - network.prefixLength)

def broadcast (network : Network) : Nat := network.address + network.size - 1

/-- `address in network` -/
def contains (network : Network) (n : Nat) : Bool :=
  decide (network.address ≤ n) && decide (n ≤ network.broadcast)

/-- `str(network)` -/
def text (network : Network) : String :=
  Ipv4.text network.address ++ "/" ++ toString network.prefixLength

/-- The network of an address. -/
def ofAddress (n prefixLength : Nat) : Network := ⟨n - n % 2 ^ (32 - prefixLength), prefixLength⟩

end Network

/-- `ipaddress.IPv4Address(text)` -/
def readAddress (text : String) : Option Nat := (parse text).map value

/-- The length of a mask of leading ones. -/
def maskLength (mask : Nat) : Option Nat :=
  (List.range 33).find? fun length => decide (mask = 2 ^ 32 - 2 ^ (32 - length))

/-- A prefix length, a network mask or a host mask -/
def readMask (text : String) : Option Nat :=
  if Text.isNumeral text ∧ Text.numeralValue text ≤ 32 then some (Text.numeralValue text)
  else (readAddress text).bind fun mask => (maskLength mask).or (maskLength (2 ^ 32 - 1 - mask))

/-- The address and the prefix length of an interface or a network -/
def readInterface (text : String) : Option (Nat × Nat) :=
  match text.toList.splitOn '/' with
  | [address] => (readAddress (.ofList address)).map fun n => (n, 32)
  | [address, mask] =>
      (readAddress (.ofList address)).bind fun n => (readMask (.ofList mask)).map fun p => (n, p)
  | _ => none

/-- `ipaddress.ip_network(text, strict=False)` -/
def readNetwork (text : String) : Option Network :=
  (readInterface text).map fun (n, prefixLength) => .ofAddress n prefixLength

/-- `str(ipaddress.ip_interface(text).network)` -/
def interfaceNetwork (text : String) : Option String := (readNetwork text).map Network.text

/-! ## Texts that are read back -/

set_option maxRecDepth 10000 in
theorem octet_toDigits {n : Nat} (below : n < 256) : octet (Nat.toDigits 10 n) = some n := by
  have all : (List.range 256).all (fun n => octet (Nat.toDigits 10 n) == some n) = true := by rfl
  have this := List.all_eq_true.mp all n (List.mem_range.mpr below)
  exact eq_of_beq this

theorem notMem_toString {n : Nat} {c : Char} (other : c.isDigit = false) :
    c ∉ (toString n).toList := by
  intro mem
  rw [Text.isDigit_of_mem_toString mem] at other
  cases other

theorem parse_display {a b c d : Nat} (first : a < 256) (second : b < 256) (third : c < 256)
    (fourth : d < 256) : parse (display (a, b, c, d)) = some (a, b, c, d) := by
  have chars : (display (a, b, c, d)).toList =
      ['.'].intercalate [(toString a).toList, (toString b).toList, (toString c).toList,
        (toString d).toList] := by
    simp [display, List.intercalate, List.intersperse]
  have parts : (display (a, b, c, d)).toList.splitOn '.' =
      [(toString a).toList, (toString b).toList, (toString c).toList, (toString d).toList] := by
    rw [chars, List.splitOn_intercalate]
    · intro part mem
      simp only [List.mem_cons, List.not_mem_nil, or_false] at mem
      rcases mem with rfl | rfl | rfl | rfl <;> exact notMem_toString (by decide)
    · simp
  unfold parse
  rw [parts]
  simp only [List.map_cons, List.map_nil, Text.toList_toString, octet_toDigits first,
    octet_toDigits second, octet_toDigits third, octet_toDigits fourth]

theorem value_octets (n : Nat) : value (octets n) = n := by
  unfold value octets
  simp only
  omega

theorem readAddress_text {n : Nat} (below : n < 2 ^ 32) : readAddress (text n) = some n := by
  unfold readAddress text
  rw [octets, parse_display (by omega) (by omega) (by omega) (by omega)]
  exact congrArg some (value_octets n)

theorem text_inj {m n : Nat} (left : m < 2 ^ 32) (right : n < 2 ^ 32) (same : text m = text n) :
    m = n := by
  have read := readAddress_text left
  rw [same, readAddress_text right] at read
  exact (Option.some.inj read).symm

/-- The text of an address has digits and dots only. -/
theorem mem_text {n : Nat} {c : Char} (mem : c ∈ (text n).toList) : c.isDigit = true ∨ c = '.' :=
  mem_display mem

theorem solid_text (n : Nat) : Text.Solid (text n) where
  nonempty := by
    intro empty
    have chars := congrArg String.toList empty
    simp [text, display] at chars
  solid := by
    intro c mem
    rcases mem_text mem with digit | rfl
    · exact Text.isSpace_of_isDigit digit
    · decide

theorem solid_slash : Text.Solid "/" where
  nonempty := by decide
  solid := by
    intro c mem
    have slash : c = '/' := by simpa using mem
    subst slash
    rfl

theorem Network.solid_text (network : Network) : Text.Solid network.text :=
  ((Ipv4.solid_text _).append solid_slash).append (Text.Solid.toString _)

/-- The text of an interface. -/
theorem readInterface_text {n prefixLength : Nat} (below : n < 2 ^ 32) (fits : prefixLength ≤ 32) :
    readInterface (text n ++ "/" ++ toString prefixLength) = some (n, prefixLength) := by
  have parts : (text n ++ "/" ++ toString prefixLength).toList.splitOn '/' =
      [(text n).toList, (toString prefixLength).toList] := by
    have chars : (text n ++ "/" ++ toString prefixLength).toList =
        ['/'].intercalate [(text n).toList, (toString prefixLength).toList] := by
      simp [List.intercalate, List.intersperse]
    rw [chars, List.splitOn_intercalate]
    · intro part mem slash
      rcases List.mem_pair.mp mem with rfl | rfl
      · rcases mem_text slash with digit | dot
        · cases digit
        · cases dot
      · exact notMem_toString (by decide) slash
    · simp
  have digits : Text.isNumeral (toString prefixLength) = true := by
    unfold Text.isNumeral
    rw [Bool.and_eq_true, List.all_eq_true]
    exact ⟨by simp,
      fun c mem => Text.isDigit_of_mem_toString mem⟩
  have mask : readMask (toString prefixLength) = some prefixLength := by
    unfold readMask
    rw [Text.numeralValue_toString, if_pos ⟨digits, fits⟩]
  unfold readInterface
  rw [parts]
  simp only [String.ofList_toList, readAddress_text below, mask, Option.bind_some, Option.map_some]

theorem Network.text_inj {m n prefixLength : Nat} (fits : prefixLength ≤ 32) (left : m < 2 ^ 32)
    (right : n < 2 ^ 32)
    (same : (Network.mk m prefixLength).text = (Network.mk n prefixLength).text) : m = n := by
  have read : readInterface (Network.mk m prefixLength).text = some (m, prefixLength) :=
    readInterface_text left fits
  rw [same] at read
  have read' : readInterface (Network.mk n prefixLength).text = some (n, prefixLength) :=
    readInterface_text right fits
  rw [read', Option.some.injEq, Prod.mk.injEq] at read
  exact read.1.symm

theorem interfaceNetwork_text {n prefixLength : Nat} (below : n < 2 ^ 32)
    (fits : prefixLength ≤ 32) :
    interfaceNetwork (text n ++ "/" ++ toString prefixLength) =
      some (Network.ofAddress n prefixLength).text := by
  unfold interfaceNetwork readNetwork
  rw [readInterface_text below fits]
  rfl

example : interfaceNetwork "10.1.2.6/255.255.255.252" = some "10.1.2.4/30" := by decide

/-! ## Networks that are read -/

theorem octet_lt {digits : List Char} {n : Nat} (accepted : octet digits = some n) : n < 256 := by
  unfold octet at accepted
  split at accepted
  · rename_i fits
    obtain rfl := Option.some.inj accepted
    exact fits.2.2.2.2
  · cases accepted

theorem readAddress_lt {text : String} {n : Nat} (read : readAddress text = some n) :
    n < 2 ^ 32 := by
  unfold readAddress at read
  obtain ⟨address, parsed, rfl⟩ := Option.map_eq_some_iff.mp read
  unfold parse at parsed
  split at parsed
  · rename_i a b c d parts
    obtain rfl := Option.some.inj parsed
    have below : ∀ n, some n ∈ (text.toList.splitOn '.').map octet → n < 256 := by
      intro n mem
      obtain ⟨digits, -, accepted⟩ := List.mem_map.mp mem
      exact octet_lt accepted
    rw [parts] at below
    have first := below a (by simp)
    have second := below b (by simp)
    have third := below c (by simp)
    have fourth := below d (by simp)
    unfold value
    simp only
    omega
  · cases parsed

theorem maskLength_le {mask length : Nat} (found : maskLength mask = some length) : length ≤ 32 := by
  unfold maskLength at found
  have inside := List.mem_range.mp (List.mem_of_find?_eq_some found)
  omega

theorem readMask_le {text : String} {length : Nat} (read : readMask text = some length) :
    length ≤ 32 := by
  unfold readMask at read
  split at read
  · rename_i isNumeral
    obtain rfl := Option.some.inj read
    exact isNumeral.2
  · obtain ⟨mask, -, found⟩ := Option.bind_eq_some_iff.mp read
    rcases Option.or_eq_some_iff.mp found with network | ⟨-, host⟩
    · exact maskLength_le network
    · exact maskLength_le host

theorem readInterface_bounds {text : String} {n prefixLength : Nat}
    (read : readInterface text = some (n, prefixLength)) : n < 2 ^ 32 ∧ prefixLength ≤ 32 := by
  unfold readInterface at read
  split at read
  · obtain ⟨address, isAddress, same⟩ := Option.map_eq_some_iff.mp read
    cases same
    exact ⟨readAddress_lt isAddress, Nat.le_refl _⟩
  · obtain ⟨address, isAddress, rest⟩ := Option.bind_eq_some_iff.mp read
    obtain ⟨length, isMask, same⟩ := Option.map_eq_some_iff.mp rest
    cases same
    exact ⟨readAddress_lt isAddress, readMask_le isMask⟩
  · cases read

/-- A network that is read is a block of addresses, and its text is read as the network. -/
theorem readNetwork_bounds {text : String} {network : Network} (read : readNetwork text = some network) :
    network.address + network.size ≤ 2 ^ 32 ∧ readNetwork network.text = some network := by
  unfold readNetwork at read
  obtain ⟨⟨n, prefixLength⟩, isInterface, rfl⟩ := Option.map_eq_some_iff.mp read
  obtain ⟨below, fits⟩ := readInterface_bounds isInterface
  have blocks : 2 ^ 32 = 2 ^ (32 - prefixLength) * 2 ^ prefixLength := by
    rw [← Nat.pow_add]
    congr 1
    omega
  have start : n - n % 2 ^ (32 - prefixLength) =
      2 ^ (32 - prefixLength) * (n / 2 ^ (32 - prefixLength)) := by
    have split := Nat.div_add_mod n (2 ^ (32 - prefixLength))
    omega
  have inside : n / 2 ^ (32 - prefixLength) < 2 ^ prefixLength := by
    apply Nat.div_lt_of_lt_mul
    rwa [← blocks]
  have room : n - n % 2 ^ (32 - prefixLength) + 2 ^ (32 - prefixLength) ≤ 2 ^ 32 := by
    rw [start, blocks]
    calc _ = 2 ^ (32 - prefixLength) * (n / 2 ^ (32 - prefixLength) + 1) := by
          rw [Nat.mul_add, Nat.mul_one]
      _ ≤ _ := Nat.mul_le_mul_left _ inside
  refine ⟨room, ?_⟩
  have pos := Nat.pow_pos (n := 32 - prefixLength) (Nat.zero_lt_two)
  unfold Network.ofAddress readNetwork
  rw [show (Network.mk (n - n % 2 ^ (32 - prefixLength)) prefixLength).text =
    Ipv4.text (n - n % 2 ^ (32 - prefixLength)) ++ "/" ++ toString prefixLength from rfl,
    readInterface_text (by omega) fits, Option.map_some, Option.some.injEq, Network.mk.injEq]
  refine ⟨?_, rfl⟩
  rw [start]
  change 2 ^ (32 - prefixLength) * _ - 2 ^ (32 - prefixLength) * _ % 2 ^ (32 - prefixLength) = _
  rw [Nat.mul_mod_right, Nat.sub_zero]

end Ipv4
