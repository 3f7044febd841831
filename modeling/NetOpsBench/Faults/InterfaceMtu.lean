import NetOpsBench.Faults.CommandRunner

/-!
# The MTU of an interface

`InterfaceRuntime.get_interface_mtu` of
`netopsbench/platform/faults/services/interface_runtime.py`. The interface itself is asked
first, then its row in CONFIG_DB; when neither answers, the value is the one that most of the
other ports have.
-/

namespace NetOpsBench

/-- `int` on a text, of which the decimal digits are fixed. -/
structure IntReader : Type where
  int : String → Option Int
  int_toString : ∀ n : Nat, int (toString n) = some (n : Int)

namespace InterfaceRuntime

def sonicMinInterfaceMtu : Int := 68

def sonicMaxInterfaceMtu : Int := 9216

def sonicDefaultInterfaceMtu : Int := 9100

/-- `SONIC_MIN_INTERFACE_MTU <= value <= SONIC_MAX_INTERFACE_MTU` -/
def InRange (value : Int) : Prop := sonicMinInterfaceMtu ≤ value ∧ value ≤ sonicMaxInterfaceMtu

instance (value : Int) : Decidable (InRange value) := inferInstanceAs (Decidable (_ ∧ _))

variable (reader : IntReader)

/-- `int(text)` where `is_valid_sonic_mtu(text)` -/
def validMtu (text : String) : Option Int := (reader.int text).filter fun value => InRange value

/-- `parse_link_mtu`, on the words of the output -/
def parseLinkMtu : List String → Option Int
  | token :: candidate :: rest =>
      if token = "mtu" then validMtu reader candidate else parseLinkMtu (candidate :: rest)
  | _ => none

/-- Of the values with the most entries the largest. -/
def mostCommon (values : List Int) : Option Int :=
  values.foldl (fun best value =>
    match best with
    | none => some value
    | some kept =>
        if values.count kept < values.count value ∨
            (values.count kept = values.count value ∧ kept < value) then some value
        else some kept) none

/-- The keys of the other ports. -/
def otherPorts (excludeInterface output : String) : List String :=
  ((Text.outputLines output).map Text.strip).filter fun key =>
    Text.beginsWith "PORT|" key &&
      !(excludeInterface != "" && key == "PORT|" ++ excludeInterface)

section Readings

variable {δ : Type} (shell : Shell δ) (ctx : FaultRuntimeContext)

/-- The valid MTUs of the rows of CONFIG_DB. -/
def portMtus (container : String) : List String → Program δ Raised (List Int)
  | [] => pure []
  | key :: keys => do
      let result ← dockerExec shell container ["sonic-db-cli", "CONFIG_DB", "hget", key, "mtu"]
      let values ← portMtus container keys
      pure ((validMtu reader (Text.strip result.stdout)).toList ++ values)

def getCommonPortMtu (device excludeInterface : String) : Program δ Raised Int := do
  let container ← Program.ofExcept (containerOf ctx device)
  let result ← dockerExec shell container ["sonic-db-cli", "CONFIG_DB", "keys", "PORT|*"]
  if result.returncode = 0 then
    let values ← portMtus reader shell container (otherPorts excludeInterface result.stdout)
    pure ((mostCommon values).getD sonicDefaultInterfaceMtu)
  else pure sonicDefaultInterfaceMtu

/-- `PORT|{interface}` in CONFIG_DB, and the other ports where it has no MTU -/
def configuredMtu (container device sonicInterface : String) : Program δ Raised Int := do
  let result ← dockerExec shell container
    ["sonic-db-cli", "CONFIG_DB", "hget", "PORT|" ++ sonicInterface, "mtu"]
  match validMtu reader (Text.strip result.stdout) with
  | some mtu => pure mtu
  | none => getCommonPortMtu reader shell ctx device sonicInterface

def getInterfaceMtu (device sonicInterface : String) : Program δ Raised Int := do
  let container ← Program.ofExcept (containerOf ctx device)
  let result ← dockerExec shell container ["ip", "-o", "link", "show", "dev", sonicInterface]
  match parseLinkMtu reader (if result.returncode = 0 then Text.tokens result.stdout else []) with
  | some liveMtu => pure liveMtu
  | none => configuredMtu reader shell ctx container device sonicInterface

end Readings

/-! ## What is read -/

section Range

variable {reader} {δ : Type} {shell : Shell δ} {ctx : FaultRuntimeContext}

theorem inRange_of_validMtu {text : String} {mtu : Int} (valid : validMtu reader text = some mtu) :
    InRange mtu :=
  of_decide_eq_true (Option.filter_eq_some_iff.mp valid).2

theorem inRange_of_parseLinkMtu {words : List String} {mtu : Int}
    (read : parseLinkMtu reader words = some mtu) : InRange mtu := by
  induction words with
  | nil => cases read
  | cons token rest ih =>
      cases rest with
      | nil => cases read
      | cons candidate rest =>
          unfold parseLinkMtu at read
          split at read
          · exact inRange_of_validMtu read
          · exact ih read

theorem mem_of_mostCommon {values : List Int} {mtu : Int} (most : mostCommon values = some mtu) :
    mtu ∈ values := by
  have among : ∀ (later : List Int) (best : Option Int), (∀ kept ∈ best, kept ∈ values) →
      (∀ value ∈ later, value ∈ values) → ∀ kept ∈ later.foldl (fun best value =>
        match best with
        | none => some value
        | some kept =>
            if values.count kept < values.count value ∨
                (values.count kept = values.count value ∧ kept < value) then some value
            else some kept) best, kept ∈ values := by
    intro later
    induction later with
    | nil => exact fun best inside _ => inside
    | cons value later ih =>
        intro best inside all
        rw [List.foldl_cons]
        apply ih
        · intro kept isKept
          have isValue : value ∈ values := all value List.mem_cons_self
          cases best with
          | none => exact Option.some.inj isKept ▸ isValue
          | some old =>
              dsimp only at isKept
              split at isKept
              · exact Option.some.inj isKept ▸ isValue
              · exact inside kept isKept
        · exact fun other mem => all other (List.mem_cons_of_mem _ mem)
  exact among values none (fun _ none_ => by cases none_) (fun _ mem => mem) mtu most

end Range

end InterfaceRuntime

end NetOpsBench
