import NetOpsBench.Faults.Services

/-!
# Commands in containers

`CommandRunner.docker_exec` (`netopsbench/platform/faults/services/command_runner.py`) and
`SonicRuntime.vtysh` (`sonic_runtime.py`). What a container does with a command is arbitrary:
it answers or raises, and the lab changes in any way, whatever it answers.
-/

/-! ## The output of a command -/

namespace Text

/-- `text.splitlines()`, up to empty lines -/
def outputLines (text : String) : List String :=
  (text.toList.splitOnP Text.isLineBreak).map String.ofList

/-- `text.split()` -/
def tokens (text : String) : List String :=
  ((text.toList.splitOnP Text.isSpace).map String.ofList).filter (· ≠ "")

/-- `" ".join(text.split())` -/
def normalized (text : String) : String := Text.join " " (tokens text)

/-- `text.startswith(start)` -/
def beginsWith (start text : String) : Bool := start.toList.isPrefixOf text.toList

/-- `text[n:]` -/
def dropChars (n : Nat) (text : String) : String := String.ofList (text.toList.drop n)

/-- `part in text` -/
def occursIn (part text : String) : Bool := text.toList.tails.any part.toList.isPrefixOf

end Text

namespace NetOpsBench

/-! ## The services -/

/-- What the containers do with a command. -/
structure Shell (δ : Type) : Type where
  exec : String → List String → δ → Except Raised CommandResult × δ

section Calls

variable {δ : Type} (shell : Shell δ) (ctx : FaultRuntimeContext)

def dockerExec (container : String) (args : List String) : Program δ Raised CommandResult :=
  ExceptT.mk (shell.exec container args)

/-- `container_names.get(device)`, which a device without a container has not -/
def containerOf (device : String) : Except Raised String :=
  match ctx.containerName device with
  | some container => .ok container
  | none => .error (.valueError ("Unknown device: " ++ device))

/-- `container_names[device]`; the text of a `KeyError` is the quoted key -/
def containerAt (device : String) : Except Raised String :=
  match ctx.containerName device with
  | some container => .ok container
  | none => .error (.runtimeError (Text.quoted device))

def vtysh (device : String) (commands : List String) : Program δ Raised CommandResult := do
  let container ← Program.ofExcept (containerOf ctx device)
  let result ← dockerExec shell container
    ("vtysh" :: commands.flatMap fun command => ["-c", command])
  if result.returncode = 0 ∧ "write memory" ∈ commands then
    let readable ← dockerExec shell container ["chmod", "a+r", "/etc/frr/frr.conf"]
    if readable.returncode ≠ 0 then
      pure
        { returncode := readable.returncode
          stdout := result.stdout
          stderr := Text.either readable.stderr
            "Saved FRR configuration could not be made readable" }
    else pure result
  else pure result

end Calls

/-! ## Outcomes -/

/-- Exactly one of three propositions. -/
def ExactlyOne (first second third : Prop) : Prop :=
  (first ∨ second ∨ third) ∧ ¬ (first ∧ second) ∧ ¬ (first ∧ third) ∧ ¬ (second ∧ third)

end NetOpsBench
