import ServiceMesh.Data.Dict
import ServiceMesh.Settings
import ServiceMesh.Text.Numeral
import ServiceMesh.Text.Split

/-!
# Settings from the command line

Every setting has a long option and an environment variable.  The command line
goes before the environment, and the environment before the default.

* An option takes its value from after an equals sign or from the next argument.
  The next argument is no value if it starts with a hyphen and says something
  after it.
* A flag takes no value.  Its variable must be `true` or `false`.
* An option or flag may be given once, except `--seed`, which may be repeated and
  whose values are cut at commas.
-/

namespace ServiceMesh.Settings

/-- Why a command line is refused. -/
inductive UsageError where
  /-- Help was asked for. -/
  | displayHelp
  /-- An argument is no option. -/
  | unknownArgument
  /-- An option lacks its value, or the variable of a flag is no truth value. -/
  | invalidValue
  /-- A value does not say what its option needs. -/
  | valueValidation
  /-- An option is given twice. -/
  | argumentConflict
  /-- A flag is given a value. -/
  | tooManyValues
deriving DecidableEq, Repr

/-- How an option changes the settings. -/
inductive OptionKind where
  /-- Takes a value that may be refused. -/
  | value (set : Settings → String → Option Settings)
  /-- Takes any number of values. -/
  | list (set : Settings → List String → Settings)
  /-- Takes no value. -/
  | flag (set : Settings → Bool → Settings)

/-- An option of the command line. -/
structure OptionSpec where
  /-- The name after two hyphens. -/
  name : String
  /-- The environment variable. -/
  variableName : String
  /-- What it does. -/
  kind : OptionKind

/-- A value taken as it stands. -/
def textOption (set : Settings → String → Settings) : OptionKind :=
  .value fun s v => some (set s v)

/-- A value that is a port.  It is read as a signed number first, so a sign may
stand before a zero. -/
def portOption (set : Settings → UInt16 → Settings) : OptionKind :=
  .value fun s v => do
    let n ← Text.int? v
    if 0 ≤ n ∧ n ≤ 65535 then some (set s (UInt16.ofNat n.toNat)) else none

/-- A value that is a time in milliseconds. -/
def timeOption (set : Settings → Nat → Settings) : OptionKind :=
  .value fun s v => (Text.nat? 18446744073709551615 v).map (set s)

/-- The options. -/
def options : List OptionSpec := [
  ⟨"broker-id", "MESHRPC_BROKER_ID", textOption fun s v => { s with brokerId := some v }⟩,
  ⟨"app-name", "MESHRPC_APP_NAME", textOption fun s v => { s with appName := v }⟩,
  ⟨"ip", "MESHRPC_IP", textOption fun s v => { s with ip := v }⟩,
  ⟨"external-domain", "MESHRPC_EXTERNAL_DOMAIN",
    textOption fun s v => { s with externalDomain := some v }⟩,
  ⟨"schema", "MESHRPC_SCHEMA", textOption fun s v => { s with schema := v }⟩,
  ⟨"port", "MESHRPC_PORT", portOption fun s v => { s with port := v }⟩,
  ⟨"web-port", "MESHRPC_WEB_PORT", portOption fun s v => { s with webPort := v }⟩,
  ⟨"seed", "MESHRPC_SEEDS", .list fun s v => { s with seeds := v }⟩,
  ⟨"gossip-interval-ms", "MESHRPC_GOSSIP_INTERVAL_MS",
    timeOption fun s v => { s with gossipIntervalMs := v }⟩,
  ⟨"failure-timeout-ms", "MESHRPC_FAILURE_TIMEOUT_MS",
    timeOption fun s v => { s with failureTimeoutMs := v }⟩,
  ⟨"refresh-interval-ms", "MESHRPC_REFRESH_INTERVAL_MS",
    timeOption fun s v => { s with refreshIntervalMs := v }⟩,
  ⟨"load-balance", "MESHRPC_LOAD_BALANCE",
    .value fun s v => (Strategy.ofName? v).map fun k => { s with loadBalance := k }⟩,
  ⟨"sticky", "MESHRPC_STICKY", .flag fun s b => { s with sticky := b }⟩,
  ⟨"call-timeout-ms", "MESHRPC_CALL_TIMEOUT_MS",
    timeOption fun s v => { s with callTimeoutMs := v }⟩,
  ⟨"eager-connect", "MESHRPC_EAGER_CONNECT", .flag fun s b => { s with eagerConnect := b }⟩,
  ⟨"exploration", "MESHRPC_EXPLORATION",
    .value fun s v => (Text.float? v).map fun x => { s with exploration := x }⟩,
  ⟨"log-json", "MESHRPC_LOG_JSON", .flag fun s b => { s with logJson := b }⟩]

/-- The option with a name. -/
def option? (name : String) : Option OptionSpec := options.find? fun o => o.name == name

/-- How far the arguments are read. -/
structure Progress where
  /-- The settings so far. -/
  settings : Settings := {}
  /-- The names of the options given so far. -/
  given : List String := []
  /-- An option that waits for its value, or has one that was not looked at yet. -/
  pending : Option (OptionSpec × Option String) := none

namespace Progress

/-- The values that one argument gives to a list option. -/
def cutAtCommas (v : String) : List String := (Text.splitAll ',' v.toList).map String.ofList

/-- Takes an option with its value.  A missing value is noticed first, then a
second occurrence, then a value that says nothing. -/
def take (p : Progress) (o : OptionSpec) (v : Option String) : Except UsageError Progress :=
  let repeated := p.given.contains o.name
  let done (s : Settings) : Progress := { p with settings := s, given := o.name :: p.given }
  match o.kind, v with
  | .flag set, _ => if repeated then .error .argumentConflict else .ok (done (set p.settings true))
  | .list set, some v => .ok (done (set p.settings (p.settings.seeds ++ cutAtCommas v)))
  | .value set, some v =>
      if repeated then .error .argumentConflict
      else match set p.settings v with
        | some s => .ok (done s)
        | none => .error .valueValidation
  | _, none => .error .invalidValue

/-- Takes the option that waits, if there is one. -/
def settle (p : Progress) : Except UsageError Progress :=
  match p.pending with
  | none => .ok p
  | some (o, v) => take { p with pending := none } o v

/-- Reads a long option: its name and the value after an equals sign. -/
def long (p : Progress) (name : String) (attached : Option String) : Except UsageError Progress :=
  if name = "help" then
    if attached.isSome then .error .tooManyValues
    else do
      let _ ← p.settle
      throw .displayHelp
  else match option? name with
    | none => .error .unknownArgument
    | some o =>
        match o.kind, attached with
        | .flag _, some _ => .error .tooManyValues
        | .flag _, none => do take (← p.settle) o none
        | _, some v => do take (← p.settle) o (some v)
        | _, none => do return { (← p.settle) with pending := some (o, none) }

/-- Reads the arguments one after the other. -/
def read (p : Progress) : List String → Except UsageError Progress
  | [] => p.settle
  | arg :: rest =>
      match arg.toList with
      | ['-', '-'] => if rest.isEmpty then p.settle else .error .unknownArgument
      | '-' :: '-' :: body =>
          match Text.cut? '=' body with
          | some (name, v) => do read (← p.long (String.ofList name) (some (String.ofList v))) rest
          | none => do read (← p.long (String.ofList body) none) rest
      | '-' :: 'h' :: _ => do
          let _ ← p.settle
          throw .displayHelp
      | '-' :: _ :: _ => .error .unknownArgument
      | _ =>
          match p.pending with
          | some (o, none) => read { p with pending := some (o, some arg) } rest
          | _ => .error .unknownArgument

end Progress

/-- Applies the variable of an option that was not given. -/
def applyVariable (env : Dict String String) (given : List String) (s : Settings)
    (o : OptionSpec) : Except UsageError Settings :=
  match if given.contains o.name then none else env.get? o.variableName with
  | none => .ok s
  | some v =>
      match o.kind with
      | .flag set =>
          if v = "true" then .ok (set s true)
          else if v = "false" then .ok (set s false)
          else .error .invalidValue
      | .list set => .ok (set s (Progress.cutAtCommas v))
      | .value set =>
          match set s v with
          | some s => .ok s
          | none => .error .valueValidation

/-- The settings that arguments and environment give.  Arguments are read before
the environment is looked at. -/
def ofArguments (args : List String) (env : Dict String String) : Except UsageError Settings := do
  let p ← Progress.read {} args
  options.foldlM (applyVariable env p.given) p.settings

end ServiceMesh.Settings
