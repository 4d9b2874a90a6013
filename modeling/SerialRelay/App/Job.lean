import SerialRelay.App.Arguments
import SerialRelay.Config.Store
import SerialRelay.Port.Terminal

/-!
# Jobs and tasks

What a run has to do, decided before anything is opened or written: it saves the configuration,
lists the ports, or does a job, which is to relay its input.

* `Arguments.effectiveConfig`: the configuration of a run.
* `Arguments.task`: the task of a run, or the fault that ends it.
* `Job.relay`: the relay of a job before its first step.
* `Job.report`: what a job prints.
-/

namespace SerialRelay

/-- What a relaying run works with. -/
structure Job where
  input : InputSettings
  line : LineSettings
  aliases : Aliases
  /-- The port to open first. -/
  initial : Option String
  quiet : Bool
  json : Bool
  logLevel : String

inductive Task where
  /-- Saves a configuration. -/
  | save (config : Config) (path : String)
  | list (json : Bool)
  | relay (job : Job)

/-- The file that a run reads its configuration from. -/
def Arguments.configFile? (a : Arguments) (env : Environment) (fs : Files) : Option String :=
  a.config <|> Config.path? env fs

/-- What is left of the input when the configuration has been read: nothing if it was read from
there. -/
def Arguments.inputLeft (a : Arguments) (env : Environment) (fs : Files) (input : Bytes) : Bytes :=
  match (a.configFile? env fs).bind fs.find? with
  | some (.input _) => []
  | _ => input

/-- The configuration that the arguments ask for, with what they set, if it can be used. -/
def Arguments.effectiveConfig (a : Arguments) (env : Environment) (fs : Files) :
    Except ConfigError Config := do
  let loaded ←
    match a.config with
    | some path => Config.loadFrom env fs path
    | none => Config.load env fs
  let c := a.override loaded.config
  c.validate
  return c

/-- The relaying job of a configuration. -/
def Arguments.job (a : Arguments) (c : Config) : Except AppError Job := do
  let terminator ← (Terminator.decode c.input.terminator).mapError .input
  return {
    input := { format := c.input.format, terminator := terminator, commands := !a.raw }
    line := c.serial.lineSettings
    aliases := c.serial.aliases
    initial := ← c.serial.initialPort? a.raw
    quiet := a.quiet
    json := a.json
    logLevel := c.logging.level }

/-- **The task of a run**: saving goes before listing, listing before relaying. -/
def Arguments.task (a : Arguments) (env : Environment) (fs : Files) : Except AppError Task := do
  let c ← (a.effectiveConfig env fs).mapError .config
  match a.saveConfig with
  | some path => return .save c path
  | none => if a.list then return .list a.json else return .relay (← a.job c)

/-- The failure among the items of an output, if there is one. -/
def failure? (items : List Item) : Option WriteFailure :=
  items.findSome? fun i =>
    match i with
    | .failed e => some e
    | .forwarded _ => none

namespace Job

/-- The most buffers that wait for the writer. -/
def queueDepth : Nat := 64

/-- The relay of a job before its first step. -/
def relay {W : Type} (input : Bytes) (initial : Option Handle) (world : W) : Relay W :=
  .start (Link.withCapacity queueDepth) input initial world

/-- What is shown of an item. -/
def echo (j : Job) : Item → String
  | .forwarded b =>
    if j.quiet || j.json then ""
    else "-> " ++ toString b.length ++ " byte(s): " ++ Hex.preview b 16 ++ "\n"
  | .failed _ => ""

/-- What is shown of the counters at the end. -/
def closing (j : Job) (s : Stats) : String := if j.json then s.toJson.pretty ++ "\n" else ""

/-- **What a job prints**: its items one by one, its counters at the end. -/
def report {W : Type} (j : Job) (r : Relay W) : String :=
  String.join (r.output.map j.echo) ++ j.closing r.writer.stats

/-- Terminals as the ports of a job. -/
def site (j : Job) (fs : Files) : Site Terminals :=
  Terminals.site fs j.line.timeout j.aliases.resolve

end Job

end SerialRelay
