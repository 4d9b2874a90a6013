import SerialRelay.App.Error
import SerialRelay.Config.Schema
import SerialRelay.Text.Decimal

/-!
# Arguments

An argument is an option with its value, a switch, or a value that the option before it waits for. A
long name takes its value behind an equals sign, a short one right behind its letter, and both take
the next argument otherwise, unless it starts with a dash. Short switches may stand together. Each
option and each switch may be given once.

An option that waits is settled when the next option or switch is read, or at the end. What is wrong
with the argument at hand therefore goes before what is wrong with an option that still waits,
unless the argument is an option or a switch that exists.

* `Word.ofString`: the parts of an argument.
* `Arguments.parse`: the arguments of a run, or the first reason not to run.
* `Arguments.override`, `Arguments.initialPort?`: what they do to a configuration.
-/

namespace SerialRelay

/-- What the arguments of a run set. -/
structure Arguments where
  config : Option String := none
  port : Option String := none
  baud : Option UInt32 := none
  format : Option InputFormat := none
  terminator : Option String := none
  logLevel : Option String := none
  saveConfig : Option String := none
  /-- No line is a command. -/
  raw : Bool := false
  /-- Forwarded buffers are not shown. -/
  quiet : Bool := false
  /-- The output is for machines. -/
  json : Bool := false
  list : Bool := false
  deriving DecidableEq, Repr

/-- An option that takes a value. -/
inductive Setting where
  | config
  | port
  | baud
  | format
  | terminator
  | logLevel
  | saveConfig
  deriving DecidableEq, Repr

/-- An option that takes none. -/
inductive Switch where
  | raw
  | quiet
  | json
  | list
  | help
  | version
  deriving DecidableEq, Repr

/-- What is wrong with the arguments. -/
inductive UsageError where
  /-- No such option, or a value that no option waits for. -/
  | unknown
  /-- A value is missing, or is none of the choices. -/
  | invalidValue
  /-- A value is no number within its range. -/
  | invalidNumber
  | repeated
  /-- A switch was given a value. -/
  | unwantedValue
  deriving DecidableEq, Repr

def UsageError.message : UsageError → String
  | unknown => "unexpected argument"
  | invalidValue => "a value is missing or not one of the choices"
  | invalidNumber => "a value is not a number within its range"
  | repeated => "an option was given more than once"
  | unwantedValue => "a value for an option that takes none"

/-- Why arguments do not lead to a run. -/
inductive Detour where
  | help
  | version
  | usage (e : UsageError)
  deriving DecidableEq, Repr

/-- An option by its name. -/
inductive Key where
  | setting (s : Setting)
  | switch (s : Switch)
  deriving DecidableEq, Repr

namespace Key

def long : List (String × Key) :=
  [("config", .setting .config), ("port", .setting .port), ("baud", .setting .baud),
    ("format", .setting .format), ("terminator", .setting .terminator),
    ("log-level", .setting .logLevel), ("save-config", .setting .saveConfig),
    ("raw", .switch .raw), ("quiet", .switch .quiet), ("json", .switch .json),
    ("list", .switch .list), ("help", .switch .help), ("version", .switch .version)]

def short : List (Char × Key) :=
  [('c', .setting .config), ('p', .setting .port), ('b', .setting .baud), ('f', .setting .format),
    ('t', .setting .terminator), ('q', .switch .quiet), ('h', .switch .help),
    ('V', .switch .version)]

end Key

/-- The parts of an argument. -/
inductive Word where
  /-- Two dashes alone: no option comes after them. -/
  | separator
  | long (name : String) (attached : Option String)
  | short (letters : List Char)
  /-- A single dash, or what does not start with one. -/
  | plain (text : String)
  deriving DecidableEq, Repr

/-- A text behind its equals sign, if it has one. -/
def behindEquals? : List Char → Option String
  | '=' :: cs => some (String.ofList cs)
  | _ => none

/-- **The parts of an argument**. -/
def Word.ofString (s : String) : Word :=
  match s.toList with
  | ['-', '-'] => .separator
  | '-' :: '-' :: cs =>
    .long (String.ofList (cs.takeWhile (· != '='))) (behindEquals? (cs.dropWhile (· != '=')))
  | '-' :: c :: cs => .short (c :: cs)
  | _ => .plain s

namespace Arguments

def has (a : Arguments) : Setting → Bool
  | .config => a.config.isSome
  | .port => a.port.isSome
  | .baud => a.baud.isSome
  | .format => a.format.isSome
  | .terminator => a.terminator.isSome
  | .logLevel => a.logLevel.isSome
  | .saveConfig => a.saveConfig.isSome

/-- A path; it must not be empty. -/
def readPath (s : String) : Except UsageError String :=
  if s.isEmpty then .error .invalidValue else .ok s

/-- A rate, written with a sign or without. -/
def readRate (s : String) : Except UsageError UInt32 :=
  match Text.integer? s with
  | some (.ofNat n) => if n < UInt32.size then .ok (UInt32.ofNat n) else .error .invalidNumber
  | _ => .error .invalidNumber

def readFormat (s : String) : Except UsageError InputFormat :=
  match Named.ofName? s with
  | some f => .ok f
  | none => .error .invalidValue

/-- Gives an option its value. -/
def assign (a : Arguments) (s : Setting) (v : String) : Except UsageError Arguments :=
  match s with
  | .config => do return { a with config := some (← readPath v) }
  | .port => .ok { a with port := some v }
  | .baud => do return { a with baud := some (← readRate v) }
  | .format => do return { a with format := some (← readFormat v) }
  | .terminator => .ok { a with terminator := some v }
  | .logLevel => .ok { a with logLevel := some v }
  | .saveConfig => do return { a with saveConfig := some (← readPath v) }

/-- Gives an option its value, unless it has one. -/
def set (a : Arguments) (s : Setting) (v : String) : Except Detour Arguments :=
  if a.has s then .error (.usage .repeated) else (a.assign s v).mapError .usage

/-- A switch that must be off. -/
def once (on : Bool) (a : Arguments) : Except Detour Arguments :=
  if on then .error (.usage .repeated) else .ok a

def turnOn (a : Arguments) : Switch → Except Detour Arguments
  | .raw => once a.raw { a with raw := true }
  | .quiet => once a.quiet { a with quiet := true }
  | .json => once a.json { a with json := true }
  | .list => once a.list { a with list := true }
  | .help => .error .help
  | .version => .error .version

end Arguments

/-- Arguments that are being read. -/
structure Reading where
  args : Arguments := {}
  /-- An option whose value comes from the next argument, and that value once it has come. -/
  waiting : Option (Setting × Option String) := none

namespace Reading

/-- **The arguments with the option that waits settled**. -/
def settle (r : Reading) : Except Detour Arguments :=
  match r.waiting with
  | none => .ok r.args
  | some (_, none) => .error (.usage .invalidValue)
  | some (s, some v) => r.args.set s v

def flip (r : Reading) (s : Switch) : Except Detour Reading := do
  let a ← r.settle
  return { args := ← a.turnOn s }

/-- An option with its value. -/
def give (r : Reading) (s : Setting) (v : String) : Except Detour Reading := do
  let a ← r.settle
  return { args := ← a.set s v }

/-- An option whose value is still to come. -/
def await (r : Reading) (s : Setting) : Except Detour Reading := do
  return { args := ← r.settle, waiting := some (s, none) }

def addLong (r : Reading) (name : String) (attached : Option String) : Except Detour Reading :=
  match Key.long.lookup name, attached with
  | none, _ => .error (.usage .unknown)
  | some (.switch s), none => r.flip s
  | some (.switch _), some _ => .error (.usage .unwantedValue)
  | some (.setting s), none => r.await s
  | some (.setting s), some v => r.give s v

/-- Short options that stand together: switches, and at most one option with the rest as its
value. -/
def addShort (r : Reading) : List Char → Except Detour Reading
  | [] => .ok r
  | c :: cs =>
    match Key.short.lookup c with
    | none => .error (.usage .unknown)
    | some (.switch s) =>
      match r.flip s with
      | .error d => .error d
      | .ok r => addShort r cs
    | some (.setting s) =>
      if cs.isEmpty then r.await s
      else r.give s ((behindEquals? cs).getD (String.ofList cs))

/-- A value for the option that waits for one. -/
def addPlain (r : Reading) (text : String) : Except Detour Reading :=
  match r.waiting with
  | some (s, none) => .ok { r with waiting := some (s, some text) }
  | _ => .error (.usage .unknown)

/-- All arguments from here on. Nothing may come behind the separator. -/
def finish (r : Reading) : List String → Except Detour Arguments
  | [] => r.settle
  | s :: rest =>
    match Word.ofString s with
    | .separator => if rest.isEmpty then r.settle else .error (.usage .unknown)
    | .long name attached => do finish (← r.addLong name attached) rest
    | .short letters => do finish (← r.addShort letters) rest
    | .plain text => do finish (← r.addPlain text) rest

end Reading

namespace Arguments

/-- **The arguments of a run**, or the first reason not to run. -/
def parse (args : List String) : Except Detour Arguments := Reading.finish {} args

/-- **A configuration with what the arguments set** in place of its values. -/
def override (a : Arguments) (c : Config) : Config :=
  { serial :=
      { c.serial with port := a.port <|> c.serial.port, baud := a.baud.getD c.serial.baud }
    input :=
      { format := a.format.getD c.input.format
        terminator := a.terminator.getD c.input.terminator }
    logging := { c.logging with level := a.logLevel.getD c.logging.level } }

end Arguments

/-- **The port to open first**, behind its alias. Where no line can be a command there has to be
one. -/
def SerialConfig.initialPort? (c : SerialConfig) (raw : Bool) : Except AppError (Option String) :=
  match c.port with
  | some name => .ok (some (c.aliases.resolve name))
  | none => if raw then .error .noPort else .ok none

end SerialRelay
