import SerialRelay.App.Run

/-!
# The command line

Arguments, environment, files and devices of the machine, handed to the definitions that decide what
a run does. A relay moves step by step; what a step needs from outside, a line of input, an open
port or the end of a write, is fetched before the step is taken.
-/

namespace SerialRelay.Main

/-- The variables that a run knows. -/
def knownVariables : List String :=
  ["SERIAL_WRITER_CONFIG", "SERIAL_WRITER_SERIAL_PORT", "SERIAL_WRITER_SERIAL_BAUD",
    "SERIAL_WRITER_SERIAL_TIMEOUT_MS", "SERIAL_WRITER_INPUT_FORMAT",
    "SERIAL_WRITER_INPUT_TERMINATOR", "SERIAL_WRITER_LOGGING_LEVEL",
    "SERIAL_WRITER_LOGGING_FORMAT", "XDG_CONFIG_HOME", "HOME"]

def environment : IO Environment := do
  let vars ← knownVariables.filterMapM fun name => do
    return (← IO.getEnv name).map fun value => (name, Text.utf8 value)
  return { vars := vars }

/-- The files at some paths; what is there but cannot be read counts as a directory. -/
def snapshot (paths : List String) : IO Files := do
  let directory := (← IO.currentDir).toString
  let place : Files := { here := (splitPath directory).names }
  let start := (place.add directory .directory).getD place
  (paths.filter isPath).foldlM (fun fs (path : String) => do
    try
      let content ← IO.FS.readBinFile path
      return (fs.add path (.file content.toList)).getD fs
    catch
      | .noFileOrDirectory .. => return fs
      | _ => return (fs.add path .directory).getD fs) start

/-- Makes the directory of a configuration file, writes the document, puts it into the file. -/
def saveConfig (c : Config) (path : String) : IO (Except ConfigError Unit) := do
  let fault (action : FileAction) (e : IO.Error) : Except ConfigError Unit :=
    .error (.io action path ⟨.other, .text e.toString⟩)
  let parent := (splitPath path).parent
  match ← (if parent.parts.isEmpty then pure () else IO.FS.createDirAll parent.text).toBaseIO with
  | .error e => return fault .create e
  | .ok () =>
    match c.toToml? with
    | none => return .error .unwritable
    | some document =>
      match ← (IO.FS.writeFile path document).toBaseIO with
      | .error e => return fault .write e
      | .ok () => return .ok ()

/-- Devices that have been opened, by the number in their handles. -/
abbrev Devices := List (Nat × IO.FS.Handle)

def openDevice (devices : Devices) (name : String) : IO (Devices × Except PortError Handle) := do
  try
    let device ← IO.FS.Handle.mk name .readWrite
    let number := devices.length
    return ((number, device) :: devices, .ok ⟨number, name⟩)
  catch
    | .resourceBusy .. => return (devices, .error (.notFound name))
    | e => return (devices, .error (.serial e.toString))

def deliver (devices : Devices) (h : Handle) (data : Bytes) : IO (Except PortError Unit) := do
  match devices.lookup h.device with
  | none => return .error .notOpen
  | some device =>
    try
      device.write ⟨data.toArray⟩
      device.flush
      return .ok ()
    catch e => return .error (.io ⟨.other, .text e.toString⟩)

/-- A line of input without its newline; none at the end. -/
partial def readLine (input : IO.FS.Stream) (line : ByteArray) : IO (Option Bytes) := do
  let next ← input.read 1
  match next[0]? with
  | none => return if line.isEmpty then none else some line.toList
  | some b => if b = 10 then return some line.toList else readLine input (line.push b)

/-- A site that answers the next request with what has been fetched. -/
def answering (opened : Except PortError Handle) (written : Except PortError Unit) : Site Unit :=
  ⟨fun _ _ _ => opened, fun w _ _ => (written, w)⟩

def idle : Site Unit := answering (.error .notOpen) (.error .notOpen)

/-- The next step of a relay, with what it needs from outside; none at the end. -/
def step (j : Job) (input : IO.FS.Stream) (devices : Devices) (r : Relay Unit) :
    IO (Devices × Option (Relay Unit)) := do
  match r.writer.phase with
  | .writing h b =>
    let written ← deliver devices h b
    return (devices, r.stepWriter (answering (.error .notOpen) written))
  | _ =>
    match r.stepWriter idle, r.pump.phase with
    | some r, _ => return (devices, some r)
    | none, .opening name =>
      let (devices, opened) ← openDevice devices (j.aliases.resolve name)
      return (devices, r.stepPump (answering opened (.error .notOpen)) j.input)
    | none, .reading =>
      let line ← readLine input .empty
      let fed := { r with pump := { r.pump with input := line.toList } }
      return (devices, fed.stepPump idle j.input)
    | none, _ => return (devices, r.stepPump idle j.input)

/-- All steps of a relay, each shown when it is taken. -/
partial def drive (j : Job) (input : IO.FS.Stream) (devices : Devices)
    (failure : Option WriteFailure) (r : Relay Unit) : IO (Stats × Option WriteFailure) := do
  let (devices, next) ← step j input devices r
  match next with
  | none => return (r.writer.stats, failure)
  | some r =>
    for i in r.output do IO.print (j.echo i)
    (← IO.getStdout).flush
    for l in r.pumpLog ++ r.writerLog do
      if l.level.isShown j.logLevel then IO.eprintln l.text
    let failure := (failure? r.output) <|> failure
    drive j input devices failure { r with output := [], pumpLog := [], writerLog := [] }

def relay (j : Job) : IO (Option Fault) := do
  let (devices, initial) ←
    match j.initial with
    | none => pure ([], .ok none)
    | some name => do
      let (devices, opened) ← openDevice [] name
      pure (devices, opened.map some)
  match initial with
  | .error e => return some (.app (.port e))
  | .ok initial =>
    let (stats, failure) ← drive j (← IO.getStdin) devices none (Job.relay [] initial ())
    IO.print (j.closing stats)
    return failure.map fun e => .app (.write e)

/-- Devices that are usual for serial ports. -/
def usualDevices : List String :=
  (["/dev/ttyUSB", "/dev/ttyACM", "/dev/ttyS"].map fun stem =>
    (List.range 8).map fun n => stem ++ toString n).flatten

def listed : IO (List Listed) := do
  usualDevices.filterMapM fun name => do
    match ← openDevice [] name with
    | (_, .ok _) => return some ⟨name, "unknown"⟩
    | (_, .error _) => return none

def perform : Task → IO (Option Fault)
  | .save c path => do
    match ← saveConfig c path with
    | .ok () => return none
    | .error e => return some (.app (.config e))
  | .list json => do
    IO.print (Listed.listing (← listed) json)
    return none
  | .relay j => relay j

end SerialRelay.Main

open SerialRelay in
def main (args : List String) : IO UInt32 := do
  match Arguments.parse args with
  | .error .help => IO.print helpText; return 0
  | .error .version => IO.print versionText; return 0
  | .error (.usage e) => IO.eprintln ("error: " ++ e.message); return 2
  | .ok a =>
    let env ← Main.environment
    let fs ← Main.snapshot (a.config.toList ++ Config.candidates env)
    let fault ←
      match a.task env fs with
      | .error e => pure (some (.app e))
      | .ok task => Main.perform task
    match fault with
    | none => return 0
    | some f =>
      IO.eprintln ("error: " ++ f.message)
      return f.exitCode.toUInt32
