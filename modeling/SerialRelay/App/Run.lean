import SerialRelay.App.Job
import SerialRelay.App.Listing

/-!
# Runs

A run reads its arguments and its configuration and does one task over files and terminals. Nothing
is opened or written before the configuration has been checked with what the arguments set.

* `run`: a whole run.
* `Ending.exitCode`: zero, or what the fault says.
-/

namespace SerialRelay

/-- Why a run ends with an exit code other than zero. -/
inductive Fault where
  | usage (e : UsageError)
  | app (e : AppError)
  deriving DecidableEq, Repr

namespace Fault

def message : Fault → String
  | usage e => e.message
  | app e => e.message

def exitCode : Fault → Nat
  | usage _ => 2
  | app e => e.exitCode

end Fault

/-- How a run ends. -/
structure Ending where
  output : String := ""
  fault : Option Fault := none
  files : Files
  terminals : Terminals

def Ending.exitCode (e : Ending) : Nat := e.fault.elim 0 Fault.exitCode

/-- The end of a run that has written a document to a path. What a device has taken shows there. -/
def Ending.ofWritten (fs : Files) (ts : Terminals) (path document : String) : Ending :=
  match fs.find? path with
  | some .output => { output := document, files := fs, terminals := ts }
  | some (.terminal i) =>
    { files := fs, terminals := ts.modify i (·.receive (Text.utf8 document)) }
  | _ => { files := fs, terminals := ts }

def versionText : String := "serial-writer 0.1.0\n"

def helpText : String :=
  "Writes lines from its input to a serial port.\n\n"
    ++ "Usage: serial-writer [OPTIONS]\n\n"
    ++ "  -c, --config PATH       configuration file\n"
    ++ "  -p, --port NAME         port to open first, or its alias\n"
    ++ "  -b, --baud RATE         baud rate\n"
    ++ "  -f, --format FORMAT     text or hex\n"
    ++ "  -t, --terminator TEXT   appended to text lines, with escapes\n"
    ++ "      --log-level LEVEL   log level\n"
    ++ "      --raw               no line is a command\n"
    ++ "  -q, --quiet             do not show forwarded buffers\n"
    ++ "      --json              output for machines\n"
    ++ "      --list              list the serial ports\n"
    ++ "      --save-config PATH  save the configuration\n"
    ++ "  -h, --help              this text\n"
    ++ "  -V, --version           the version\n"

/-- The end of a relaying job: a write that failed is its fault. -/
def Job.ending (j : Job) (fs : Files) (r : Relay Terminals) : Ending where
  output := j.report r
  fault := (failure? r.output).map fun e => .app (.write e)
  files := fs
  terminals := r.world

/-- A relaying job from its first port to its last item. -/
def Job.perform (j : Job) (fs : Files) (ts : Terminals) (input : Bytes) : Ending :=
  match j.initial.mapM (fs.openTerminal []) with
  | .error e => { fault := some (.app (.port e)), files := fs, terminals := ts }
  | .ok initial => j.ending fs ((relay input initial ts).run (j.site fs) j.input)

/-- A task over files and terminals, on a machine without ports of its own. -/
def Task.perform (fs : Files) (ts : Terminals) (input : Bytes) : Task → Ending
  | .save c path =>
    match c.save fs path with
    | (fs, .ok ()) => .ofWritten fs ts path (c.toToml?.getD "")
    | (fs, .error e) => { fault := some (.app (.config e)), files := fs, terminals := ts }
  | .list json => { output := Listed.listing [] json, files := fs, terminals := ts }
  | .relay j => j.perform fs ts input

/-- **A whole run** over files and terminals. -/
def run (args : List String) (env : Environment) (fs : Files) (ts : Terminals) (input : Bytes) :
    Ending :=
  match Arguments.parse args with
  | .error .help => { output := helpText, files := fs, terminals := ts }
  | .error .version => { output := versionText, files := fs, terminals := ts }
  | .error (.usage e) => { fault := some (.usage e), files := fs, terminals := ts }
  | .ok a =>
    match a.task env fs with
    | .error e => { fault := some (.app e), files := fs, terminals := ts }
    | .ok task => task.perform fs ts (a.inputLeft env fs input)

end SerialRelay
