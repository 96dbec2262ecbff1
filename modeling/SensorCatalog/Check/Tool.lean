import SensorCatalog.Check.Directory

/-!
# Tools

A tool is a program of its own. Starting it can fail; otherwise it ends with an exit status, and
what it wrote is kept.

## Main definitions

* `Check.ExitStatus`, `Check.ExitStatus.message`: how a program ended.
* `Check.Launch`: what comes of starting a program.
* `Check.Tool`, `Check.Invocation`: a tool, and a start of one.
* `Check.Tool.started`: the starts that come of starting a tool once.
-/

namespace SensorCatalog.Check

/-- How a program ended. -/
inductive ExitStatus where
  /-- By itself, with a code. -/
  | exited (code : Nat)
  /-- By a signal. -/
  | killed (signal : Nat)
  deriving DecidableEq

/-- The program ended well. -/
def ExitStatus.isSuccess : ExitStatus → Bool
  | .exited code => code == 0
  | .killed _ => false

/-- The names of the signals, by number from one on. -/
def signalNames : List String :=
  ["SIGHUP", "SIGINT", "SIGQUIT", "SIGILL", "SIGTRAP", "SIGABRT", "SIGBUS", "SIGFPE", "SIGKILL",
    "SIGUSR1", "SIGSEGV", "SIGUSR2", "SIGPIPE", "SIGALRM", "SIGTERM", "SIGSTKFLT", "SIGCHLD",
    "SIGCONT", "SIGSTOP", "SIGTSTP", "SIGTTIN", "SIGTTOU", "SIGURG", "SIGXCPU", "SIGXFSZ",
    "SIGVTALRM", "SIGPROF", "SIGWINCH", "SIGIO", "SIGPWR", "SIGSYS"]

/-- The name of a signal in brackets, if it has one. -/
def signalName : Nat → String
  | 0 => ""
  | n + 1 =>
    match signalNames[n]? with
    | some name => " (" ++ name ++ ")"
    | none => ""

/-- How an end is said. -/
def ExitStatus.message : ExitStatus → String
  | .exited code => "exit status: " ++ toString code
  | .killed signal => "signal: " ++ toString signal ++ signalName signal

/-- What a program left when it ended. -/
structure Output where
  /-- How it ended. -/
  status : ExitStatus
  /-- What it wrote as its result. -/
  stdout : ByteArray
  /-- What it wrote besides. -/
  stderr : ByteArray

/-- What comes of starting a program. -/
inductive Launch where
  /-- It cannot be started. -/
  | refused (reason : String)
  /-- It runs to its end. -/
  | finished (output : Output)

/-- Why a program that is not installed cannot be started. -/
def notFound : String := "No such file or directory (os error 2)"

/-- A tool and what it does. -/
structure Tool where
  /-- The name that it is started by. -/
  name : String
  /-- What comes of starting it. -/
  launch : Launch

/-- A start of a tool. -/
structure Invocation where
  /-- The name of the tool. -/
  tool : String
  /-- What it is told. -/
  arguments : List String
  /-- The place where it is run. -/
  directory : String
  deriving DecidableEq

/-- A start as it is said. -/
def Invocation.message (i : Invocation) : String :=
  " ".intercalate (i.tool :: i.arguments) ++ " in " ++ i.directory

/-- The starts of a tool that come of starting it once in a directory: none if that fails. -/
def Tool.started (tool : Tool) (arguments : List String) (directory : String) : List Invocation :=
  match tool.launch with
  | .refused _ => []
  | .finished _ => [⟨tool.name, arguments, placeOf directory⟩]

end SensorCatalog.Check
