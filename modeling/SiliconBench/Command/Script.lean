import SiliconBench.Message
import SiliconBench.Text.Lines
import SiliconBench.Value.Reader

/-! # Script — what a command does besides computing

A command reads files, writes lines for its user as it goes, and may run into
trouble. What was written before the trouble stays written. Troubles that a user
can mend are EXPLAINED, on a line of their own, and end the command with an exit
code of one; the other faults are left to whoever runs the command.

Files are a list of names and texts. Names that differ only in dots and slashes
that mean nothing are the same name. -/

namespace SiliconBench.Command

/-! ## Files -/

/-- Files: names and texts. -/
abbrev Files := List (String × String)

/-- The parts of a name between slashes; `part` holds the open one, backwards. -/
def partsFrom : List Char → List Char → List (List Char)
  | [], part => [part.reverse]
  | '/' :: rest, part => part.reverse :: partsFrom rest []
  | c :: rest, part => partsFrom rest (c :: part)

/-- The parts of a name that mean something. -/
def pathParts (name : String) : List (List Char) :=
  (partsFrom name.toList []).filter fun part => !part.isEmpty && part != ['.']

/-- Whether a name begins at the root. -/
def isRooted (name : String) : Bool :=
  name.toList.head? == some '/'

/-- A name without the parts that mean nothing. -/
def plainPath (name : String) : List Char :=
  let joined := ['/'].intercalate (pathParts name)
  if isRooted name then '/' :: joined
  else if joined.isEmpty then ['.'] else joined

/-- The last part of a name. -/
def lastPart (name : String) : String :=
  String.ofList ((pathParts name).getLast?.getD [])

namespace Files

/-- The text of a file. -/
def text? (files : Files) (name : String) : Option String :=
  (files.find? fun (other, _) => plainPath other == plainPath name).map Prod.snd

/-- Whether a name is that of a directory: the one that holds the files, or one on
the way to a file. -/
def isDirectory (files : Files) (name : String) : Bool :=
  plainPath name == ['.'] ||
    files.any fun (other, _) => (plainPath name ++ ['/']).isPrefixOf (plainPath other)

end Files

/-! ## Troubles -/

/-- What ends a command early. -/
inductive Trouble where
  | fault (f : Fault Value)
  | noFile (name : String)
  | directory (name : String)
  /-- a settings file that is no JSON -/
  | noJson (text : String) (defect : Value.Defect)
  /-- a settings file that describes no system -/
  | notSystem (path kind : String)
  | unknownProgram (key : String)
  | unknownKernel (key : String)

/-- The lines that explain a trouble, or the fault that is not explained. -/
def Trouble.explanation : Trouble → Except (Fault Value) (List String)
  | .fault (.refused cause) => .ok ["Error: " ++ cause.message]
  | .fault (.badValue cause) => .ok ["Error: " ++ cause.message]
  | .fault f => .error f
  | .noFile name => .ok ["Error: [Errno 2] No such file or directory: " ++ Text.quoted name]
  | .directory name => .ok ["Error: [Errno 21] Is a directory: " ++ Text.quoted name]
  | .noJson text defect => .ok ["Error: " ++ defect.message text]
  | .notSystem path kind =>
    .ok ["Error: " ++ path ++ ": expected a JSON object describing a system, got " ++ kind]
  | .unknownProgram key =>
    .ok ["Error: Unknown program: " ++ key, "Use --list-programs to see available programs"]
  | .unknownKernel key =>
    .ok ["Error: Unknown workload: " ++ key, "Use --list-workloads to see available workloads"]

/-! ## Scripts -/

/-- How much a line of the log matters. -/
inductive Severity where
  | debug
  | info
  | warning
  deriving DecidableEq

/-- The word for a severity. -/
def Severity.word : Severity → String
  | .debug => "DEBUG"
  | .info => "INFO"
  | .warning => "WARNING"

/-- What a command has written so far, the last line first. -/
structure Transcript where
  /-- whether more than warnings is logged -/
  verbose : Bool
  lines : List String

/-- A computation that writes lines and may run into trouble. -/
abbrev Script := ExceptT Trouble (StateM Transcript)

namespace Script

/-- A computation that writes nothing. -/
def lift {β : Type} : Result Value β → Script β
  | .ok x => return x
  | .error f => throw (.fault f)

/-- Writes a line. -/
def write (line : String) : Script Unit :=
  modify fun t => { t with lines := line :: t.lines }

/-- The line that logs a message under the name of a part of the program. -/
def logLine (severity : Severity) (part message : String) : String :=
  severity.word ++ " " ++ part ++ ": " ++ message

/-- Logs a message. -/
def log (severity : Severity) (part message : String) : Script Unit := do
  let t ← get
  if t.verbose || severity = .warning then write (logLine severity part message)

/-- Reads a text file; a trouble names it `shown`. -/
def read (files : Files) (name shown : String) : Script String :=
  match files.text? name with
  | some text => return Text.newlines text
  | none => throw (if files.isDirectory name then .directory shown else .noFile shown)

/-- Reads a settings file. -/
def readJson (files : Files) (name : String) : Script Value := do
  let text ← read files name name
  match Value.ofJson text with
  | .ok v => return v
  | .error defect => throw (.noJson text defect)

end Script

/-! ## The end -/

/-- What a command leaves behind. -/
structure Finish where
  exit : Nat
  out : String
  err : String

/-- Lines as a text, each of them ended. -/
def ended (lines : List String) : String :=
  String.join (lines.map (· ++ "\n"))

namespace Finish

/-- A command that only shows something. -/
def shown (lines : List String) : Finish :=
  ⟨0, ended lines, ""⟩

/-- Runs a script and shows what came of it. -/
def ofScript {β : Type} (verbose : Bool) (script : Script β) (out : β → Result Value String) :
    Except (Fault Value) Finish :=
  match script.run.run ⟨verbose, []⟩ with
  | (.ok x, t) => do return ⟨0, ← out x, ended t.lines.reverse⟩
  | (.error trouble, t) => do
    return ⟨1, "", ended (t.lines.reverse ++ (← trouble.explanation))⟩

end Finish

/-- How a command ends: its arguments are not understood, or they ask for help, or
it runs. -/
inductive Ending where
  | rejected
  | help
  | finished (f : Finish)

end SiliconBench.Command
