import SiliconBench.Command.Graphics
import SiliconBench.Command.Processor

/-! # Main — the program

The first argument names the command, `cpu` or `gpu`; the others are its
arguments. The program reads the files that they name, hands everything to the
command, and prints what it leaves behind. -/

namespace SiliconBench

open Command

/-- The bound on seeds that nobody gave: `2 ^ 62`. -/
def entropyBound : Nat := 0x4000000000000000

/-- The files that the arguments of a command name. -/
def filesNamed (options : List Opt) (wanted : Given → List String) (args : List String) :
    List String :=
  match parse options args with
  | .accepted given => wanted given
  | _ => []

/-- Reads those of the files that are there. -/
def readFiles : List String → IO Files
  | [] => return []
  | name :: rest => do
    let files ← readFiles rest
    try
      let text ← IO.FS.readFile name
      return (name, text) :: files
    catch _ => return files

/-- Prints the end of a command; its exit code. -/
def printEnding : Except (Fault Value) Ending → IO UInt32
  | .ok (.finished f) => do
    IO.eprint f.err
    IO.print f.out
    return UInt32.ofNat f.exit
  | .ok .help => do
    IO.println "usage: cpu|gpu [options]"
    return 0
  | .ok .rejected => do
    IO.eprintln "usage: cpu|gpu [options]"
    return 2
  | .error _ => do
    IO.eprintln "Error: the settings hold a value that cannot be computed with"
    return 1

end SiliconBench

open SiliconBench SiliconBench.Command in
/-- Runs the command that the first argument names. -/
def main (args : List String) : IO UInt32 := do
  let entropy ← IO.rand 0 entropyBound
  match args with
  | "cpu" :: rest =>
    let files ← readFiles (filesNamed Processor.options Processor.filesWanted rest)
    printEnding (Processor.command entropy rest files)
  | "gpu" :: rest =>
    let files ← readFiles (filesNamed Graphics.options Graphics.filesWanted rest)
    printEnding (Graphics.command entropy rest files)
  | _ => printEnding (.ok .rejected)
