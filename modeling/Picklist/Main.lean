import Picklist.Run

/-!
# The program

Reads the environment, the files that a run may look for and the standard input, and prints what the
run prints. What is printed is decided elsewhere.
-/

set_option autoImplicit false

namespace Picklist

/-- The variables in a block of texts that end with a zero byte each. -/
def variablesOf (block : List UInt8) : List (String × String) :=
  (block.splitOn 0).filterMap fun entry =>
    let (name, rest) := Reader.run (· != '=') (Unicode.decodeLossy entry).toList
    match rest with
    | _ :: value => some (String.ofList name, String.ofList value)
    | [] => none

/-- The environment of the program. -/
def readEnvironment : IO (List (String × String)) := do
  let block ← (IO.FS.readBinFile "/proc/self/environ").toBaseIO
  match block with
  | .ok bytes => return variablesOf bytes.toList
  | .error _ => return []

/-- Reads the files that exist among the given ones. -/
def readFiles (paths : List Path) : IO (List (Path × List UInt8)) :=
  paths.filterMapM fun (path : Path) => do
    match ← (IO.FS.readBinFile path).toBaseIO with
    | .ok bytes => return some (path, bytes.toList)
    | .error _ => return none

/-- Surroundings with files in them. -/
def Surroundings.withFiles (s : Surroundings) (files : List (Path × List UInt8)) : Surroundings :=
  { s with fileAt := fun path => (files.lookup path).or (s.fileAt path) }

/-- What the program sees of the world when it is called with the given arguments. -/
def readSurroundings (environment : List (String × String)) (a : CommandLine.Arguments) :
    IO Surroundings := do
  let s : Surroundings := { environment := environment }
  let s := s.withFiles (← readFiles (Settings.candidateFiles s a))
  let command := (Settings.load s a).toOption.bind Settings.Effective.searchCommand
  let source := a.command.map sourceOf
  let named := source.toList ++ (command.map Select.SearchCommand.plainWords).getD []
  let s := s.withFiles (← readFiles named)
  if source.any isInputPath then
    let input ← (← IO.getStdin).readBinToEnd
    return { s with input := input.toList }
  else return s

end Picklist

open Picklist in
/-- The program. -/
def main (words : List String) : IO UInt32 := do
  let environment ← readEnvironment
  match CommandLine.parse words (environment.lookup "LISTKIT_CONFIG") with
  | .error e =>
    if e.isRequest then IO.println e.message else IO.eprintln ("error: " ++ e.message)
    return if e.isRequest then 0 else 2
  | .ok a =>
    if a.listThemes then
      Theme.names.forM IO.println
      return 0
    else
      let result := run (← readSurroundings environment a) a
      IO.print result.printed
      match result.error with
      | none => return 0
      | some e =>
        IO.eprintln ("Error: " ++ e.message)
        return 1
