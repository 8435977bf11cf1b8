import Relocation.CommandLine.Execute

/-!
# The command

Reads and writes real files, prints what the process prints and returns its exit code.
-/

namespace Relocation.CommandLine

/-- The reason behind a failed access to a file. -/
def reasonOf : IO.Error → String
  | .noFileOrDirectory .. => PathFault.noSuchFile.reason
  | .inappropriateType _ 21 _ => PathFault.isADirectory.reason
  | .inappropriateType .. => PathFault.notADirectory.reason
  | .invalidArgument .. => PathFault.nameTooLong.reason
  | e => toString e

/-- Does something to a file. -/
def attemptAccess {α : Type} (action : IO α) : IO (Except String α) := do
  try
    return .ok (← action)
  catch e =>
    return .error (reasonOf e)

/-- The path leads to a directory. -/
def leadsToDirectory (path : String) : IO Bool := do
  try
    (← IO.FS.realPath path).isDir
  catch _ =>
    return false

/-- The contents of a file.  `directoryFault` says what is wrong with a directory. -/
def readFile (directoryFault : PathFault) (path : String) : IO (Except String Storage) := do
  if ← leadsToDirectory path then return .error directoryFault.reason
  else attemptAccess do return (← IO.FS.readBinFile path).toList

/-- Access to real files. -/
def realFiles : FileAccess IO where
  read := readFile .isADirectory
  view path := do
    let fault := if ← leadsToDirectory path then ViewFault.mapping else ViewFault.opening
    return (← readFile .noSuchDevice path).mapError fault
  write path data := do
    if ← leadsToDirectory path then return .error PathFault.isADirectory.reason
    else attemptAccess (IO.FS.writeBinFile path ⟨data.toArray⟩)
  copy source target := do
    if ← leadsToDirectory source then return .error PathFault.notAFile.reason
    else if ← leadsToDirectory target then return .error PathFault.isADirectory.reason
    else attemptAccess do
      let origin ← IO.FS.Handle.mk source .read
      IO.FS.writeBinFile target .empty
      IO.FS.writeBinFile target (← origin.readBinToEnd)

end Relocation.CommandLine

open Relocation.CommandLine in
/-- Runs the command. -/
def main (arguments : List String) : IO UInt32 := do
  let result ← runProcess realFiles arguments
  for line in result.out do
    IO.println line
  for line in result.err do
    IO.eprintln line
  return UInt32.ofNat result.exit
