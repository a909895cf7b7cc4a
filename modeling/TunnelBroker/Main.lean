import TunnelBroker.Simulation.Fixture
import TunnelBroker.Simulation.Machine

/-!
The program. It runs on a machine in memory that has the configuration file of the real
one. A daemon reads control connections from the standard input, one command a line, and
writes what their clients receive to the standard output.
-/

set_option autoImplicit false

namespace TunnelBroker.Program

open Simulation (Fixture Machine)

def filesWith (path : Path) (content : Option Bytes) : FileSystem :=
  let files := Simulation.emptyFiles path
  let files := { files with nodes := files.nodes.filter (·.1 != path.steps) }
  match content with
  | none => files
  | some content => (Fixture.apply (.file path content 0o644) files).2

def configPath (environment : Environment) (arguments : List Bytes) : Path :=
  match CommandLine.parse arguments with
  | .run ⟨some path, _⟩ => path
  | _ => environment.defaultConfig

def readsInput (arguments : List Bytes) : Bool :=
  match CommandLine.parse arguments with
  | .run ⟨_, .proxy ..⟩ => true
  | _ => false

def bytesOf (content : ByteArray) : Bytes := content.toList

def contentOf? (path : Path) : IO (Option Bytes) := do
  try
    return some (bytesOf (← IO.FS.readBinFile path.text))
  catch _ =>
    return none

partial def serve (machine : Machine) (socket : Path) : IO Unit := do
  let line ← (← IO.getStdin).getLine
  if line.isEmpty then return ()
  let (contact, machine) := machine.contact socket (Text.encode line)
  match contact with
  | .refused _ => return ()
  | .reached incoming =>
    let output ← IO.getStdout
    output.write ⟨incoming.bytes.toArray⟩
    output.flush
    if machine.daemons.any (·.listening) then serve machine socket

def finish (exit : CommandLine.Exit) : IO UInt32 := do
  (← IO.getStdout).write ⟨exit.output.toArray⟩
  if let some message := exit.error then
    (← IO.getStderr).putStrLn ("Error: " ++ message)
  return exit.status.toUInt32

end TunnelBroker.Program

open TunnelBroker in
def main (arguments : List String) : IO UInt32 := do
  let arguments := arguments.map Text.encode
  let environment : Environment := ⟨(← IO.getEnv "HOME").map .ofText, ← IO.getEnv "USER"⟩
  let path := Program.configPath environment arguments
  let files := Program.filesWith path (← Program.contentOf? path)
  let input ← if Program.readsInput arguments then
      Program.bytesOf <$> (← IO.getStdin).readBinToEnd
    else pure []
  let machine := Simulation.Machine.ofFiles files environment 1
  match machine.execute arguments input with
  | (.exit exit, _) => Program.finish exit
  | (.endless, _) => return 1
  | (.serving config _, machine) =>
    Program.serve machine config.settings.socket
    return 0
