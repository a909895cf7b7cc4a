import TunnelBroker.Proofs.FileSystem.Change
import TunnelBroker.Proofs.Interaction

/-!
Calls that go wrong. A call may fail whenever the surroundings want it to; it changes
nothing then, but a write may have stopped anywhere.
-/

set_option autoImplicit false

namespace TunnelBroker

/-- How a call goes wrong, and how many bytes a write takes before. -/
structure Mishap where
  fault : FileFault
  taken : Nat

namespace FileSystem

def fail (mishap : Mishap) : Interaction.Handler FileCall FileCall.Answer FileSystem
  | .user, files => (files.user, files)
  | .status .., files => (.error mishap.fault, files)
  | .makeDirectory _, files => (.error mishap.fault, files)
  | .setMode .., files => (.error mishap.fault, files)
  | .openFile .., files => (.error mishap.fault, files)
  | .write inode position bytes, files =>
    (.error mishap.fault, (files.write inode position (bytes.take mishap.taken)).2)
  | .sync _, files => (.error mishap.fault, files)
  | .rename .., files => (.error mishap.fault, files)
  | .unlink _, files => (.error mishap.fault, files)
  | .contentOf _, files => (.error mishap.fault, files)
  | .listen _, files => (.error mishap.fault, files)
  | .close inode, files => ((), files.close inode)

def falter (mishaps : Nat → Option Mishap) :
    Interaction.Handler FileCall FileCall.Answer (FileSystem × Nat)
  | call, (files, number) =>
    let (answer, files) := match mishaps number with
      | none => files.react call
      | some mishap => files.fail mishap call
    (answer, files, number + 1)

variable {α : Type} {mishaps : Nat → Option Mishap} {number : Nat} {files : FileSystem}

theorem falter_of_none (fine : mishaps number = none) (call : FileCall) :
    falter mishaps call (files, number) =
      ((files.react call).1, (files.react call).2, number + 1) := by
  simp only [falter, fine]

theorem falter_eq {call : FileCall} {answer : call.Answer} {after : FileSystem}
    (fine : mishaps number = none) (answered : files.react call = (answer, after)) :
    falter mishaps call (files, number) = (answer, after, number + 1) := by
  rw [falter_of_none fine, answered]

theorem falter_of_some {mishap : Mishap} (wrong : mishaps number = some mishap)
    (call : FileCall) :
    falter mishaps call (files, number) =
      ((files.fail mishap call).1, (files.fail mishap call).2, number + 1) := by
  simp only [falter, wrong]

-- Closing a file is the one call that can't go wrong.
theorem falter_close (mishaps : Nat → Option Mishap) (inode : Nat) :
    falter mishaps (.close inode) (files, number) = ((), files.close inode, number + 1) := by
  cases fine : mishaps number with
  | none => exact falter_of_none fine _
  | some mishap => exact falter_of_some fine _

variable {step : FileSystem × Nat → FileSystem × Nat → Prop} {post : α → FileSystem × Nat → Prop}

theorem steps_ask {call : FileCall} {next : call.Answer → FileTask α} {answer : call.Answer}
    {after : FileSystem} (answered : falter mishaps call (files, number) =
      (answer, after, number + 1))
    (now : step (files, number) (after, number + 1))
    (later : (next answer).Steps (falter mishaps) step post (after, number + 1)) :
    (FileTask.ask call >>= next).Steps (falter mishaps) step post (files, number) := by
  constructor
  · rwa [answered]
  · rwa [answered]

end FileSystem

end TunnelBroker
