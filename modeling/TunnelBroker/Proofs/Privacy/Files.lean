import TunnelBroker.Privacy.Files
import TunnelBroker.Proofs.FileSystem.Directory
import TunnelBroker.Proofs.Interaction

/-!
Checking how private files are. Main statement: a directory that is there and not open to
everybody passes when it is made sure of, and nothing changes.
-/

set_option autoImplicit false

namespace TunnelBroker

namespace FileNode

/-- Whether everybody may replace what is in the directory. -/
def isExposed (node : FileNode) : Bool :=
  node.isWorldWritable && !node.isSticky

end FileNode

namespace FileSystem

variable {files : FileSystem} {directory : Path} {location : Location} {node : FileNode}

theorem run_bind {α β : Type} (first : FileTask α) (then' : α → FileTask β) :
    files.run (first >>= then') = (files.run first).2.run (then' (files.run first).1) :=
  Interaction.run_bind ..

theorem run_ask {β : Type} (call : FileCall) (then' : call.Answer → FileTask β) :
    files.run (FileTask.ask call >>= then') =
      (files.react call).2.run (then' (files.react call).1) := rfl

theorem run_exists? (path : Path) :
    files.run (FileTask.exists? path) = ((files.find path true).toOption.isSome, files) := rfl

theorem run_isDirectory (path : Path) :
    files.run (FileTask.isDirectory path) =
      ((files.find path true).toOption.any (·.isDirectory), files) := rfl

theorem run_checkShared {path : Path} (found : files.find path true = .ok node) :
    files.run (Privacy.checkShared path) =
      (if node.isExposed then
        .error (.permission ("Directory " ++ path.quoted ++ " is world-writable"))
      else .ok (), files) := by
  unfold Privacy.checkShared
  rw [run_ask, react, found]
  dsimp only
  unfold FileNode.isExposed
  split <;> rfl

-- A file passes if it is as private as it has to be, and the user's own.
theorem run_check (privacy : Privacy) {path : Path} (found : files.find path true = .ok node) :
    (files.run (privacy.check path)).2 = files ∧
      ((files.run (privacy.check path)).1 = .ok () ↔
        privacy.exceeds node.mode = false ∧ node.owner = files.user) := by
  unfold Privacy.check
  rw [run_ask, react, found]
  dsimp only
  cases guarded : privacy.exceeds node.mode with
  | true =>
    refine ⟨rfl, ?_⟩
    constructor
    · intro wrong
      cases wrong
    · rintro ⟨⟨⟩, -⟩
  | false =>
    simp only [Bool.false_eq_true, if_false]
    rw [run_ask, react]
    dsimp only
    by_cases owned : node.owner = files.user
    · simp only [owned, if_true]
      exact ⟨rfl, fun _ => ⟨trivial, trivial⟩, fun _ => rfl⟩
    · simp only [owned, if_false]
      refine ⟨rfl, ?_⟩
      constructor
      · intro wrong
        cases wrong
      · rintro ⟨-, ⟨⟩⟩

theorem run_ensureDirectory (located : Located files directory location node)
    (guarded : node.isExposed = false) :
    files.run (Privacy.ensureDirectory directory) = (.ok (), files) := by
  unfold Privacy.ensureDirectory
  rw [run_bind, run_exists?, located.find]
  simp only [Except.toOption, Option.isSome_some, if_true]
  rw [run_bind, run_isDirectory, located.find]
  simp only [Except.toOption, Option.any_some, located.isDirectory, if_true]
  rw [run_checkShared located.find, guarded]
  rfl

end FileSystem

end TunnelBroker
