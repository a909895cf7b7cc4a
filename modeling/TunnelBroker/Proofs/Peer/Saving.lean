import TunnelBroker.Peer.File
import TunnelBroker.Proofs.FileSystem.Mishap

/-!
How a peer file is saved. Main statement: whatever goes wrong, the new file is a draft until it
has taken the name of the old one, and it has done so exactly if the save succeeds.
-/

set_option autoImplicit false

namespace TunnelBroker.Peers

/--
What is known of the files in the course of a save: of a file system in which the new file is
`drafted` with some content, and of one where it is `done`.
-/
structure Course (files : FileSystem) (directory : Path) (text : Bytes)
    (drafted : Nat → Bytes → FileSystem → Prop) (done : FileSystem → Prop) : Prop where
  opens : (∃ inode after,
      files.openFile (newFile directory) true Privacy.peerFile.limit = (.ok inode, after) ∧
        drafted inode [] after) ∨
    ∃ fault, files.openFile (newFile directory) true Privacy.peerFile.limit = (.error fault, files)
  writes : ∀ inode content bytes now, drafted inode content now →
    drafted inode (FileSystem.written .start bytes content)
      (now.modify inode (FileSystem.writeNode .start bytes))
  renames : ∀ inode now, drafted inode text now →
    (∃ after, now.rename (newFile directory) (file directory) = (.ok (), after) ∧ done after) ∨
      ∃ fault, now.rename (newFile directory) (file directory) = (.error fault, now)
  draftedClose : ∀ inode content now, drafted inode content now →
    drafted inode content (now.close inode)
  doneClose : ∀ inode now, done now → done (now.close inode)

/-- The new file has not taken the name of the old one yet. -/
inductive Begun (files : FileSystem) (drafted : Nat → Bytes → FileSystem → Prop) :
    FileSystem → Prop where
  | idle : Begun files drafted files
  | drafting {inode : Nat} {content : Bytes} {now : FileSystem}
    (isDrafted : drafted inode content now) : Begun files drafted now

/-- The steps of a save: first there are drafts, and then the file is done. -/
def Proceeds (files : FileSystem) (drafted : Nat → Bytes → FileSystem → Prop)
    (done : FileSystem → Prop) (before now : FileSystem × Nat) : Prop :=
  Begun files drafted before.1 ∧ (Begun files drafted now.1 ∨ done now.1) ∨
    done before.1 ∧ done now.1

theorem Proceeds.now {files : FileSystem} {drafted : Nat → Bytes → FileSystem → Prop}
    {done : FileSystem → Prop} {before now : FileSystem × Nat}
    (proceeds : Proceeds files drafted done before now) :
    Begun files drafted now.1 ∨ done now.1 := by
  rcases proceeds with ⟨-, now⟩ | ⟨-, now⟩
  · exact now
  · exact .inr now

/-- What publishing a draft comes to: the draft is done, or it is a draft still. -/
def Publishes (drafted : Nat → Bytes → FileSystem → Prop) (done : FileSystem → Prop)
    (inode : Nat) (result : Except Failure Unit) (last : FileSystem × Nat) : Prop :=
  match result with
  | .ok _ => done last.1
  | .error _ => ∃ content, drafted inode content last.1

/-- What a save comes to: it is done exactly if it succeeds. -/
def Concludes (files : FileSystem) (drafted : Nat → Bytes → FileSystem → Prop)
    (done : FileSystem → Prop) (result : Except Failure Unit) (last : FileSystem × Nat) : Prop :=
  match result with
  | .ok _ => done last.1
  | .error _ => Begun files drafted last.1

/-- Let the new peer file take the name of the old one. -/
def takeName (directory : Path) : FileTask (Except Failure Unit) := do
  match ← FileTask.ask (.rename (newFile directory) (file directory)) with
  | .error fault => return .error fault.failure
  | .ok _ => return .ok ()

variable {files now : FileSystem} {directory : Path} {peers : Peers} {inode number : Nat}
  {drafted : Nat → Bytes → FileSystem → Prop} {done : FileSystem → Prop}
  {mishaps : Nat → Option Mishap}

theorem Course.steps_takeName {text : Bytes} (course : Course files directory text drafted done)
    (isDrafted : drafted inode text now) :
    (takeName directory).Steps (FileSystem.falter mishaps) (Proceeds files drafted done)
      (Publishes drafted done inode) (now, number) := by
  have stays : Proceeds files drafted done (now, number) (now, number + 1) :=
    .inl ⟨.drafting isDrafted, .inl (.drafting isDrafted)⟩
  unfold takeName
  cases outcome : mishaps number with
  | some mishap =>
    apply FileSystem.steps_ask (FileSystem.falter_of_some outcome _)
    · exact stays
    · exact ⟨text, isDrafted⟩
  | none =>
    rcases course.renames inode now isDrafted with ⟨after, renamed, isDone⟩ | ⟨fault, refused⟩
    · refine FileSystem.steps_ask (FileSystem.falter_eq outcome renamed) ?_ ?_
      · exact .inl ⟨.drafting isDrafted, .inr isDone⟩
      · exact isDone
    · refine FileSystem.steps_ask (FileSystem.falter_eq outcome refused) ?_ ?_
      · exact stays
      · exact ⟨text, isDrafted⟩

theorem Course.steps_publish {text : Bytes} (course : Course files directory text drafted done)
    (isDrafted : drafted inode [] now) :
    (publish directory inode text).Steps (FileSystem.falter mishaps)
      (Proceeds files drafted done) (Publishes drafted done inode) (now, number) := by
  have goesOn {content other : Bytes} {before after : FileSystem × Nat}
      (isDrafted : drafted inode content before.1) (isDraftedStill : drafted inode other after.1) :
      Proceeds files drafted done before after :=
    .inl ⟨.drafting isDrafted, .inl (.drafting isDraftedStill)⟩
  unfold publish
  cases first : mishaps number with
  | some mishap =>
    -- The draft has the beginning of the text, and is a draft all the same.
    have cut := course.writes inode [] (text.take mishap.taken) now isDrafted
    apply FileSystem.steps_ask (FileSystem.falter_of_some first _)
    · exact goesOn isDrafted cut
    · exact ⟨_, cut⟩
  | none =>
    have whole := course.writes inode [] text now isDrafted
    rw [FileSystem.written_nil] at whole
    apply FileSystem.steps_ask (FileSystem.falter_of_none first _)
    · exact goesOn isDrafted whole
    · cases second : mishaps (number + 1) with
      | some mishap =>
        apply FileSystem.steps_ask (FileSystem.falter_of_some second _)
        · exact goesOn whole whole
        · exact ⟨text, whole⟩
      | none =>
        apply FileSystem.steps_ask (FileSystem.falter_of_none second _)
        · exact goesOn whole whole
        · dsimp only [FileSystem.react, FileSystem.sync]
          split
          · exact ⟨text, whole⟩
          · exact course.steps_takeName whole

/-- Saving step by step. -/
theorem Course.steps_save (course : Course files directory (Text.encode peers.text) drafted done)
    (mishaps : Nat → Option Mishap) (number : Nat) :
    (save directory peers).Steps (FileSystem.falter mishaps) (Proceeds files drafted done)
      (Concludes files drafted done) (files, number) := by
  have stays : Proceeds files drafted done (files, number) (files, number + 1) :=
    .inl ⟨.idle, .inl .idle⟩
  unfold save
  cases first : mishaps number with
  | some mishap =>
    apply FileSystem.steps_ask (FileSystem.falter_of_some first _)
    · exact stays
    · exact .idle
  | none =>
    rcases course.opens with ⟨inode, after, opened, isDrafted⟩ | ⟨fault, refused⟩
    · refine FileSystem.steps_ask (FileSystem.falter_eq first opened) ?_ ?_
      · exact .inl ⟨.idle, .inl (.drafting isDrafted)⟩
      · apply Interaction.Steps.bind (course.steps_publish isDrafted)
        rintro result ⟨last, lastNumber⟩ outcome
        refine FileSystem.steps_ask (FileSystem.falter_close mishaps inode) ?_ ?_
        · cases result with
          | ok _ => exact .inr ⟨outcome, course.doneClose inode last outcome⟩
          | error failure =>
            obtain ⟨content, isDrafted⟩ := outcome
            have closed := course.draftedClose inode content last isDrafted
            exact .inl ⟨.drafting isDrafted, .inl (.drafting closed)⟩
        · cases result with
          | ok _ => exact course.doneClose inode last outcome
          | error failure =>
            obtain ⟨content, isDrafted⟩ := outcome
            exact .drafting (course.draftedClose inode content last isDrafted)
    · refine FileSystem.steps_ask (FileSystem.falter_eq first refused) ?_ ?_
      · exact stays
      · exact .idle

end TunnelBroker.Peers
