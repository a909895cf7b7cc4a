import TunnelBroker.Daemon.AcceptLoop

/-!
The end of the accept loop. Main statement: the loop never ends before the daemon was told to
stop, and once it was, whenever that was and whatever else happens, the loop accepts at most one
connection more, needs nobody's help to go on, and ends without a failure after three steps.
-/

set_option autoImplicit false

namespace TunnelBroker.AcceptLoop

/-- What each event does where it can happen. -/
inductive Happens (state : State) : Event → State → Prop where
  | stop : Happens state .stop { state with signal := state.signal.give }
  | join : Happens state .join { state with others := state.others + 1 }
  | leave : Happens state .leave { state with others := state.others - 1 }
  | follow (starting : state.point = .starting) :
    Happens state .follow { state with point := .looking, seen := state.signal.version }
  | notices (looking : state.point = .looking) (given : state.signal.given = true) :
    Happens state .look { state with seen := state.signal.version }.finish
  | settles (looking : state.point = .looking) (unset : state.signal.given = false) :
    Happens state .look { state with point := .waiting, seen := state.signal.version }
  | wake (waiting : state.point = .waiting) (newer : state.seen < state.signal.version) :
    Happens state .wake { state with point := .looking, seen := state.signal.version }
  | orphaned (waiting : state.point = .waiting) (alone : state.holds = false) :
    Happens state .orphaned state.finish
  | accept (waiting : state.point = .waiting) :
    Happens state .accept { state with
      point := .looking
      accepted := state.accepted + 1
      others := state.others + 1 }
  | acceptFails (failure : Failure) (waiting : state.point = .waiting) :
    Happens state (.acceptFails failure) { state with point := .resting }
  | rested (resting : state.point = .resting) :
    Happens state .rested { state with point := .looking }

variable {state next after : State} {event : Event} {events later : List Event}

theorem happens_of_step (stepped : step state event = some next) : Happens state event next := by
  unfold step at stepped
  split at stepped
  case h_1 =>
    cases stepped
    exact .stop
  case h_2 =>
    cases stepped
    exact .join
  case h_3 =>
    split at stepped
    · cases stepped
    · cases stepped
      exact .leave
  case h_4 starting =>
    cases stepped
    exact .follow starting
  case h_5 looking =>
    cases stepped
    cases given : state.signal.given with
    | true => exact .notices looking given
    | false => exact .settles looking given
  case h_6 waiting =>
    split at stepped
    · next newer =>
      cases stepped
      exact .wake waiting newer
    · cases stepped
  case h_7 waiting =>
    split at stepped
    · next lost =>
      cases stepped
      exact .orphaned waiting lost.2.1
    · cases stepped
  case h_8 waiting =>
    cases stepped
    exact .accept waiting
  case h_9 failure waiting =>
    cases stepped
    exact .acceptFails failure waiting
  case h_10 resting =>
    cases stepped
    exact .rested resting
  case h_11 => cases stepped

/-- Steps that the loop makes, whoever has a part in them. -/
def Event.isOwn : Event → Bool
  | stop | join | leave => false
  | _ => true

/-- How many steps the loop makes at most before it ends, once the daemon was told to stop. -/
def Point.stepsLeft : Point → Nat
  | starting => 2
  | looking => 1
  | waiting => 3
  | resting => 2
  | ended _ => 0

/-- How many connections the loop accepts at most, once the daemon was told to stop. -/
def Point.acceptsLeft : Point → Nat
  | waiting => 1
  | _ => 0

theorem Point.acceptsLeft_le (point : Point) : point.acceptsLeft ≤ 1 := by
  cases point <;> simp [acceptsLeft]

theorem Point.eq_waiting_of_acceptsLeft {point : Point} (positive : 0 < point.acceptsLeft) :
    point = waiting := by
  cases point <;> simp [acceptsLeft] at positive ⊢

/--
The loop has hold of the daemon until it ends, it ends only when the daemon was told to stop, and
while it waits it has not seen a signal that was given.
-/
structure Sound (state : State) : Prop where
  holds : 0 < state.point.stepsLeft → state.holds = true
  ended : ∀ result, state.point = .ended result → result = .ok () ∧ state.signal.given = true
  seen : state.seen ≤ state.signal.version
  alert : state.point = .waiting → state.signal.given = true → state.seen < state.signal.version

theorem Sound.initial (signal : StopSignal) (others : Nat) : Sound (.initial signal others) where
  holds := fun _ => rfl
  ended := nofun
  seen := Nat.zero_le _
  alert := nofun

-- A loop that is about to look has nothing to remember but what it has hold of.
theorem Sound.of_looking (looking : next.point = .looking) (holds : next.holds = true)
    (seen : next.seen ≤ next.signal.version) : Sound next where
  holds := fun _ => holds
  ended := by simp [looking]
  seen := seen
  alert := by simp [looking]

theorem Sound.step (sound : Sound state) (stepped : step state event = some next) :
    Sound next := by
  have holds (point : Point) (at' : state.point = point) (running : 0 < point.stepsLeft) :
      state.holds = true := sound.holds (at' ▸ running)
  cases happens_of_step stepped with
  | stop =>
    exact ⟨sound.holds, fun result ends => ⟨(sound.ended result ends).1, rfl⟩,
      Nat.le_succ_of_le sound.seen, fun _ _ => Nat.lt_succ_of_le sound.seen⟩
  | join => exact ⟨sound.holds, sound.ended, sound.seen, sound.alert⟩
  | leave => exact ⟨sound.holds, sound.ended, sound.seen, sound.alert⟩
  | follow starting => exact .of_looking rfl (holds _ starting (by decide)) (Nat.le_refl _)
  | notices looking given =>
    exact ⟨nofun, fun result ends => ⟨(Point.ended.inj ends).symm, given⟩, Nat.le_refl _, nofun⟩
  | settles looking unset =>
    exact ⟨fun _ => holds _ looking (by decide), nofun, Nat.le_refl _,
      fun _ given => nomatch unset.symm.trans given⟩
  | wake waiting newer => exact .of_looking rfl (holds _ waiting (by decide)) (Nat.le_refl _)
  | orphaned waiting alone =>
    -- The loop itself has hold of the daemon, so there is somebody left.
    cases alone.symm.trans (holds _ waiting (by decide))
  | accept waiting => exact .of_looking rfl (holds _ waiting (by decide)) sound.seen
  | acceptFails failure waiting =>
    exact ⟨fun _ => holds _ waiting (by decide), nofun, sound.seen, nofun⟩
  | rested resting => exact .of_looking rfl (holds _ resting (by decide)) sound.seen

-- Once the daemon was told to stop, it stays told, and each step of the loop brings its end nearer.
theorem step_of_given (given : state.signal.given = true)
    (stepped : step state event = some next) :
    next.signal.given = true ∧
      (if event.isOwn then 1 else 0) + next.point.stepsLeft ≤ state.point.stepsLeft ∧
      next.accepted + next.point.acceptsLeft ≤ state.accepted + state.point.acceptsLeft := by
  cases happens_of_step stepped with
  | stop => exact ⟨rfl, by simp [Event.isOwn], Nat.le_refl _⟩
  | join => exact ⟨given, by simp [Event.isOwn], Nat.le_refl _⟩
  | leave => exact ⟨given, by simp [Event.isOwn], Nat.le_refl _⟩
  | settles looking unset => cases unset.symm.trans given
  | follow here | notices here | wake here | orphaned here | accept here | rested here =>
    refine ⟨given, ?_, ?_⟩ <;>
      simp [here, Event.isOwn, State.finish, Point.stepsLeft, Point.acceptsLeft]
  | acceptFails failure waiting =>
    refine ⟨given, ?_, ?_⟩ <;> simp [waiting, Event.isOwn, Point.stepsLeft, Point.acceptsLeft]

-- Until it ends, the loop can go on by itself.
theorem Sound.exists_step (sound : Sound state) (given : state.signal.given = true) :
    state.point = .ended (.ok ()) ∨
      ∃ event ∈ [Event.follow, .look, .wake, .rested], (AcceptLoop.step state event).isSome := by
  cases at' : state.point with
  | starting => exact .inr ⟨.follow, by simp, by simp [AcceptLoop.step, at']⟩
  | looking => exact .inr ⟨.look, by simp, by simp [AcceptLoop.step, at']⟩
  | waiting =>
    have newer := sound.alert at' given
    exact .inr ⟨.wake, by simp, by simp [AcceptLoop.step, at', newer]⟩
  | resting => exact .inr ⟨.rested, by simp, by simp [AcceptLoop.step, at']⟩
  | ended result =>
    obtain ⟨rfl, -⟩ := sound.ended result at'
    exact .inl rfl

theorem run_cons (ran : run state (event :: events) = some after) :
    ∃ next, step state event = some next ∧ run next events = some after := by
  rw [run, List.foldlM_cons] at ran
  exact Option.bind_eq_some_iff.1 ran

theorem Sound.run (sound : Sound state) (ran : run state events = some after) : Sound after := by
  induction events generalizing state with
  | nil =>
    cases ran
    exact sound
  | cons event events ih =>
    obtain ⟨next, stepped, rest⟩ := run_cons ran
    exact ih (sound.step stepped) rest

theorem Sound.run_of_given (sound : Sound state) (given : state.signal.given = true)
    (ran : AcceptLoop.run state events = some after) :
    after.signal.given = true ∧
      events.countP Event.isOwn + after.point.stepsLeft ≤ state.point.stepsLeft ∧
      after.accepted + after.point.acceptsLeft ≤ state.accepted + state.point.acceptsLeft := by
  induction events generalizing state with
  | nil =>
    cases ran
    simpa using given
  | cons event events ih =>
    obtain ⟨next, stepped, rest⟩ := run_cons ran
    obtain ⟨given, nearer, fewer⟩ := step_of_given given stepped
    obtain ⟨told, left, accepted⟩ := ih (sound.step stepped) given rest
    rw [List.countP_cons]
    exact ⟨told, by omega, by omega⟩

/--
However signals, connections and the loop's own steps come one after another, and whether or not
the daemon was told to stop before the loop began: (a) the loop ends without a failure, and only
when the daemon was told to stop. Whenever it was, (b) the loop accepts at most one connection
more, and only if it was waiting for one; (c) it makes at most three steps more; and (d) as long as
it has not ended, it can make one that needs neither a connection nor another signal.
-/
theorem told_loop_ends (signal : StopSignal) (others : Nat) {events : List Event} {state : State}
    (ran : run (.initial signal others) events = some state) :
    (∀ result, state.point = .ended result → result = .ok () ∧ state.signal.given = true) ∧
    (state.signal.given = true → ∀ later after, run state later = some after →
      (after.accepted ≤ state.accepted + 1 ∧
        (state.accepted < after.accepted → state.point = .waiting)) ∧
      later.countP Event.isOwn ≤ 3 ∧
      (after.point = .ended (.ok ()) ∨
        ∃ event ∈ [Event.follow, .look, .wake, .rested], (step after event).isSome)) := by
  have sound := (Sound.initial signal others).run ran
  refine ⟨sound.ended, fun given later after ranOn => ?_⟩
  obtain ⟨told, nearer, fewer⟩ := sound.run_of_given given ranOn
  have atMostThree : state.point.stepsLeft ≤ 3 := by cases state.point <;> simp [Point.stepsLeft]
  have atMostOne := state.point.acceptsLeft_le
  refine ⟨⟨by omega, fun more => ?_⟩, by omega, (sound.run ranOn).exists_step told⟩
  exact Point.eq_waiting_of_acceptsLeft (by omega)

/-- The signal comes between the look and the wait, and a connection is there first. -/
theorem late_signal_is_heeded :
    run (.initial .initial 1) [.follow, .look, .stop] =
        some ⟨.waiting, ⟨true, 1⟩, 0, 0, true, 1⟩ ∧
      run ⟨.waiting, ⟨true, 1⟩, 0, 0, true, 1⟩ [.accept, .look] =
        some ⟨.ended (.ok ()), ⟨true, 1⟩, 1, 1, false, 2⟩ ∧
      ∀ later after, run ⟨.waiting, ⟨true, 1⟩, 0, 0, true, 1⟩ later = some after →
        after.accepted ≤ 1 ∧ later.countP Event.isOwn ≤ 3 := by
  have ran : run (.initial .initial 1) [.follow, .look, .stop] =
      some ⟨.waiting, ⟨true, 1⟩, 0, 0, true, 1⟩ := rfl
  refine ⟨ran, rfl, fun later after ranOn => ?_⟩
  obtain ⟨⟨accepted, -⟩, steps, -⟩ := (told_loop_ends .initial 1 ran).2 rfl later after ranOn
  exact ⟨accepted, steps⟩

end TunnelBroker.AcceptLoop
