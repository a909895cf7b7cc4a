import TunnelBroker.Proofs.Registry.Turns
import Mathlib.Data.List.Induction

/-!
The order of turns. Whatever the schedule of competing requests, those that are through have
the results, the registry and the calls that they have one after another, in the order in
which they took hold of the registry.
-/

set_option autoImplicit false

namespace TunnelBroker

section

variable {ι : Type} (region : String) (requests : ι → Request) (answers : ι → Nat → Daemon.Answers)

theorem Floor.serveAll_concat (floor : Floor ι) (turns : List ι) (i : ι) :
    floor.serveAll region requests answers (turns ++ [i]) =
      let before := floor.serveAll region requests answers turns
      let last := before.2.serve region requests answers i
      (before.1 ++ [(i, last.1)], last.2) := by
  simp only [serveAll, List.foldl_append, List.foldl_cons, List.foldl_nil]

theorem Floor.fst_serveAll (floor : Floor ι) (turns : List ι) :
    (floor.serveAll region requests answers turns).1.map Prod.fst = turns := by
  induction turns using List.reverseRecOn with
  | nil => rfl
  | append_singleton turns i ih => simp [serveAll_concat, ih]

end

namespace Contention

variable {ι : Type}

/-- The requests in `through` have their results, and those without a turn have not begun. -/
structure Settled (region : String) (requests : ι → Request) (answers : ι → Nat → Daemon.Answers)
    (start : Floor ι) (through : List ι) (state : Contention ι) : Prop where
  distinct : state.turns.Nodup
  waiting : ∀ i ∉ state.turns, state.rest i = (requests i).task region ∧ state.steps i = 0
  finished : ∀ entry ∈ (start.serveAll region requests answers through).1,
    state.rest entry.1 = .done entry.2

/--
Requests take turns. Between two turns everything is as it is one after another. Within a
turn its request is on the way to what it comes to by itself.
-/
inductive Ordered (region : String) (requests : ι → Request) (answers : ι → Nat → Daemon.Answers)
    (start : Floor ι) (state : Contention ι) : Prop where
  | between (free : state.holder = none)
    (settled : Settled region requests answers start state.turns state)
    (same : state.floor = (start.serveAll region requests answers state.turns).2)
  | within (i : ι) (before : List ι) (work : Daemon.Task (Except Failure Tunnel × Registry))
    (calls : List Daemon.Answered)
    (held : state.holder = some i) (last : state.turns = before ++ [i])
    (settled : Settled region requests answers start before state)
    (same : state.floor = (start.serveAll region requests answers before).2.extend i calls)
    (outward : work.Puts Daemon.Call.IsOutward)
    (doing : state.rest i = work.bind Daemon.giveBack)
    (ahead : (work.bind Daemon.giveBack).run (Floor.react answers i)
        (state.floor, state.steps i) =
      ((requests i).task region).run (Floor.react answers i)
        ((start.serveAll region requests answers before).2, 0))

variable {region : String} {requests : ι → Request} {answers : ι → Nat → Daemon.Answers}
  {start : Floor ι} {state : Contention ι}

theorem Ordered.initial (region : String) (requests : ι → Request)
    (answers : ι → Nat → Daemon.Answers) (peers : Peers) :
    Ordered region requests answers ⟨.initial peers, []⟩ (.initial region requests peers) :=
  .between rfl ⟨.nil, fun _ _ => ⟨rfl, rfl⟩, fun _ member => nomatch member⟩ rfl

theorem Settled.done_of_mem {through : List ι} {i : ι}
    (settled : Settled region requests answers start through state) (found : i ∈ through) :
    ∃ result, state.rest i = .done result := by
  rw [← start.fst_serveAll region requests answers through] at found
  obtain ⟨entry, member, rfl⟩ := List.mem_map.1 found
  exact ⟨entry.2, settled.finished entry member⟩

-- A request whose turn ends is through.
theorem Settled.finish {before : List ι} {i : ι} {result : Except Failure Tunnel}
    (settled : Settled region requests answers start before state)
    (result_eq : ((start.serveAll region requests answers before).2.serve region requests
      answers i).1 = result)
    (done : state.rest i = .done result) :
    Settled region requests answers start (before ++ [i]) state := by
  refine ⟨settled.distinct, settled.waiting, fun entry member => ?_⟩
  rw [start.serveAll_concat] at member
  rcases List.mem_append.1 member with old | new
  · exact settled.finished entry old
  · rw [List.mem_singleton.1 new, result_eq]
    exact done

/-! ### Who is through -/

theorem completed_of_held {before : List ι} {i : ι} (held : state.holder = some i)
    (last : state.turns = before ++ [i]) : state.completed = before := by
  simp only [completed, held, last, List.dropLast_concat]

theorem completed_of_free (free : state.holder = none) : state.completed = state.turns := by
  simp only [completed, free]

theorem rest_ne_done {i : ι} {work : Daemon.Task (Except Failure Tunnel × Registry)}
    (doing : state.rest i = work.bind Daemon.giveBack) (result : Except Failure Tunnel) :
    state.rest i ≠ .done result := by
  rw [doing]
  cases work <;> exact nofun

theorem Ordered.settled (ordered : Ordered region requests answers start state) :
    Settled region requests answers start state.completed state := by
  cases ordered with
  | between free settled same => rwa [completed_of_free free]
  | within i before work calls held last settled same outward doing ahead =>
    rwa [completed_of_held held last]

theorem Ordered.completed_nodup (ordered : Ordered region requests answers start state) :
    state.completed.Nodup := by
  cases held : state.holder with
  | none => simpa only [completed, held] using ordered.settled.distinct
  | some i =>
    simpa only [completed, held] using ordered.settled.distinct.sublist (List.dropLast_sublist _)

theorem result?_eq_some_iff {i : ι} {result : Except Failure Tunnel} :
    state.result? i = some result ↔ state.rest i = .done result := by
  cases rest : state.rest i with
  | done value => simp [result?, rest]
  | ask call next => simp [result?, rest]

theorem Ordered.mem_completed (ordered : Ordered region requests answers start state) {i : ι}
    {result : Except Failure Tunnel} (done : state.rest i = .done result) :
    i ∈ state.completed := by
  by_contra absent
  cases ordered with
  | between free settled same =>
    rw [completed_of_free free] at absent
    exact nomatch (settled.waiting i absent).1.symm.trans done
  | within j before work calls held last settled same outward doing ahead =>
    rw [completed_of_held held last] at absent
    by_cases mine : i = j
    · exact rest_ne_done (mine ▸ doing) result done
    · exact nomatch (settled.waiting i (by simp [last, absent, mine])).1.symm.trans done

-- Exactly those that are through have a result, the one that they have one after another.
theorem Ordered.result?_iff (ordered : Ordered region requests answers start state) (i : ι)
    (result : Except Failure Tunnel) :
    state.result? i = some result ↔
      (i, result) ∈ (start.serveAll region requests answers state.completed).1 := by
  rw [result?_eq_some_iff]
  constructor
  · intro done
    have member := ordered.mem_completed done
    rw [← start.fst_serveAll region requests answers state.completed] at member
    obtain ⟨⟨_, other⟩, found, rfl⟩ := List.mem_map.1 member
    have same : result = other :=
      Interaction.done.inj (done.symm.trans (ordered.settled.finished _ found))
    rwa [same]
  · exact ordered.settled.finished (i, result)

/-! ### One call after another -/

variable [DecidableEq ι]

-- A request that goes on unsettles nobody, as long as it is not among those that are through.
theorem Settled.proceed {through turns : List ι} {i : ι}
    (settled : Settled region requests answers start through state) (distinct : turns.Nodup)
    (grown : state.turns ⊆ turns) (begun : i ∈ turns) (unfinished : i ∉ through)
    (floor : Floor ι) (holder : Option ι) (rest : Daemon.Task (Except Failure Tunnel)) :
    Settled region requests answers start through
      ({ state with floor := floor, holder := holder, turns := turns }.proceed i rest) := by
  refine ⟨distinct, fun j idle => ?_, fun entry member => ?_⟩
  · have other : j ≠ i := fun same => idle (same ▸ begun)
    obtain ⟨resting, unmoved⟩ := settled.waiting j fun found => idle (grown found)
    exact ⟨(Function.update_of_ne other ..).trans resting,
      (Function.update_of_ne other ..).trans unmoved⟩
  · have found : entry.1 ∈ through := by
      rw [← start.fst_serveAll region requests answers through]
      exact List.mem_map_of_mem member
    have other : entry.1 ≠ i := fun same => unfinished (same ▸ found)
    exact (Function.update_of_ne other ..).trans (settled.finished entry member)

-- A turn begins, and all of the work lies ahead.
theorem Ordered.take {i : ι} (free : state.holder = none)
    (settled : Settled region requests answers start state.turns state)
    (same : state.floor = (start.serveAll region requests answers state.turns).2)
    (idle : i ∉ state.turns) :
    Ordered region requests answers start (state.step answers i) := by
  obtain ⟨waiting, unmoved⟩ := settled.waiting i idle
  have distinct : (state.turns ++ [i]).Nodup :=
    List.nodup_append.2 ⟨settled.distinct, List.pairwise_singleton .., fun j found k last same =>
      idle (List.mem_singleton.1 last ▸ same ▸ found)⟩
  rw [step_of_free waiting free]
  refine .within i state.turns ((requests i).work region state.floor.registry) [] rfl rfl ?_
    (by simpa using same) (Request.work_outward ..) (rest_proceed ..) ?_
  · exact settled.proceed distinct (List.subset_append_left ..) (by simp) idle ..
  · rw [steps_proceed, floor_proceed, unmoved, ← same]
    rfl

-- A turn ends. What it came to is what the request comes to by itself.
theorem Ordered.giveBack {i : ι} {before : List ι} {outcome : Except Failure Tunnel × Registry}
    (last : state.turns = before ++ [i]) (unfinished : i ∉ before)
    (settled : Settled region requests answers start before state)
    (doing : state.rest i = Daemon.giveBack outcome)
    (served : (start.serveAll region requests answers before).2.serve region requests answers i =
      (outcome.1, { state.floor with registry := outcome.2 })) :
    Ordered region requests answers start (state.step answers i) := by
  have complete : (start.serveAll region requests answers state.turns).2 =
      { state.floor with registry := outcome.2 } := by
    rw [last, start.serveAll_concat]
    exact congrArg Prod.snd served
  have through := (settled.proceed settled.distinct (List.Subset.refl _) (by simp [last])
    unfinished { state.floor with registry := outcome.2 } none (.done outcome.1)).finish
      (congrArg Prod.fst served) (rest_proceed ..)
  rw [← last] at through
  rw [step_of_return doing]
  exact .between rfl through complete.symm

-- While a turn lasts, everybody else is through or waits for the registry.
theorem Settled.step_of_ne {before : List ι} {i j : ι}
    (settled : Settled region requests answers start before state)
    (held : state.holder = some j) (last : state.turns = before ++ [j]) (other : i ≠ j) :
    state.step answers i = state := by
  by_cases begun : i ∈ before
  · obtain ⟨result, done⟩ := settled.done_of_mem begun
    exact step_of_done done
  · obtain ⟨waiting, _⟩ := settled.waiting i (by simp [last, begun, other])
    exact step_of_held waiting held

-- What one call does to the order of turns.
theorem Ordered.step (ordered : Ordered region requests answers start state) (i : ι) :
    Ordered region requests answers start (state.step answers i) := by
  cases ordered with
  | between free settled same =>
    by_cases begun : i ∈ state.turns
    · -- Between two turns everybody who has begun is through.
      obtain ⟨result, done⟩ := settled.done_of_mem begun
      rw [step_of_done done]
      exact .between free settled same
    · exact .take free settled same begun
  | within j before work calls held last settled same outward doing ahead =>
    by_cases mine : i = j
    · subst mine
      have distinct := last ▸ settled.distinct
      have unfinished : i ∉ before := fun found =>
        (List.nodup_append.1 distinct).2.2 i found i (List.mem_singleton_self i) rfl
      cases work with
      | done outcome =>
        refine .giveBack last unfinished settled doing ?_
        rw [Floor.serve, ← ahead]
        rfl
      | ask call next =>
        rw [step_of_outward outward.1 doing]
        refine .within i before _ (calls ++ [⟨call, answers i (state.steps i) call⟩]) held last ?_
          ?_ (outward.2 _) (rest_proceed ..) ?_
        · exact settled.proceed settled.distinct (List.Subset.refl _) (by simp [last]) unfinished ..
        · rw [floor_proceed, Floor.record_eq, same, Floor.extend_extend]
        · rw [← ahead, steps_proceed, floor_proceed, Interaction.ask_bind, Interaction.run,
            Floor.react_outward outward.1]
    · rw [settled.step_of_ne held last mine]
      exact .within j before work calls held last settled same outward doing ahead

theorem Ordered.run (ordered : Ordered region requests answers start state) (schedule : List ι) :
    Ordered region requests answers start (state.run answers schedule) := by
  induction schedule generalizing state with
  | nil => exact ordered
  | cons i schedule ih => exact ih (ordered.step i)

-- Those that are through stay so, in their order.
theorem completed_step (answers : ι → Nat → Daemon.Answers) (state : Contention ι) (i : ι) :
    state.completed <+: (state.step answers i).completed := by
  have stepped := state.stepped answers i
  generalize state.step answers i = after at stepped
  cases stepped with
  | idle => exact List.prefix_rfl
  | take rest free =>
    rw [completed_of_free free]
    show _ <+: (state.turns ++ [i]).dropLast
    simpa only [List.dropLast_concat] using List.prefix_rfl
  | giveBack rest =>
    show _ <+: state.turns
    cases held : state.holder with
    | none => simp only [completed, held, List.prefix_rfl]
    | some holder => simpa only [completed, held] using List.dropLast_prefix _
  | outward outward rest => exact List.prefix_rfl

theorem completed_run (answers : ι → Nat → Daemon.Answers) (state : Contention ι)
    (schedule : List ι) : state.completed <+: (state.run answers schedule).completed := by
  induction schedule generalizing state with
  | nil => exact List.prefix_rfl
  | cons i schedule ih => exact (completed_step answers state i).trans (ih _)

end Contention

end TunnelBroker
