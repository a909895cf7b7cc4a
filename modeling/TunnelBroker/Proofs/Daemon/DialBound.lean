import TunnelBroker.Proofs.Daemon.Connecting

/-!
What bounds a dial. Main statement: a positive timeout on the line is the bound; without one on
the line the daemon's own counts, and so it does where the line says zero.
-/

set_option autoImplicit false

namespace TunnelBroker

namespace Command

theorem parseTimeout_eq_ok_iff {word : String} {timeout : Option Duration} :
    parseTimeout word = .ok timeout ↔ ∃ value : Fin UInt64.size,
      Text.IsNumeral word.toList value.val ∧
        timeout = if value.val = 0 then none else some (.ofMilliseconds (.ofFin value)) := by
  unfold parseTimeout
  constructor
  · intro parsed
    split at parsed
    · next value read =>
      cases parsed
      exact ⟨value, Text.readNumeral_eq_ok_iff.1 read, rfl⟩
    · cases parsed
  · rintro ⟨value, numeral, rfl⟩
    rw [Text.readNumeral_eq_ok_iff.2 numeral]

theorem isReadFrom_of_parse {line : String} {target : Target}
    (parsed : parse line = .ok (.connect target)) :
    ∃ arguments, words line = "connect" :: arguments ∧ target.IsReadFrom arguments := by
  unfold parse at parsed
  generalize words line = found at parsed
  unfold ofWords at parsed
  split at parsed
  · cases parsed
  · cases parsed
  · cases parsed
  · cases parsed
  · obtain ⟨_, -, established⟩ := bind_eq_ok parsed
    cases established
  · cases parsed
  · next arguments =>
    obtain ⟨target, reached, same⟩ := map_eq_ok parsed
    cases same
    exact ⟨arguments, rfl, parseTarget_eq_ok_iff.1 reached⟩
  · cases parsed

end Command

namespace Daemon

variable {daemon : Daemon} {target : Target} {bound : Option Duration}

/--
Dials of this target are waited for within a bound and no longer: the client is told what comes
of a dial that ends in time, and of the timeout of one that does not.
-/
def Bounds (daemon : Daemon) (target : Target) (bound : Option Duration) : Prop :=
  ∀ registry sessions network parts ip rest outgoing,
    Registry.Provides registry target.organization network →
    HostPort.parse target.address = .ok parts →
    Sessions.Locates sessions network parts.host ip →
    let dial := sessions.dial network ⟨ip, parts.port⟩
    let served := ((daemon.perform rest outgoing (.connect target)).attend sessions.react
      (registry, [])).1
    (∀ result, dial.InTime bound result → served = some (conclude rest outgoing result)) ∧
    (∀ limit, bound = some limit → dial.Late limit → served =
      some (conclude rest outgoing (.error (Network.timeoutFailure ⟨ip, parts.port⟩)))) ∧
    (bound = none → dial = .never → served = none)

theorem bounds (daemon : Daemon) (target : Target) :
    daemon.Bounds target (target.timeout.or daemon.dialTimeout) := by
  intro registry sessions network parts ip rest outgoing provides parsed locates dial served
  have told {result : Option (Except Failure Relay.FarEnd)} {calls : List Call}
      (dials : Comes sessions registry (daemon.dialTarget target) result calls) :
      served = result.map (conclude rest outgoing) := by
    cases result with
    | none => exact congrArg Prod.fst (comes_perform_connect_unanswered rest outgoing dials [])
    | some result => exact congrArg Prod.fst (comes_perform_connect rest outgoing dials [])
  refine ⟨fun result inTime => ?_, fun limit bounded late => ?_, fun unbounded silent => ?_⟩
  · cases result with
    | ok farEnd => exact told (Reaches.reached provides parsed locates inTime).comes
    | error failure => exact told (Fails.undialed provides parsed locates inTime).comes
  · exact told (Fails.expired provides parsed locates bounded late).comes
  · exact told (Waits.undialed provides parsed locates unbounded silent).comes

/-! ### There is one bound -/

theorem exists_provides (organization : Option String) :
    ∃ registry network, Registry.Provides registry organization network := by
  cases organization with
  | none => exact ⟨.initial ∅, .host, .host⟩
  | some slug =>
    let tunnel : Tunnel := ⟨⟨"", slug, ""⟩, .v4 ⟨0, 0, 0, 0⟩, 0⟩
    have known : ((∅ : Table Tunnel).insert slug tunnel).get? slug = some tunnel := by
      rw [Table.get?_insert, if_pos rfl]
    exact ⟨⟨(∅ : Table Tunnel).insert slug tunnel, ∅⟩, .tunnel tunnel.session, .tunnel known⟩

/-- Every name is found, and every dial ends in the same way. -/
def dialing (dial : Simulation.Reaction (Except Failure Relay.FarEnd)) : Sessions where
  lookup _ _ := .now (.ok [.v4 ⟨0, 0, 0, 0⟩])
  dial _ _ := dial
  others := obliging

theorem exists_locates (dial : Simulation.Reaction (Except Failure Relay.FarEnd))
    (network : Network) (host : String) : ∃ ip, (dialing dial).Locates network host ip := by
  cases written : IpAddress.parse? host with
  | some ip => exact ⟨ip, .literal written⟩
  | none => exact ⟨_, .named written rfl⟩

theorem conclude_ne (address : SocketAddress) :
    conclude ⟨[], .closed⟩ .unlimited (.ok echo) ≠
      conclude ⟨[], .closed⟩ .unlimited (.error (Network.timeoutFailure address)) := by
  intro same
  have relayed := congrArg (·.transfer.isSome) same
  rw [conclude, isSome_transfer_relay] at relayed
  cases relayed

-- A dial that is too slow for one bound is too slow for the other.
theorem Bounds.exists_le {limit : Duration} {parts : HostPort}
    (dialable : HostPort.parse target.address = .ok parts) (bounds : daemon.Bounds target bound)
    (limited : daemon.Bounds target (some limit)) :
    ∃ other, bound = some other ∧ other.timerMilliseconds ≤ limit.timerMilliseconds := by
  by_contra wider
  obtain ⟨registry, network, provides⟩ := exists_provides target.organization
  let slow : Simulation.Reaction (Except Failure Relay.FarEnd) :=
    .later (limit.timerMilliseconds + 1) (.ok echo)
  obtain ⟨ip, locates⟩ := exists_locates slow network parts.host
  have inTime : slow.InTime bound (.ok echo) := by
    refine .later fun other same => ?_
    by_contra sooner
    exact wider ⟨other, same, by omega⟩
  have late : slow.Late limit := .later (Nat.lt_succ_self _)
  have ended := (bounds registry (dialing slow) network parts ip ⟨[], .closed⟩ .unlimited provides
    dialable locates).1 (.ok echo) inTime
  have expired := (limited registry (dialing slow) network parts ip ⟨[], .closed⟩ .unlimited
    provides dialable locates).2.1 limit rfl late
  exact conclude_ne _ (Option.some.inj (ended.symm.trans expired))

theorem unbounded_iff {parts : HostPort} (dialable : HostPort.parse target.address = .ok parts) :
    daemon.Bounds target none ↔ target.timeout.or daemon.dialTimeout = none := by
  have exactly := bounds daemon target
  constructor
  · intro unbounded
    cases budget : target.timeout.or daemon.dialTimeout with
    | none => rfl
    | some limit =>
      rw [budget] at exactly
      obtain ⟨other, bounded, -⟩ := unbounded.exists_le dialable exactly
      cases bounded
  · intro unbounded
    rwa [unbounded] at exactly

/--
What bounds the dial of a `connect`: the milliseconds on its line if they are positive, and
otherwise the timeout of the daemon, not only where the line has no timeout but also where it
has a zero. So a zero lets a dial take its time only if the daemon has no timeout of its own.
-/
theorem timeout_word_bounds_dial (daemon : Daemon) {line : String} {target : Target}
    (parsed : Command.parse line = .ok (.connect target)) :
    ∃ word : Option String,
      Command.words line =
        "connect" :: (target.organization.toList ++ target.address :: word.toList) ∧
      (word = none → daemon.Bounds target daemon.dialTimeout) ∧
      ∀ digits, word = some digits → ∃ value : Fin UInt64.size,
        Text.IsNumeral digits.toList value.val ∧
        (value.val ≠ 0 → daemon.Bounds target (some (.ofMilliseconds (.ofFin value)))) ∧
        (value.val = 0 → daemon.Bounds target daemon.dialTimeout ∧
          ∀ parts, HostPort.parse target.address = .ok parts →
            (daemon.Bounds target none ↔ daemon.dialTimeout = none)) := by
  obtain ⟨arguments, found, isRead⟩ := Command.isReadFrom_of_parse parsed
  obtain ⟨word, rfl, timed⟩ := isRead.words
  have bounds := bounds daemon target
  refine ⟨word, found, ?_, ?_⟩
  · rintro rfl
    rw [Command.readTimeout] at timed
    rwa [← Except.ok.inj timed, Option.none_or] at bounds
  · rintro digits rfl
    obtain ⟨value, numeral, same⟩ := Command.parseTimeout_eq_ok_iff.1 timed
    refine ⟨value, numeral, fun positive => ?_, fun zero => ?_⟩
    · rwa [same, if_neg positive, Option.some_or] at bounds
    · rw [if_pos zero] at same
      rw [same, Option.none_or] at bounds
      refine ⟨bounds, fun parts dialable => ?_⟩
      rw [unbounded_iff dialable, same, Option.none_or]

/-- A daemon that gives up dials after 50 ms, unless it is told otherwise. -/
def impatient : Daemon := ⟨1, "iad", some (.ofMilliseconds 50)⟩

def unlimitedTarget : Target := ⟨none, "10.0.0.7:3", none⟩

theorem explicit_zero_times_out :
    Command.parse "connect 10.0.0.7:3 0" = .ok (.connect unlimitedTarget) ∧
      ((impatient.perform ⟨[], .closed⟩ .unlimited (.connect unlimitedTarget)).attend
        (dialing (.later 500 (.ok echo))).react (.initial ∅, [])).1 =
        some (reject .unlimited (Network.timeoutFailure ⟨.v4 ⟨10, 0, 0, 7⟩, 3⟩)) := by
  have parsed : Command.parse "connect 10.0.0.7:3 0" = .ok (.connect unlimitedTarget) := by rfl
  have split : Command.words "connect 10.0.0.7:3 0" = ["connect", "10.0.0.7:3", "0"] := by rfl
  refine ⟨parsed, ?_⟩
  obtain ⟨word, found, -, timed⟩ := timeout_word_bounds_dial impatient parsed
  obtain rfl : word = some "0" := by
    rw [split] at found
    cases word with
    | none => cases found
    | some digits =>
      cases found
      rfl
  obtain ⟨value, numeral, -, zero⟩ := timed "0" rfl
  have read : Text.readNumeral UInt64.size Text.uint64_size_pos "0".toList = .ok 0 := by rfl
  have isZero : value = 0 :=
    Except.ok.inj ((Text.readNumeral_eq_ok_iff.2 numeral).symm.trans read)
  have bounds := (zero (congrArg Fin.val isZero)).1 (.initial ∅) (dialing (.later 500 (.ok echo)))
    .host ⟨"10.0.0.7", 3⟩ (.v4 ⟨10, 0, 0, 7⟩) ⟨[], .closed⟩ .unlimited .host rfl (.literal rfl)
  exact bounds.2.1 _ rfl (.later (by decide))

end Daemon

end TunnelBroker
