import TunnelBroker.Peer.File
import TunnelBroker.Proofs.Daemon.Connecting
import TunnelBroker.Proofs.Network.HostPort
import TunnelBroker.Proofs.Registry.Record

/-!
What a connection is answered. Main statement: the client gets one reply, and relayed bytes only
behind an `ok` to its `connect`; and the reply is one line exactly if no failure has a line feed
in its message, of those that the daemon was told on the way.
-/

set_option autoImplicit false

namespace TunnelBroker

namespace Daemon

/-- If there is a failure, then its message has no line feed. -/
def IsOneLine {α : Type} : Except Failure α → Prop
  | .ok _ => True
  | .error failure => Text.IsOneLine failure.message

@[simp]
theorem isOneLine_ok {α : Type} (value : α) : IsOneLine (.ok value : Except Failure α) := trivial

@[simp]
theorem isOneLine_error {α : Type} {failure : Failure} :
    IsOneLine (.error failure : Except Failure α) ↔ Text.IsOneLine failure.message := Iff.rfl

/-- The answer of a call is no failure with a line feed in its message. -/
def Answered.IsOneLine : Answered → Prop
  | ⟨.organizations, answer⟩ => Daemon.IsOneLine answer
  | ⟨.register .., answer⟩ => Daemon.IsOneLine answer
  | ⟨.savePeers _, answer⟩ => Daemon.IsOneLine answer
  | ⟨.openTunnel _, answer⟩ => Daemon.IsOneLine answer
  | ⟨.lookup .., answer⟩ => Daemon.IsOneLine answer
  | ⟨.dial .., .ended result⟩ => Daemon.IsOneLine result
  | _ => True

/--
Line feeds in failures come out again: `plain` says that there was none before, and the value has
none as `post` says exactly if there is none in the answers either.
-/
def Tells {α : Type} (plain : Prop) (post : α → Prop) (value : α) (calls : List Answered) : Prop :=
  post value ↔ plain ∧ ∀ answered ∈ calls, answered.IsOneLine

section

variable {α β : Type} {plain : Prop} {between : α → Prop} {post : β → Prop}

theorem tells_done {value : β} (same : post value ↔ plain) :
    Records (Tells plain post) (.done value) := by
  simpa [Records, Tells] using same

theorem tells_ask {call : Call} {next : call.Answer → Task β}
    (later : ∀ answer : call.Answer,
      Records (Tells (plain ∧ Answered.IsOneLine ⟨call, answer⟩) post) (next answer)) :
    Records (Tells plain post) (.ask call next) := by
  intro answer
  apply (later answer).imp
  intro value calls told
  rw [Tells, List.forall_mem_cons, ← and_assoc]
  exact told

theorem tells_of_plain {task : Task β} (holds : plain) (tells : Records (Tells True post) task) :
    Records (Tells plain post) task :=
  tells.imp fun _ _ told => told.trans (and_congr_left' (iff_of_true trivial holds))

theorem tells_bind {first : Task α} {then' : α → Task β}
    (before : Records (Tells plain between) first)
    (after : ∀ value, Records (Tells (between value) post) (then' value)) :
    Records (Tells plain post) (first.bind then') := by
  apply before.bind
  intro value calls told
  apply (after value).imp
  intro result more later
  rw [Tells, List.forall_mem_append, ← and_assoc]
  exact later.trans (and_congr_left' told)

end

end Daemon

/-! ### Establishing a tunnel -/

open Daemon

theorem Organization.isOneLine_find {slug : String} (solid : Text.IsSolid slug)
    (listing : Except Failure (List Organization)) :
    Daemon.IsOneLine (Organization.find listing slug) ↔ Daemon.IsOneLine listing := by
  cases listing with
  | error failure =>
    show Text.IsOneLine ("directory error: " ++ ("can't load organizations: " ++ failure.message)) ↔ _
    rw [Text.isOneLine_lead (by decide), Text.isOneLine_lead (by decide)]
    exact Iff.rfl
  | ok organizations =>
    simp only [find]
    split
    · exact Iff.rfl
    · have unknown : Text.IsOneLine (Failure.organizationNotFound slug).message :=
        (Text.isOneLine_lead (by decide)).2 solid.isOneLine
      exact iff_of_true unknown trivial

namespace Peers

theorem acquire_tells (peers : Peers) {organization : Organization}
    (solid : Text.IsSolid organization.slug) (region name defaultRegion : String) :
    Records (Tells True fun found : Except Failure Peer × Peers => Daemon.IsOneLine found.1)
      (peers.acquire organization region name defaultRegion) := by
  cases known : peers.get? organization.slug with
  | some peer =>
    rw [acquire_of_some known]
    exact tells_done Iff.rfl
  | none =>
    rw [acquire_of_none known]
    have named : Records (Tells True fun _ : String => True) (chooseName name) := by
      unfold chooseName
      split
      · exact tells_ask fun _ => tells_done (and_self_iff (a := True)).symm
      · exact tells_done Iff.rfl
    refine tells_bind named fun name => tells_ask fun key => tells_ask fun registered => ?_
    cases registered with
    | error failure =>
      apply tells_done
      show Text.IsOneLine ("directory error: " ++
        ("can't register peer for " ++ organization.slug ++ ": " ++ failure.message)) ↔ _
      have lead : Text.IsOneLine ("can't register peer for " ++ organization.slug ++ ": ") :=
        (Text.isOneLine_around (by decide) (by decide)).2 solid.isOneLine
      rw [Text.isOneLine_lead (by decide), Text.isOneLine_lead lead]
      simp [Answered.IsOneLine]
    | ok registration =>
      refine tells_ask fun saved => tells_done ?_
      cases saved <;> simp [Answered.IsOneLine, Except.map]

end Peers

namespace Registry

variable {slug : String}

theorem establish_tells (registry : Registry) (region : String) (solid : Text.IsSolid slug) :
    Records (Tells True fun outcome : Except Failure Tunnel × Registry =>
      Daemon.IsOneLine outcome.1) (registry.establish region slug) := by
  cases known : registry.tunnels.get? slug with
  | some tunnel =>
    rw [establish_of_some known]
    exact tells_done Iff.rfl
  | none =>
    rw [establish_of_none known]
    refine tells_ask fun listing => ?_
    have listed := Organization.isOneLine_find solid listing
    cases found : Organization.find listing slug with
    | error failure =>
      rw [found] at listed
      exact tells_done (listed.trans (iff_and_self.2 fun _ => trivial))
    | ok organization =>
      cases Organization.slug_of_find found
      rw [found] at listed
      refine tells_bind (tells_of_plain ⟨trivial, listed.1 trivial⟩
        (registry.peers.acquire_tells solid "" "" region)) ?_
      rintro ⟨peer, peers⟩
      cases peer with
      | error failure => exact tells_done Iff.rfl
      | ok peer =>
        refine tells_ask fun opened => tells_done ?_
        cases opened with
        | error failure =>
          have lead : Text.IsOneLine ("can't establish tunnel for " ++ organization.slug ++ ": ") :=
            (Text.isOneLine_around (by decide) (by decide)).2 solid.isOneLine
          exact (Text.isOneLine_lead lead).trans (and_iff_right trivial).symm
        | ok session => exact (and_self_iff (a := True)).symm

theorem isOneLine_tunnelFor (registry : Registry) (solid : Text.IsSolid slug) :
    Daemon.IsOneLine (registry.tunnelFor slug) := by
  unfold tunnelFor
  split
  · trivial
  · exact (Text.isOneLine_around (by decide) (by decide)).2 solid.isOneLine

end Registry

namespace Daemon

theorem withRegistry_tells {α : Type} {work : Registry → Task (Except Failure α × Registry)}
    (tells : ∀ registry, Records
      (Tells True fun outcome : Except Failure α × Registry => IsOneLine outcome.1)
      (work registry)) :
    Records (Tells True IsOneLine) (withRegistry work) := by
  refine tells_ask fun registry => ?_
  show Records (Tells _ IsOneLine) ((work registry).bind _)
  refine tells_bind (tells_of_plain ⟨trivial, trivial⟩ (tells registry)) ?_
  rintro ⟨result, after⟩
  exact tells_ask fun _ => tells_done (and_iff_left trivial).symm

/-! ### Dialing -/

theorem isOneLine_timeoutFailure (address : SocketAddress) :
    Text.IsOneLine (Network.timeoutFailure address).message :=
  (Text.isOneLine_lead (by decide)).2
    ((Text.isOneLine_around (by decide) (by decide)).2 address.isOneLine_text)

theorem isOneLine_chooseAddress {host : String} (plain : Text.IsOneLine host)
    (found : Except Failure (List IpAddress)) :
    IsOneLine (Network.chooseAddress host found) ↔ IsOneLine found := by
  have lead : Text.IsOneLine ("connection failed: can't resolve " ++ host ++ ": ") :=
    (Text.isOneLine_around (by decide) (by decide)).2 plain
  cases found with
  | error failure => exact Text.isOneLine_lead lead
  | ok addresses =>
    cases addresses with
    | nil => exact iff_of_true ((Text.isOneLine_lead lead).2 (by decide)) trivial
    | cons ip others => exact Iff.rfl

variable {address : String}

theorem resolve_tells (network : Network) (plain : Text.IsOneLine address) :
    Records (Tells True IsOneLine) (network.resolve address) := by
  unfold Network.resolve
  cases parsed : HostPort.parse address with
  | error failure =>
    exact tells_done (iff_of_true (HostPort.isOneLine_of_parse plain parsed) trivial)
  | ok parts =>
    dsimp only
    split
    · exact tells_done Iff.rfl
    · refine tells_ask fun found => tells_done ?_
      have chosen := isOneLine_chooseAddress (HostPort.isOneLine_host_of_parse plain parsed) found
      refine Iff.trans ?_ (chosen.trans (and_iff_right trivial).symm)
      cases Network.chooseAddress parts.host found <;> exact Iff.rfl

theorem dial_tells (network : Network) (plain : Text.IsOneLine address)
    (budget : Option Duration) : Records (Tells True IsOneLine) (network.dial address budget) := by
  rw [dial_eq]
  refine tells_bind (resolve_tells network plain) fun resolved => ?_
  cases resolved with
  | error failure => exact tells_done Iff.rfl
  | ok target =>
    refine tells_ask fun answer => tells_done ?_
    cases answer with
    | ended result => exact (and_iff_right trivial).symm
    | expired => exact iff_of_true (isOneLine_timeoutFailure target) ⟨trivial, trivial⟩

theorem dialTarget_tells (daemon : Daemon) {target : Target} (spelled : target.IsSpelled) :
    Records (Tells True IsOneLine) (daemon.dialTarget target) := by
  obtain ⟨organization, address, timeout⟩ := target
  have plain : Text.IsOneLine address := spelled.address.isOneLine
  cases organization with
  | none => exact dial_tells .host plain _
  | some slug =>
    have solid := Slug.solid_of_check (spelled.organization slug rfl)
    have found : Records (Tells True IsOneLine) (tunnelFor slug) := by
      apply withRegistry_tells
      intro registry
      exact tells_done (iff_of_true (registry.isOneLine_tunnelFor solid) trivial)
    refine tells_bind found fun tunnel => ?_
    cases tunnel with
    | error failure => exact tells_done Iff.rfl
    | ok tunnel => exact dial_tells (.tunnel tunnel.session) plain _

/-! ### The reply -/

/-- A reply that is one line, with a line feed at its end. -/
def IsReplyLine (bytes : Bytes) : Prop :=
  ∃ line, bytes = line ++ [Framing.lineFeed] ∧ Framing.lineFeed ∉ line ∧
    (line = Text.encode "ok" ∨ Text.encode "pong " <+: line ∨ Text.encode "err " <+: line)

/-- What the client is sent first is this reply, and all of it if it takes that much. -/
structure Served.Gives (served : Served) (outgoing : Outgoing) (reply : Reply) : Prop where
  begins : served.reply <+: replyBytes reply
  whole : outgoing.Takes (replyBytes reply).length → served.reply = replyBytes reply

theorem isReplyLine_iff (reply : Reply) :
    IsReplyLine (replyBytes reply) ↔ Text.IsOneLine reply.line := by
  rw [← Text.lineFeed_not_mem_encode_iff]
  constructor
  · rintro ⟨line, same, unended, -⟩
    rwa [List.append_inj_left' same rfl]
  · intro unended
    refine ⟨_, rfl, unended, ?_⟩
    cases reply with
    | ok => exact .inl rfl
    | pong process => exact .inr (.inl ⟨_, (Text.encode_append ..).symm⟩)
    | err message => exact .inr (.inr ⟨_, (Text.encode_append ..).symm⟩)

theorem gives_of_write {served : Served} {outgoing : Outgoing} {reply : Reply}
    (written : served.reply = (outgoing.write (replyBytes reply)).1) :
    served.Gives outgoing reply := by
  constructor
  · rw [written]
    exact List.take_prefix ..
  · intro takes
    rw [← Nat.add_zero (replyBytes reply).length] at takes
    obtain ⟨next, whole, -⟩ := takes.write
    rw [written, whole]

theorem relay_reply (rest : Incoming) (outgoing : Outgoing) (farEnd : Relay.FarEnd) :
    (relay rest outgoing farEnd).reply = (outgoing.write (replyBytes .ok)).1 := by
  rcases written : outgoing.write (replyBytes .ok) with ⟨taken, whole, next⟩
  simp only [relay, written]
  cases whole <;> rfl

theorem isOneLine_line_ofFailure (failure : Failure) :
    Text.IsOneLine (Reply.ofFailure failure).line ↔ Text.IsOneLine failure.message :=
  Text.isOneLine_lead (by decide)

/-- What a connection that was answered comes to: one reply, and no more bytes but behind an `ok`
to a `connect`. -/
def Served.Settles (served : Served) (client : Stream) (calls : List Answered) : Prop :=
  ∃ reply, served.Gives client.outgoing reply ∧
    (IsReplyLine (replyBytes reply) ↔ ∀ answered ∈ calls, answered.IsOneLine) ∧
    (served.sent = served.reply ∨
      reply = .ok ∧ ∃ target rest, client.incoming.Carries (.connect target) rest)

section

variable {client : Stream} {calls : List Answered}

theorem settles_of_write {served : Served} (reply : Reply)
    (written : served.reply = (client.outgoing.write (replyBytes reply)).1)
    (alone : served.transfer = none)
    (same : Text.IsOneLine reply.line ↔ ∀ answered ∈ calls, answered.IsOneLine) :
    served.Settles client calls := by
  refine ⟨reply, gives_of_write written, (isReplyLine_iff reply).trans same, .inl ?_⟩
  rw [Served.sent, alone]
  exact List.append_nil _

theorem settles_reject {failure : Failure}
    (same : Text.IsOneLine failure.message ↔ ∀ answered ∈ calls, answered.IsOneLine) :
    (reject client.outgoing failure).Settles client calls :=
  settles_of_write (.ofFailure failure) rfl rfl ((isOneLine_line_ofFailure failure).trans same)

theorem settles_finish_ok (plain : ∀ answered ∈ calls, answered.IsOneLine) :
    (finish client.outgoing .ok (.ok ())).Settles client calls :=
  settles_of_write .ok rfl rfl (iff_of_true (by decide) plain)

theorem perform_settles (daemon : Daemon) {command : Command} {rest : Incoming}
    (carries : client.incoming.Carries command rest) :
    Records (fun served calls => served.Settles client calls)
      (daemon.perform rest client.outgoing command) := by
  have spelled := carries.spelled
  cases command with
  | ping =>
    have plain : Text.IsOneLine (Reply.pong daemon.process).line :=
      (Text.isOneLine_lead (by decide)).2 (Text.isOneLine_toString _)
    exact settles_of_write (.pong daemon.process) rfl rfl
      (iff_of_true plain (List.forall_mem_nil _))
  | kill =>
    simp only [perform]
    split
    · exact fun _ => settles_finish_ok (List.forall_mem_singleton.2 trivial)
    · exact settles_finish_ok (List.forall_mem_nil _)
  | establish slug =>
    have established := withRegistry_tells fun registry =>
      registry.establish_tells daemon.region (Slug.solid_of_check spelled)
    apply established.bind
    intro result calls told
    cases result with
    | error failure => exact settles_reject (by simpa [Tells] using told)
    | ok tunnel => exact settles_finish_ok (by simpa [Tells] using told)
  | connect target =>
    apply (daemon.dialTarget_tells spelled).bind
    intro result calls told
    cases result with
    | error failure => exact settles_reject (by simpa [Tells] using told)
    | ok farEnd =>
      have plain : ∀ answered ∈ calls ++ [], answered.IsOneLine := by simpa [Tells] using told
      exact ⟨.ok, gives_of_write (relay_reply ..),
        (isReplyLine_iff .ok).trans (iff_of_true (by decide) plain), .inr ⟨rfl, target, rest, carries⟩⟩

end

theorem isOneLine_message (fault : FileFault) : Text.IsOneLine fault.message := by
  refine Text.isOneLine_append.2 ⟨by cases fault <;> decide, ?_⟩
  cases fault.number? with
  | none => decide
  | some number =>
    exact (Text.isOneLine_around (by decide) (by decide)).2 (Text.isOneLine_toString number)

theorem publish_isOneLine (directory : Path) (inode : Nat) (text : Bytes) :
    (Peers.publish directory inode text).Returns IsOneLine := by
  have failed (fault : FileFault) : IsOneLine (.error fault.failure : Except Failure Unit) :=
    (Text.isOneLine_lead (by decide)).2 (isOneLine_message fault)
  intro written
  cases written with
  | error fault => exact failed fault
  | ok _ =>
    intro synced
    cases synced with
    | error fault => exact failed fault
    | ok _ =>
      intro renamed
      cases renamed with
      | error fault => exact failed fault
      | ok _ => trivial

-- A path is quoted in the message, whatever is in it.
theorem save_isOneLine (directory : Path) (peers : Peers) :
    (Peers.save directory peers).Returns IsOneLine := by
  intro opened
  cases opened with
  | error fault =>
    have quoted : Text.IsOneLine ("Failed to create " ++ (Peers.newFile directory).quoted) :=
      (Text.isOneLine_lead (by decide)).2 (Text.isOneLine_quoteBytes _)
    exact (Text.isOneLine_lead (by decide)).2 (Text.isOneLine_append.2
      ⟨Text.isOneLine_append.2 ⟨quoted, by decide⟩, isOneLine_message fault⟩)
  | ok inode =>
    exact (publish_isOneLine directory inode _).bind fun _ plain _ => plain

/--
A connection is answered with one reply, unless its command line never ends. More than the reply
is sent only behind an `ok` to a `connect`. The reply is one line exactly if no failure that the
directory, a tunnel, a network or the peer file answered on the way has a line feed in its
message; and writing the peer file never fails with one.
-/
theorem reply_is_one_line_iff (daemon : Daemon) (client : Stream) :
    Records
      (fun served calls =>
        Framing.readCommand client.incoming = .waiting ∧ calls = [] ∧ served.sent = [] ∧
            served.ended = none ∨
          served.Settles client calls)
      (daemon.serve client) ∧
    ∀ (directory : Path) (peers : Peers), (Peers.save directory peers).Returns IsOneLine := by
  refine ⟨?_, save_isOneLine⟩
  unfold serve
  split
  · next read => exact .inl ⟨read, rfl, rfl, rfl⟩
  · exact .inr (settles_of_write (.ofFailure readFailed) rfl rfl
      (iff_of_true (by decide) (List.forall_mem_nil _)))
  · exact .inr (settles_of_write (.ofFailure tooLong) rfl rfl
      (iff_of_true (by decide) (List.forall_mem_nil _)))
  · next line terminated rest read =>
    split
    · next failure rejected =>
      have plain := (Command.unbroken_of_parse rejected).isOneLine
      exact .inr (settles_reject (iff_of_true plain (List.forall_mem_nil _)))
    · next command parsed =>
      exact (daemon.perform_settles ⟨line, terminated, read, parsed⟩).imp fun _ _ => .inr

/-- The tunnel can't be opened, and the reason has two lines. -/
def breaking : Interaction.Handler Call Call.Answer Unit
  | .openTunnel _, state => (.error (.io "no route\nto gateway"), state)
  | call, state => (obliging call, state)

example :
    ((serve ⟨1, "iad", none⟩ ⟨.ofBytes (Text.encode "establish acme\n") .closed, .unlimited⟩).run
      breaking ()).1.sent =
      Text.encode "err can't establish tunnel for acme: I/O error: no route\nto gateway\n" := by
  decide +kernel

end Daemon

end TunnelBroker
