import TunnelBroker.Proofs.Outcome
import TunnelBroker.Proofs.Peer.Keeping
import TunnelBroker.Proofs.Peer.Loading

/-!
Peers over a restart. Main statement: if all saves go well in a state directory that kept no
peers, then whoever loads the peer file finds exactly the peers in memory, and needs to ask
nobody for a peer that was registered before.
-/

set_option autoImplicit false

namespace TunnelBroker

namespace Peers

variable {files : FileSystem} {directory : Path} {peers : Peers}

/-- There is neither a peer file in a state directory nor one that is to become it. -/
structure IsVacant (files : FileSystem) (directory : Path) : Prop where
  noFile : ∀ place, files.locateEntry (file directory) = .ok place → place.node = none
  noNewFile : ∀ place, files.locateEntry (newFile directory) = .ok place → place.node = none

theorem IsVacant.isOwn (vacant : IsVacant files directory) : IsOwn files directory := by
  constructor
  · intro place node located found
    cases (vacant.noFile place located).symm.trans found
  · intro place node located found
    cases (vacant.noNewFile place located).symm.trans found

theorem IsVacant.not_isKept (vacant : IsVacant files directory)
    (holds : Holds files directory peers) : ¬ IsKept files directory := by
  obtain ⟨location, node, located, -⟩ := holds.isThere
  have entry := locateEntry_file located
  have noLink := ((isOwn_iff located).1 vacant.isOwn).1
  unfold IsKept
  rw [find_file located noLink]
  cases reachable : FileSystem.entryFault? (file directory) node with
  | some fault => simp [Except.toOption]
  | none =>
    rw [reachable] at entry
    have missing : files.node? (fileEntry location) = none := vacant.noFile _ entry
    simp [missing, Except.toOption]

-- Peers that are held in a file can be read, so the file passes its check.
theorem Holds.passes {slug : String} {peer : Peer} (holds : Holds files directory peers)
    (known : peers.get? slug = some peer) :
    files.run (Privacy.peerFile.check (file directory)) = (.ok (), files) := by
  have kept : IsKept files directory := by
    by_contra missing
    rw [holds.eq_empty missing] at known
    cases known
  obtain ⟨node, readable⟩ := holds.readable kept
  obtain ⟨quiet, passes⟩ := FileSystem.run_check .peerFile readable.found
  exact Prod.ext (passes.2 ⟨readable.guarded, readable.owned⟩) quiet

end Peers

namespace Keeping

variable {directory : Path} {surroundings : Surroundings} {keeping later : Keeping}
  {slug : String} {result : Except Failure Peer}

-- Who is known stays so.
theorem Enquired.within (enquired : Enquired directory keeping slug result later) :
    keeping.peers.Within later.peers := by
  cases enquired with
  | known known => exact fun _ _ found => found
  | refused failure calls => exact fun _ _ found => found
  | saved unknown peer saved => exact Peers.within_insert unknown peer

theorem Enquired.get? (enquired : Enquired directory keeping slug result later) {peer : Peer}
    (ok : result = .ok peer) : later.peers.get? slug = some peer := by
  cases enquired with
  | known known =>
    cases ok
    exact known
  | refused failure calls => cases ok
  | @saved unknown peer calls files steps mishaps result saved =>
    cases result with
    | error failure => cases ok
    | ok _ =>
      cases ok
      simp

theorem within_after (surroundings : Surroundings) (keeping : Keeping)
    (enquiries : List Enquiry) :
    keeping.peers.Within (keeping.after surroundings directory enquiries).peers := by
  induction enquiries generalizing keeping with
  | nil => exact fun _ _ found => found
  | cons enquiry enquiries ih => exact (enquired surroundings keeping enquiry).within.trans (ih _)

theorem get?_after {enquiries before others : List Enquiry} {enquiry : Enquiry} {peer : Peer}
    (asked : enquiries = before ++ enquiry :: others)
    (answered : ((keeping.after surroundings directory before).enquire surroundings directory
      enquiry).1 = .ok peer) :
    (keeping.after surroundings directory enquiries).peers.get? enquiry.organization.slug =
      some peer := by
  subst asked
  rw [Keeping.after, List.foldl_append, List.foldl_cons]
  apply within_after
  exact (enquired surroundings _ enquiry).get? answered

/--
Peers are asked for one after another, in a state directory without a peer file and without a
draft of one. If all saves go well, loading the peer file gives exactly the peers in memory and
changes nothing. Once there is a peer, its file passes the check of its permissions; and every
peer that somebody got is found again without any call, whatever region and name are asked for.
Whatever peers are written, they are read back.
-/
theorem registrations_survive {files opened : FileSystem} {peers : Peers}
    (done : files.run (Peers.load directory) = (.ok peers, opened))
    (vacant : Peers.IsVacant opened directory) (surroundings : Surroundings)
    (enquiries : List Enquiry)
    (saved : ∀ save ∈ ((loaded peers opened).after surroundings directory enquiries).saves,
      save.2 = .ok ()) :
    let keeping := (loaded peers opened).after surroundings directory enquiries
    peers = ∅ ∧
    keeping.files.run (Peers.load directory) = (.ok keeping.peers, keeping.files) ∧
    (∀ before enquiry others peer, enquiries = before ++ enquiry :: others →
      (((loaded peers opened).after surroundings directory before).enquire surroundings directory
        enquiry).1 = .ok peer →
      keeping.files.run (Privacy.peerFile.check (Peers.file directory)) =
        (.ok (), keeping.files) ∧
      keeping.peers.get? enquiry.organization.slug = some peer ∧
      ∀ organization : Organization, organization.slug = enquiry.organization.slug →
        ∀ region name defaultRegion,
          keeping.peers.acquire organization region name defaultRegion =
            .done (.ok peer, keeping.peers)) ∧
    ∀ peers : Peers, Peers.parse peers.text = .ok peers := by
  intro keeping
  have start := sound_loaded done vacant.isOwn
  have sound : Sound directory peers keeping := start.after surroundings enquiries
  have latest : stored peers keeping.saves = keeping.peers :=
    sound.latest.2 fun save first => saved save (List.mem_of_mem_head? first)
  have holds : Peers.Holds keeping.files directory keeping.peers := latest ▸ sound.holds
  have start := start.holds
  refine ⟨start.eq_empty (vacant.not_isKept start), holds.run_load, ?_, Peers.parse_text⟩
  intro before enquiry others peer asked answered
  have known : keeping.peers.get? enquiry.organization.slug = some peer :=
    get?_after asked answered
  refine ⟨holds.passes known, known, ?_⟩
  intro organization same region name defaultRegion
  apply Peers.acquire_of_some
  rw [same]
  exact known

def calm : Surroundings where
  answers := fun _ => Daemon.obliging
  mishaps := fun _ _ => none

def acme : Enquiry := ⟨⟨"1", "acme", "Acme"⟩, "eu", "laptop", "eu"⟩

theorem acme_survives :
    let keeping := (loaded ∅ Peers.emptyState).after calm (.ofText "/state") [acme]
    keeping.files.run (Peers.load (.ofText "/state")) = (.ok keeping.peers, keeping.files) ∧
      ∃ peer, keeping.peers.acquire ⟨"2", "acme", "ACME"⟩ "" "" "us" =
        .done (.ok peer, keeping.peers) := by
  have done : Peers.emptyState.run (Peers.load (.ofText "/state")) = (.ok ∅, Peers.emptyState) := by
    rfl
  have vacant : Peers.IsVacant Peers.emptyState (.ofText "/state") := by
    constructor
    · intro place located
      cases located
      rfl
    · intro place located
      cases located
      rfl
  have outcomes : ((loaded ∅ Peers.emptyState).after calm (.ofText "/state") [acme]).saves.map
      (·.2.isOk) = [true] := by
    rfl
  have saved : ∀ save ∈
      ((loaded ∅ Peers.emptyState).after calm (.ofText "/state") [acme]).saves,
      save.2 = .ok () := by
    intro save member
    have isOk := List.mem_map_of_mem (f := fun save => save.2.isOk) member
    rw [outcomes, List.mem_singleton] at isOk
    obtain ⟨_, ok⟩ := eq_ok_of_isOk isOk
    exact ok
  have survives := registrations_survive done vacant calm [acme] saved
  obtain ⟨peer, answered⟩ : ∃ peer, ((loaded ∅ Peers.emptyState).enquire calm (.ofText "/state")
      acme).1 = .ok peer :=
    eq_ok_of_isOk rfl
  refine ⟨survives.2.1, peer, ?_⟩
  exact (survives.2.2.1 [] acme [] peer rfl answered).2.2 ⟨"2", "acme", "ACME"⟩ rfl "" "" "us"

end Keeping

end TunnelBroker
