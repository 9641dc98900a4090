import TunnelChain.Proofs.Isolation
import TunnelChain.Proofs.Looping
import TunnelChain.Proofs.Scripting
import TunnelChain.Proofs.Reckoning

/-!
# What becomes of host routes

The host route of a peer is set for the interface of a tunnel, and is to go with it. The routes that
are known are at any time those that have been set and not been removed since. An interface that is
deleted takes its route along; one that has vanished leaves it behind, known and in place.
-/

namespace TunnelChain

variable {ρ : Type}

/-! ## Routes that have been set and not been removed -/

/-- A command that has been run, with the interface that the call behind it names. -/
structure Deed where
  interface? : Option String
  issue : Issue

namespace Deed

/-- Whether a deed has set a host route for an interface. -/
def Sets (name route : String) (deed : Deed) : Prop :=
  deed.interface? = some name ∧
    ∃ peer via output, deed.issue = ⟨.replaceHostRoute peer via, .ok output⟩ ∧
    hostRoute peer = route

/-- Whether a deed was to remove a host route of an interface, whatever came of it. -/
def Removes (name route : String) (deed : Deed) : Prop :=
  deed.interface? = some name ∧ deed.issue.command = .removeRoute route

end Deed

/-- Whether a host route has been set for an interface, and nothing has been done since to remove
it. -/
def Outstanding (deeds : List Deed) (name route : String) : Prop :=
  ∃ deed later, deed :: later <:+ deeds ∧ deed.Sets name route ∧
    ∀ other ∈ later, ¬ other.Removes name route

/-- Whether a command is about a host route. -/
def Command.IsHostRouting (command : Command) : Prop :=
  (∃ route, command = .removeRoute route) ∨ ∃ peer via, command = .replaceHostRoute peer via

theorem Command.isHostRouting_ip_iff (arguments : List String) :
    (ip arguments).IsHostRouting ↔
      (∃ route, arguments = (removeRoute route).arguments) ∨
        ∃ peer via, arguments = (replaceHostRoute peer via).arguments := by
  simp [IsHostRouting, removeRoute, replaceHostRoute, ip]

theorem Command.not_isHostRouting_of_program {command : Command} (h : command.program ≠ "ip") :
    ¬ command.IsHostRouting := by
  rintro (⟨route, rfl⟩ | ⟨peer, via, rfl⟩)
  · exact h rfl
  · exact h rfl

namespace Command

/-! The other commands for `ip` have fewer arguments, or a different third one. -/

theorem not_isHostRouting_getRoute (peer : Ip) : ¬ (getRoute peer).IsHostRouting := by
  rw [getRoute, isHostRouting_ip_iff]
  simp [removeRoute, replaceHostRoute, ip]

theorem not_isHostRouting_addLink (name : String) : ¬ (addLink name).IsHostRouting := by
  rw [addLink, isHostRouting_ip_iff]
  simp [removeRoute, replaceHostRoute, ip]

theorem not_isHostRouting_deleteLink (name : String) : ¬ (deleteLink name).IsHostRouting := by
  rw [deleteLink, isHostRouting_ip_iff]
  simp [removeRoute, replaceHostRoute, ip]

theorem not_isHostRouting_setLinkUp (name : String) (mtu : UInt16) :
    ¬ (setLinkUp name mtu).IsHostRouting := by
  rw [setLinkUp, isHostRouting_ip_iff]
  simp [removeRoute, replaceHostRoute, ip]

theorem not_isHostRouting_replaceRoute (family : Family) (name route : String) :
    ¬ (replaceRoute family name route).IsHostRouting := by
  rw [replaceRoute, isHostRouting_ip_iff]
  simp [removeRoute, replaceHostRoute, ip]

theorem not_isHostRouting_addAddresses (tunnel : Tunnel) :
    ∀ command ∈ addAddresses tunnel, ¬ command.IsHostRouting := by
  have haddress (flag address : String) :
      ¬ (ip [flag, "address", "add", address, "dev", tunnel.name]).IsHostRouting := by
    rw [isHostRouting_ip_iff]
    simp [removeRoute, replaceHostRoute, ip]
  refine List.forall_mem_cons.mpr ⟨haddress _ _, ?_⟩
  split
  · exact List.forall_mem_singleton.mpr (haddress _ _)
  · exact List.forall_mem_nil _

end Command

section Outstanding

variable {deeds more : List Deed} {name route : String}

/-- A route is outstanding after some more deeds if they leave it so, or if it was before and they
do not remove it. -/
theorem outstanding_append :
    Outstanding (deeds ++ more) name route ↔ Outstanding more name route ∨
      Outstanding deeds name route ∧ ∀ deed ∈ more, ¬ deed.Removes name route := by
  constructor
  · rintro ⟨deed, later, ⟨earlier, hsplit⟩, hsets, hlater⟩
    obtain ⟨rest, hdeeds, hrest⟩ | ⟨rest, -, hmore⟩ := List.append_eq_append_iff.mp hsplit
    · cases rest with
      | nil => exact .inl ⟨deed, later, ⟨[], hrest⟩, hsets, hlater⟩
      | cons first rest =>
        obtain ⟨rfl, rfl⟩ := List.cons.inj hrest
        obtain ⟨hkept, hremoved⟩ := List.forall_mem_append.mp hlater
        exact .inr ⟨⟨deed, rest, ⟨earlier, hdeeds.symm⟩, hsets, hkept⟩, hremoved⟩
    · exact .inl ⟨deed, later, ⟨rest, hmore.symm⟩, hsets, hlater⟩
  · rintro (⟨deed, later, hsuffix, hsets, hlater⟩
      | ⟨⟨deed, later, ⟨earlier, hsplit⟩, hsets, hlater⟩, hmore⟩)
    · exact ⟨deed, later, hsuffix.trans (List.suffix_append _ _), hsets, hlater⟩
    · refine ⟨deed, later ++ more, ⟨earlier, ?_⟩, hsets, List.forall_mem_append.mpr ⟨hlater, hmore⟩⟩
      rw [← hsplit, List.append_assoc, List.cons_append]

theorem not_outstanding_of_not_sets (h : ∀ deed ∈ more, ¬ deed.Sets name route) :
    ¬ Outstanding more name route := by
  rintro ⟨deed, later, hsuffix, hsets, -⟩
  exact h deed (hsuffix.subset List.mem_cons_self) hsets

theorem outstanding_append_of_other (h : ∀ deed ∈ more, ¬ deed.issue.command.IsHostRouting) :
    Outstanding (deeds ++ more) name route ↔ Outstanding deeds name route := by
  have hsets : ∀ deed ∈ more, ¬ deed.Sets name route := by
    rintro deed hdeed ⟨-, peer, via, output, hissue, -⟩
    exact h deed hdeed (.inr ⟨peer, via, congrArg Issue.command hissue⟩)
  have hremoves : ∀ deed ∈ more, ¬ deed.Removes name route := by
    rintro deed hdeed ⟨-, hcommand⟩
    exact h deed hdeed (.inl ⟨route, hcommand⟩)
  rw [outstanding_append, or_iff_right (not_outstanding_of_not_sets hsets), and_iff_left hremoves]

end Outstanding

/-! ## The routes that are known -/

/-- Whether the routes that are known are those that are outstanding, and can all be removed. -/
structure Tracks (pinned : Table String String) (deeds : List Deed) : Prop where
  get?_iff : ∀ name route, pinned.get? name = some route ↔ Outstanding deeds name route
  given : ∀ name route, pinned.get? name = some route → (Command.removeRoute route).hasNul = false

/-- The deeds of a call, which are those of its commands that could be handed over. -/
def deedsOf (interface? : Option String) (issued : List Issue) : List Deed :=
  (issued.filter (!·.command.hasNul)).map (Deed.mk interface?)

theorem deedsOf_append (interface? : Option String) (first rest : List Issue) :
    deedsOf interface? (first ++ rest) = deedsOf interface? first ++ deedsOf interface? rest := by
  rw [deedsOf, List.filter_append, List.map_append]
  rfl

theorem forall_mem_deedsOf {interface? : Option String} {issued : List Issue} {P : Issue → Prop}
    (h : ∀ issue ∈ issued, P issue) : ∀ deed ∈ deedsOf interface? issued, P deed.issue := by
  intro deed hdeed
  obtain ⟨issue, hissue, rfl⟩ := List.mem_map.mp hdeed
  exact h issue (List.mem_filter.mp hissue).1

theorem hasNul_removeRoute {peer : Ip} {via : RouteVia}
    (h : (Command.replaceHostRoute peer via).hasNul = false) :
    (Command.removeRoute (hostRoute peer)).hasNul = false := by
  have hroute :=
    List.any_eq_false.mp h (hostRoute peer) (by simp [Command.replaceHostRoute, Command.ip])
  have hflag : ∀ isIpv6, (familyFlag isIpv6).toList.any (·.toNat = 0) = false := by decide
  refine List.any_eq_false.mpr ?_
  simp only [Command.removeRoute, Command.ip, List.forall_mem_cons]
  refine ⟨?_, by decide, by decide, hroute, List.forall_mem_nil _⟩
  rw [hflag]
  exact Bool.false_ne_true

namespace Tracks

variable {pinned after : Table String String} {deeds : List Deed} {interface? : Option String}
  {issued : List Issue} {name : String}

theorem other (h : Tracks pinned deeds)
    (hissued : ∀ issue ∈ issued, ¬ issue.command.IsHostRouting) :
    Tracks pinned (deeds ++ deedsOf interface? issued) := by
  refine ⟨fun other route => ?_, h.given⟩
  rw [outstanding_append_of_other (forall_mem_deedsOf hissued)]
  exact h.get?_iff other route

/-- A route that is removed is no longer outstanding, and no other is touched. -/
theorem release (h : Tracks pinned deeds)
    (hissued : issued.map Issue.command = (pinned.get? name).toList.map .removeRoute) :
    Tracks (pinned.erase name) (deeds ++ deedsOf (some name) issued) := by
  have hcommand : ∀ issue ∈ issued, ∃ route, pinned.get? name = some route ∧
      issue.command = .removeRoute route := by
    intro issue hissue
    obtain ⟨route, hroute, hremoves⟩ := List.mem_map.mp (hissued ▸ List.mem_map_of_mem hissue)
    exact ⟨route, Option.mem_toList.mp hroute, hremoves.symm⟩
  have hsets (other route : String) :
      ∀ deed ∈ deedsOf (some name) issued, ¬ deed.Sets other route := by
    rintro deed hdeed ⟨-, peer, via, output, hissue, -⟩
    obtain ⟨removed, -, hremoved⟩ := forall_mem_deedsOf hcommand deed hdeed
    rw [hissue] at hremoved
    simp [Command.removeRoute, Command.replaceHostRoute, Command.ip] at hremoved
  refine ⟨fun other route => ?_, fun other route hroute => ?_⟩
  · rw [outstanding_append, or_iff_right (not_outstanding_of_not_sets (hsets other route)),
      Table.get?_erase, ← h.get?_iff]
    by_cases hother : other = name
    · subst hother
      rw [if_pos rfl]
      refine iff_of_false (Option.some_ne_none route).symm ?_
      rintro ⟨hknown, hkept⟩
      -- The route that was known is among those that are removed.
      rw [hknown] at hissued
      obtain ⟨⟨command, answer⟩, rfl, hcommand'⟩ := List.map_eq_singleton_iff.mp hissued
      obtain rfl : command = .removeRoute route := hcommand'
      refine hkept ⟨some other, ⟨.removeRoute route, answer⟩⟩ ?_ ⟨rfl, rfl⟩
      rw [deedsOf, List.filter_cons_of_pos (by simp [h.given other route hknown])]
      exact List.mem_cons_self
    · rw [if_neg hother, and_iff_left]
      rintro deed hdeed ⟨hinterface, -⟩
      obtain ⟨issue, -, rfl⟩ := List.mem_map.mp hdeed
      exact hother (Option.some.inj hinterface).symm
  · rw [Table.get?_erase] at hroute
    split at hroute
    · cases hroute
    · exact h.given other route hroute

section Ways

variable {peer : Ip} (hways : ∀ issue ∈ issued, ∃ via, issue.command = .replaceHostRoute peer via)
  (hgiven : ∀ issue ∈ issued, issue.answer.isOk = true → issue.command.hasNul = false)

include hways

theorem not_removes_of_ways (other route : String) :
    ∀ deed ∈ deedsOf interface? issued, ¬ deed.Removes other route := by
  rintro deed hdeed ⟨-, hremoves⟩
  obtain ⟨via, hvia⟩ := forall_mem_deedsOf hways deed hdeed
  rw [hvia] at hremoves
  simp [Command.removeRoute, Command.replaceHostRoute, Command.ip] at hremoves

include hgiven

/-- What is outstanding of attempts to set a host route is that route, if one of them has
succeeded. -/
theorem outstanding_ways_iff (other route : String) :
    Outstanding (deedsOf (some name) issued) other route ↔
      other = name ∧ route = hostRoute peer ∧ issued.any (·.answer.isOk) = true := by
  constructor
  · rintro ⟨deed, later, hsuffix, ⟨hinterface, given, via, output, hissue, hroute⟩, -⟩
    obtain ⟨issue, hmem, rfl⟩ := List.mem_map.mp (hsuffix.subset List.mem_cons_self)
    obtain ⟨hmem, -⟩ := List.mem_filter.mp hmem
    obtain rfl : issue = ⟨.replaceHostRoute given via, .ok output⟩ := hissue
    obtain ⟨way, hway⟩ := hways _ hmem
    have hsame : hostRoute given = hostRoute peer := by
      simp only [Command.replaceHostRoute, Command.ip, Command.mk.injEq, List.cons.injEq] at hway
      exact hway.2.1.2.2.2.1
    refine ⟨(Option.some.inj hinterface).symm, hroute.symm.trans hsame, ?_⟩
    exact List.any_eq_true.mpr ⟨_, hmem, rfl⟩
  · rintro ⟨rfl, rfl, hany⟩
    obtain ⟨⟨command, answer⟩, hmem, hok⟩ := List.any_eq_true.mp hany
    obtain ⟨via, rfl⟩ : ∃ via, command = .replaceHostRoute peer via := hways _ hmem
    cases answer with
    | error reason => cases hok
    | ok output =>
      have hdeed : (⟨some other, ⟨.replaceHostRoute peer via, .ok output⟩⟩ : Deed) ∈
          deedsOf (some other) issued :=
        List.mem_map_of_mem (List.mem_filter.mpr ⟨hmem, by simp [hgiven _ hmem rfl]⟩)
      obtain ⟨earlier, later, hsplit⟩ := List.append_of_mem hdeed
      refine ⟨_, later, ⟨earlier, hsplit.symm⟩, ⟨rfl, peer, via, output, rfl, rfl⟩,
        fun deed hlater => ?_⟩
      have hmember : deed ∈ deedsOf (some other) issued := by
        rw [hsplit]
        exact List.mem_append_right _ (List.mem_cons_of_mem _ hlater)
      exact not_removes_of_ways hways _ _ deed hmember

/-- A route that is set becomes known if that succeeds. -/
theorem set (h : Tracks pinned deeds) (hnone : pinned.get? name = none) :
    Tracks (if issued.any (·.answer.isOk) then pinned.insert name (hostRoute peer) else pinned)
      (deeds ++ deedsOf (some name) issued) := by
  refine ⟨fun other route => ?_, fun other route hroute => ?_⟩
  · rw [outstanding_append, and_iff_left (not_removes_of_ways hways other route),
      outstanding_ways_iff hways hgiven, ← h.get?_iff]
    split
    · rename_i hany
      rw [Table.get?_insert]
      by_cases hother : other = name
      · rw [if_pos hother, hother, hnone]
        simp [hany, eq_comm]
      · rw [if_neg hother]
        simp [hother]
    · rename_i hany
      simp [hany]
  · split at hroute
    · rename_i hany
      rw [Table.get?_insert] at hroute
      split at hroute
      · obtain ⟨issue, hmem, hok⟩ := List.any_eq_true.mp hany
        obtain ⟨via, hvia⟩ := hways issue hmem
        have hnul := hgiven issue hmem hok
        rw [hvia] at hnul
        rw [← Option.some.inj hroute]
        exact hasNul_removeRoute hnul
      · exact h.given other route hroute
    · exact h.given other route hroute

end Ways

theorem repin (h : Tracks pinned deeds) {peer : Ip}
    (hrepinning : Repinning name peer pinned issued after)
    (hgiven : ∀ issue ∈ issued, issue.answer.isOk = true → issue.command.hasNul = false) :
    Tracks after (deeds ++ deedsOf (some name) issued) := by
  obtain @⟨releases, ways, answer, hreleases, hways⟩ := hrepinning
  have hlook : ∀ issue ∈ [(⟨.getRoute peer, answer⟩ : Issue)], ¬ issue.command.IsHostRouting := by
    rw [List.forall_mem_singleton]
    exact Command.not_isHostRouting_getRoute peer
  have hreleased : Tracks _ ((deeds ++ deedsOf (some name) releases) ++ deedsOf (some name) _) :=
    (h.release hreleases).other hlook
  have hnone : (pinned.erase name).get? name = none := by rw [Table.get?_erase, if_pos rfl]
  have hway : ∀ issue ∈ ways, ∃ via, issue.command = .replaceHostRoute peer via := by
    intro issue hissue
    obtain ⟨via, -, hvia⟩ := List.mem_map.mp (hways ▸ List.mem_map_of_mem hissue)
    exact ⟨via, hvia.symm⟩
  have hset := Tracks.set hway
    (fun issue hissue => hgiven issue (List.mem_append_right _ (List.mem_cons_of_mem _ hissue)))
      hreleased hnone
  rw [← List.singleton_append, deedsOf_append, deedsOf_append, ← List.append_assoc,
    ← List.append_assoc]
  exact hset

end Tracks

/-! ## What the calls do to host routes -/

/-- What a call does to the host routes that are known: nothing, or it removes the one of the
interface that it names, or it pins one for it anew. -/
inductive Pinning (interface? : Option String) (pinned : Table String String) :
    List Issue → Table String String → Prop where
  | other {issued : List Issue} (hissued : ∀ issue ∈ issued, ¬ issue.command.IsHostRouting) :
      Pinning interface? pinned issued pinned
  | released {name : String} {front releases : List Issue} (hinterface : interface? = some name)
      (hfront : ∀ issue ∈ front, ¬ issue.command.IsHostRouting)
      (hreleases : releases.map Issue.command = (pinned.get? name).toList.map .removeRoute) :
      Pinning interface? pinned (front ++ releases) (pinned.erase name)
  | repinned {name : String} {peer : Ip} {front routing back : List Issue}
      {after : Table String String} (hinterface : interface? = some name)
      (hfront : ∀ issue ∈ front, ¬ issue.command.IsHostRouting)
      (hrouting : Repinning name peer pinned routing after)
      (hback : ∀ issue ∈ back, ¬ issue.command.IsHostRouting) :
      Pinning interface? pinned (front ++ routing ++ back) after

theorem Tracks.pinning {pinned after : Table String String} {deeds : List Deed}
    {interface? : Option String} {issued : List Issue} (h : Tracks pinned deeds)
    (hpinning : Pinning interface? pinned issued after)
    (hgiven : ∀ issue ∈ issued, issue.answer.isOk = true → issue.command.hasNul = false) :
    Tracks after (deeds ++ deedsOf interface? issued) := by
  cases hpinning with
  | other hissued => exact h.other hissued
  | released hinterface hfront hreleases =>
    subst hinterface
    rw [deedsOf_append, ← List.append_assoc]
    exact (h.other hfront).release hreleases
  | repinned hinterface hfront hrouting hback =>
    subst hinterface
    rw [deedsOf_append, deedsOf_append, ← List.append_assoc, ← List.append_assoc]
    refine ((h.other hfront).repin hrouting fun issue hissue => ?_).other hback
    exact hgiven issue (List.mem_append_left _ (List.mem_append_right _ hissue))

namespace Linux

variable (settings : LinuxSettings) (run : Runner ρ) (work : Work ρ)

theorem pinning_submitAll {commands : List Command}
    (h : ∀ command ∈ commands, ¬ command.IsHostRouting) (interface? : Option String) :
    ∃ issued, Issues run work.host.commands issued (work.submitAll run commands).2.host.commands ∧
      Pinning interface? work.host.pinned issued (work.submitAll run commands).2.host.pinned := by
  obtain ⟨issued, hmoves, hsubmission⟩ := Work.submitAll_law run work commands
  rw [hmoves.pinned]
  exact ⟨issued, hmoves.issues, .other fun issue hissue => h _ (hsubmission.mem issue hissue)⟩

theorem pinning_configure (tunnel : Tunnel) :
    ∃ issued,
      Issues run work.host.commands issued (configure settings run tunnel work).2.host.commands ∧
      Pinning (some tunnel.name) work.host.pinned issued
        (configure settings run tunnel work).2.host.pinned := by
  have hwg (issue : Issue) (hprogram : issue.command.program = "wg") :
      ¬ issue.command.IsHostRouting :=
    Command.not_isHostRouting_of_program (by rw [hprogram]; decide)
  cases hsearch : (endpointSearch settings tunnel).result with
  | error error =>
    obtain ⟨-, hhost⟩ := configure_of_error run work hsearch
    rw [hhost]
    exact ⟨[], .nil _, .other (List.forall_mem_nil _)⟩
  | ok endpoint =>
    obtain ⟨issued, hissues, hconfiguring, -⟩ := configure_law run work hsearch
    refine ⟨issued, hissues, ?_⟩
    generalize (configure settings run tunnel work).1 = result at hconfiguring
    generalize (configure settings run tunnel work).2.host.pinned = after at hconfiguring ⊢
    cases hconfiguring with
    | unlisted reason => exact .other (List.forall_mem_singleton.mpr (hwg _ rfl))
    | unremoved hremovals =>
      refine .other (List.forall_mem_cons.mpr ⟨hwg _ rfl, fun issue hissue => ?_⟩)
      exact hwg issue (Configuring.program_removal hremovals issue hissue)
    | passed hremovals hrouting answer =>
      refine .repinned rfl (List.forall_mem_cons.mpr ⟨hwg _ rfl, fun issue hissue => ?_⟩) hrouting
        (List.forall_mem_singleton.mpr (hwg _ rfl))
      exact hwg issue (Configuring.program_removal hremovals issue hissue)

/-- An interface that is deleted takes its host route along. -/
theorem pinning_deleteInterface (name : String) :
    ∃ issued, Issues run work.host.commands issued (deleteInterface run name work).2.host.commands ∧
      Pinning (some name) work.host.pinned issued (deleteInterface run name work).2.host.pinned ∧
      ((deleteInterface run name work).1 = .ok () →
        (deleteInterface run name work).2.host.pinned = work.host.pinned.erase name) := by
  have hdeleted := Work.moves_submit run work (.deleteLink name)
  have hlink (answer : Except String String) :
      ∀ issue ∈ [(⟨.deleteLink name, answer⟩ : Issue)], ¬ issue.command.IsHostRouting :=
    List.forall_mem_singleton.mpr (Command.not_isHostRouting_deleteLink name)
  unfold deleteInterface
  cases hdelete : work.submit run (.deleteLink name) with
  | mk answer deleted =>
    rw [hdelete] at hdeleted
    cases answer with
    | error reason => exact ⟨_, hdeleted.issues, hdeleted.pinned.symm ▸ .other (hlink _), nofun⟩
    | ok output =>
      obtain ⟨releases, hreleased, hreleases, hpinned, -⟩ := Work.unpin_law run name deleted
      rw [hdeleted.pinned] at hreleases hpinned
      refine ⟨_, hdeleted.issues.append hreleased, ?_, fun _ => hpinned⟩
      dsimp only
      rw [hpinned]
      exact .released rfl (hlink _) hreleases

theorem pinning_carryOut (call : Call) :
    ∃ issued,
      Issues run work.host.commands issued (carryOut settings run work call).2.host.commands ∧
      Pinning call.interface? work.host.pinned issued
        (carryOut settings run work call).2.host.pinned := by
  have hresolvers (command : Command) (h : command.program = "resolvectl") :
      ¬ command.IsHostRouting :=
    Command.not_isHostRouting_of_program (by rw [h]; decide)
  cases call with
  | addInterface tunnel =>
    exact pinning_submitAll run work
      (List.forall_mem_singleton.mpr (Command.not_isHostRouting_addLink tunnel.name)) _
  | configureInterface tunnel => exact pinning_configure settings run work tunnel
  | deleteInterface name =>
    obtain ⟨issued, hissues, hpinning, -⟩ := pinning_deleteInterface run work name
    exact ⟨issued, hissues, hpinning⟩
  | addRoutePrefix name range =>
    refine pinning_submitAll run work (fun command hcommand => ?_) _
    obtain ⟨route, -, rfl⟩ := List.mem_map.mp hcommand
    exact Command.not_isHostRouting_replaceRoute _ _ _
  | updateResolvers name resolvers =>
    obtain ⟨issued, hissues, hpinning⟩ := pinning_submitAll run work
      (List.forall_mem_cons.mpr ⟨hresolvers (.setResolvers name resolvers) rfl,
        List.forall_mem_singleton.mpr (hresolvers (.claimDomains name) rfl)⟩) (some name)
    refine ⟨issued, ?_⟩
    unfold carryOut updateResolvers
    dsimp only
    cases hsubmit : work.submitAll run [.setResolvers name resolvers, .claimDomains name] with
    | mk answer next =>
      rw [hsubmit] at hissues hpinning
      cases answer <;> exact ⟨hissues, hpinning⟩
  | restoreResolvers =>
    unfold carryOut restoreResolvers
    dsimp only
    cases work.host.link with
    | none => exact ⟨[], .nil _, .other (List.forall_mem_nil _)⟩
    | some link =>
      exact pinning_submitAll run (work.setLink none)
        (List.forall_mem_singleton.mpr (hresolvers (.revertResolvers link) rfl)) none
  | addInterfaceIPs tunnel =>
    exact pinning_submitAll run work (Command.not_isHostRouting_addAddresses tunnel) _
  | setMTUAndUp tunnel =>
    exact pinning_submitAll run work
      (List.forall_mem_singleton.mpr (Command.not_isHostRouting_setLinkUp tunnel.name settings.mtu))
        _

end Linux

/-! ## A daemon whose deeds are written down -/

/-- A host with the commands that its calls have run, oldest first. -/
structure Chronicle (ρ : Type) where
  host : Linux (Journal ρ)
  deeds : List Deed

namespace Chronicle

def blank (commands : ρ) : Chronicle ρ :=
  ⟨.fresh ⟨commands, []⟩, []⟩

/-- Whether a host has no host route for an interface, and has done what it can to remove each that
it has set. -/
structure Released (state : Chronicle ρ) (name : String) : Prop where
  unknown : state.host.pinned.get? name = none
  removed : ∀ route, ¬ Outstanding state.deeds name route

/-- Whether the host routes that a host knows are those that are outstanding. -/
def IsTrue (state : Chronicle ρ) : Prop :=
  Tracks state.host.pinned state.deeds

theorem isTrue_blank (commands : ρ) : (blank commands).IsTrue := by
  refine ⟨fun name route => iff_of_false nofun ?_, nofun⟩
  exact not_outstanding_of_not_sets (List.forall_mem_nil _)

theorem IsTrue.released_iff {state : Chronicle ρ} (h : state.IsTrue) (name : String) :
    state.Released name ↔ state.host.pinned.get? name = none := by
  refine ⟨Released.unknown, fun hnone => ⟨hnone, fun route => ?_⟩⟩
  rw [← h.get?_iff, hnone]
  nofun

end Chronicle

namespace Linux

/-- The engine that also writes down what its calls do. -/
def chronicled (settings : LinuxSettings) (run : Runner ρ) : Engine (Chronicle ρ) where
  name := (engine settings run).name
  perform call state :=
    let outcome := (engine settings run.journaled).perform call state.host
    let issued := outcome.system.commands.issues.drop state.host.commands.issues.length
    outcome.mapSystem fun host => ⟨host, state.deeds ++ issued.map (Deed.mk call.interface?)⟩
  hasInterface name state :=
    ((engine settings run.journaled).hasInterface name state.host).mapSystem (⟨·, state.deeds⟩)
  throughput name state :=
    ((engine settings run.journaled).throughput name state.host).mapSystem (⟨·, state.deeds⟩)
  supportsSwitching state := (engine settings run.journaled).supportsSwitching state.host
  isAlive state := (engine settings run.journaled).isAlive state.host

variable (settings : LinuxSettings) (run : Runner ρ) (state : Chronicle ρ)

theorem chronicled_perform (call : Call) :
    ∃ issued, Issues run.journaled state.host.commands issued
        ((chronicled settings run).perform call state).system.host.commands ∧
      Pinning call.interface? state.host.pinned issued
        ((chronicled settings run).perform call state).system.host.pinned ∧
      ((chronicled settings run).perform call state).system.deeds =
        state.deeds ++ deedsOf call.interface? issued := by
  obtain ⟨issued, hissues, hpinning⟩ :=
    pinning_carryOut settings run.journaled (⟨state.host, []⟩ : Work (Journal ρ)) call
  refine ⟨issued, hissues, hpinning, ?_⟩
  have hjournal : (carryOut settings run.journaled ⟨state.host, []⟩ call).2.host.commands.issues =
      state.host.commands.issues ++ issued.filter (!·.command.hasNul) := hissues.of_journaled
  change state.deeds ++
    ((carryOut settings run.journaled ⟨state.host, []⟩ call).2.host.commands.issues.drop
    state.host.commands.issues.length).map (Deed.mk call.interface?) = _
  rw [hjournal, List.drop_left]
  rfl

theorem pinned_chronicled_hasInterface (name : String) :
    ((chronicled settings run).hasInterface name state).system.host.pinned = state.host.pinned ∧
      ((chronicled settings run).hasInterface name state).system.deeds = state.deeds :=
  ⟨(Work.moves_submit run.journaled (⟨state.host, []⟩ : Work (Journal ρ)) (.showLink name)).pinned,
    rfl⟩

theorem pinned_chronicled_throughput (name : String) :
    ((chronicled settings run).throughput name state).system.host.pinned = state.host.pinned ∧
      ((chronicled settings run).throughput name state).system.deeds = state.deeds :=
  ⟨(Work.moves_submit run.journaled (⟨state.host, []⟩ : Work (Journal ρ))
    (.showTransfer name)).pinned, rfl⟩

theorem pinned_chronicled_deleteInterface {name : String}
    (h : ((chronicled settings run).perform (.deleteInterface name) state).answer = .ok ()) :
    ((chronicled settings run).perform (.deleteInterface name) state).system.host.pinned =
      state.host.pinned.erase name := by
  obtain ⟨-, -, -, hdeleted⟩ :=
    pinning_deleteInterface run.journaled (⟨state.host, []⟩ : Work (Journal ρ)) name
  exact hdeleted
    ((answer_perform_eq_ok_iff settings run.journaled (.deleteInterface name) state.host).mp h)

end Linux

/-! ## Runs of a daemon -/

section Keeps

variable {σ : Type}

/-- Whether whatever is asked of a system keeps a property of it. -/
structure Engine.Keeps (engine : Engine σ) (P : σ → Prop) : Prop where
  perform (call : Call) (system : σ) : P system → P (engine.perform call system).system
  hasInterface (name : String) (system : σ) : P system → P (engine.hasInterface name system).system
  throughput (name : String) (system : σ) : P system → P (engine.throughput name system).system

variable {engine : Engine σ} {P : σ → Prop}

theorem Engine.Keeps.runs (h : engine.Keeps P) {first last : σ} {xs : List Exchange}
    (hruns : engine.Runs first xs last) (hfirst : P first) : P last := by
  induction hruns with
  | nil => exact hfirst
  | call call _ ih => exact ih (h.perform call _ hfirst)
  | look name _ ih => exact ih (h.hasInterface name _ hfirst)

/-- What can be asked of a daemon: an operation, or its state. -/
inductive Job where
  | operation (operation : Operation)
  | status

namespace Controller

def serve (engine : Engine σ) (naming : Naming) (controller : Controller σ) : Job → Controller σ
  | .operation operation => controller.operate engine naming operation
  | .status => (controller.status engine).2

/-- What a daemon comes to that starts on a system and does these jobs. -/
def served (engine : Engine σ) (naming : Naming) (system : σ) (jobs : List Job) : Controller σ :=
  jobs.foldl (serve engine naming) ((fresh system).sweep engine naming).2

theorem keeps_operate (h : engine.Keeps P) (naming : Naming) (operation : Operation)
    {controller : Controller σ} (hbefore : P controller.system) :
    P (controller.operate engine naming operation).system := by
  refine operate_induction (P := fun controller => P controller.system) (fun _ _ _ h => h)
    (fun _ h => h) ?_ hbefore ?_
  · intro before hop announce hbefore
    obtain ⟨xs, next, said, -, hturns⟩ := deactivate_law engine hop announce before
    exact h.runs hturns.runs hbefore
  · intro now body tunnel _ _
    obtain ⟨xs, next, said, -, hturns⟩ := activate_law engine now tunnel controller
    exact h.runs hturns.runs hbefore

theorem keeps_status (h : engine.Keeps P) {controller : Controller σ}
    (hbefore : P controller.system) :
    P (controller.status engine).2.system := by
  unfold status
  cases controller.chain.get? 0 with
  | none => exact hbefore
  | some active =>
    have hlooked : P (controller.ask (engine.hasInterface active.tunnel.name)).2.system :=
      h.hasInterface _ _ hbefore
    dsimp only
    cases hask : controller.ask (engine.hasInterface active.tunnel.name) with
    | mk found next =>
      rw [hask] at hlooked
      cases found with
      | false => exact hlooked
      | true =>
        have hread : P (next.ask (engine.throughput active.tunnel.name)).2.system :=
          h.throughput _ _ hlooked
        dsimp only
        cases hask' : next.ask (engine.throughput active.tunnel.name) with
        | mk answer last =>
          rw [hask'] at hread
          cases answer <;> exact hread

theorem keeps_served (h : engine.Keeps P) (naming : Naming) {system : σ} (hsystem : P system)
    (jobs : List Job) : P (served engine naming system jobs).system := by
  induction jobs using List.reverseRecOn with
  | nil =>
    obtain ⟨xs, -, hturns⟩ := (Turns.start engine (fresh system)).removeStale (naming.name 0)
    exact h.runs hturns.runs hsystem
  | append_singleton jobs job ih =>
    rw [served, List.foldl_append, List.foldl_cons, List.foldl_nil]
    cases job with
    | operation operation => exact keeps_operate h naming operation ih
    | status => exact keeps_status h ih

theorem named_served (engine : Engine σ) (naming : Naming) (system : σ) (jobs : List Job) :
    (served engine naming system jobs).chain.Named naming := by
  induction jobs using List.reverseRecOn with
  | nil =>
    obtain ⟨xs, -, hturns⟩ := (Turns.start engine (fresh system)).removeStale (naming.name 0)
    have hchain : (served engine naming system []).chain = (fresh system).chain := hturns.chain
    rw [hchain]
    exact fun hop active hactive => nomatch hactive
  | append_singleton jobs job ih =>
    rw [served, List.foldl_append, List.foldl_cons, List.foldl_nil]
    cases job with
    | operation operation => exact named_operate ih operation
    | status =>
      obtain ⟨hchain, -⟩ := (served engine naming system jobs).status_stays engine
      rw [served] at ih hchain
      rw [serve, hchain]
      exact ih

end Controller

end Keeps

theorem Teardown.exists_up {hop : HopIndex} {announce : Bool} {chain next : Chain}
    {result : Except OperationError Unit} {xs : List Exchange} {said : List HopEvent}
    (h : Teardown hop announce chain result xs next said) (hgone : isGone result = true) :
    ∃ active, chain.get? hop = some active := by
  cases h with
  | inactive hdown => cases hgone
  | unrestored hup _ | undeleted hup | vanished hup | removed hup => exact ⟨_, hup⟩

namespace Linux

variable {settings : LinuxSettings} {run : Runner ρ}

theorem keeps_isTrue (settings : LinuxSettings) (run : Runner ρ) :
    (chronicled settings run).Keeps Chronicle.IsTrue where
  perform call state h := by
    obtain ⟨issued, hissues, hpinning, hdeeds⟩ := chronicled_perform settings run state call
    unfold Chronicle.IsTrue
    rw [hdeeds]
    exact Tracks.pinning h hpinning fun issue hissue hok => hissues.hasNul_of_isOk hissue hok
  hasInterface name state h := by
    obtain ⟨hpinned, hdeeds⟩ := pinned_chronicled_hasInterface settings run state name
    unfold Chronicle.IsTrue
    rw [hpinned, hdeeds]
    exact h
  throughput name state h := by
    obtain ⟨hpinned, hdeeds⟩ := pinned_chronicled_throughput settings run state name
    unfold Chronicle.IsTrue
    rw [hpinned, hdeeds]
    exact h

variable {first last : Chronicle ρ} {hop : HopIndex} {name : String}

/-- To give name servers back concerns no interface. -/
theorem pinned_of_restoring
    (h : (chronicled settings run).Runs first (granted (restoring hop)) last) :
    last.host.pinned = first.host.pinned := by
  unfold restoring at h
  split at h
  · obtain ⟨-, rfl⟩ := h.of_call
    obtain ⟨issued, -, hpinning, -⟩ := chronicled_perform settings run first .restoreResolvers
    generalize ((chronicled settings run).perform .restoreResolvers first).system.host.pinned =
      after
      at hpinning ⊢
    cases hpinning with
    | other => rfl
    | released hinterface => cases hinterface
    | repinned hinterface => cases hinterface
  · cases h
    rfl

theorem pinned_of_look {found : Bool}
    (h : (chronicled settings run).Runs first [.look name found] last) :
    last.host.pinned = first.host.pinned := by
  cases h with
  | look _ hrest =>
    cases hrest
    exact (pinned_chronicled_hasInterface settings run first name).1

/-- The host route goes with an interface that is deleted, and stays if the interface had vanished
before. -/
theorem pinned_of_teardown {announce : Bool} {chain next : Chain}
    {result : Except OperationError Unit} {xs : List Exchange} {said : List HopEvent}
    {active : ActiveHop} (h : Teardown hop announce chain result xs next said)
    (hup : chain.get? hop = some active) (hgone : isGone result = true)
    (hruns : (chronicled settings run).Runs first xs last) :
    last.host.pinned =
      if result = .ok () then first.host.pinned.erase active.tunnel.name
      else first.host.pinned := by
  cases h with
  | inactive hdown => cases hdown.symm.trans hup
  | unrestored _ _ => cases hgone
  | undeleted _ => cases hgone
  | vanished hactive =>
    obtain ⟨middle, hrestored, hlooked⟩ := hruns.split
    rw [if_neg nofun, pinned_of_look hlooked, pinned_of_restoring hrestored]
  | removed hactive =>
    obtain rfl := Option.some.inj (hactive.symm.trans hup)
    obtain ⟨middle, hrestored, hrest⟩ := hruns.split
    obtain ⟨found, hlooked, hdeleted⟩ := hrest.split_cons
    obtain ⟨hok, rfl⟩ := hdeleted.of_call
    rw [if_pos rfl, pinned_chronicled_deleteInterface settings run found hok.symm,
      pinned_of_look hlooked, pinned_of_restoring hrestored]

/-- **Host routes go with their interfaces.** In every run of a daemon, whatever its commands come
to, the host routes that are known are those that are outstanding. A teardown that takes a hop out
of the chain leaves no host route of its interface, neither known nor outstanding, exactly if it
deletes the interface or if there was none before. Where the interface has vanished nothing is done
about its host route. -/
theorem released_iff_deleted (settings : LinuxSettings) (run : Runner ρ) (commands : ρ)
    (naming : Naming) (jobs : List Job) (hop : HopIndex) (announce : Bool) :
    let before := Controller.served (chronicled settings run) naming (.blank commands) jobs
    let outcome := before.deactivate (chronicled settings run) hop announce
    let name := naming.name hop
    (∀ interface route, outcome.2.system.host.pinned.get? interface = some route ↔
        Outstanding outcome.2.system.deeds interface route) ∧
      (isGone outcome.1 = true →
        (outcome.2.system.Released name ↔ outcome.1 = .ok () ∨ before.system.Released name) ∧
          (outcome.1 ≠ .ok () → ∀ route,
            Outstanding outcome.2.system.deeds name route ↔
              Outstanding before.system.deeds name route)) := by
  intro before outcome name
  have htrue : before.system.IsTrue :=
    Controller.keeps_served (keeps_isTrue settings run) naming
      (Chronicle.isTrue_blank commands) jobs
  have hnamed : before.chain.Named naming := Controller.named_served _ naming _ jobs
  obtain ⟨xs, next, said, hteardown, hturns⟩ :=
    Controller.deactivate_law (chronicled settings run) hop announce before
  have hafter : outcome.2.system.IsTrue := (keeps_isTrue settings run).runs hturns.runs htrue
  refine ⟨hafter.get?_iff, fun hgone => ?_⟩
  obtain ⟨active, hup⟩ := hteardown.exists_up hgone
  have hname : active.tunnel.name = name := hnamed hop active hup
  have hpinned : outcome.2.system.host.pinned =
      if outcome.1 = .ok () then before.system.host.pinned.erase name
      else before.system.host.pinned := by
    rw [← hname]
    exact pinned_of_teardown hteardown hup hgone hturns.runs
  rw [hafter.released_iff, htrue.released_iff, hpinned]
  refine ⟨?_, fun hmissing route => ?_⟩
  · by_cases hok : outcome.1 = .ok ()
    · rw [if_pos hok, Table.get?_erase, if_pos rfl]
      exact iff_of_true rfl (.inl hok)
    · rw [if_neg hok, or_iff_right hok]
  · rw [← hafter.get?_iff, ← htrue.get?_iff, hpinned, if_neg hmissing]

/-- A system on which only looks for the exit hop's interface fail, while it is not there; `lasting`
is whether it stays once it has been added. The way to the peer is over an uplink. -/
def uplinked (lasting : Bool) : Runner Bool := fun command there =>
  if command = .showLink "hl" then (.ran (.exit (if there then 0 else 1)) [], there)
  else if command = .addLink "hl" then (.ran (.exit 0) [], lasting)
  else if command = .getRoute (.v4 0xCB007105#32) then
    (.ran (.exit 0) (Utf8.encode "203.0.113.5 via 192.168.1.1 dev eth0"), there)
  else (.ran (.exit 0) [], there)

/-- A daemon that has brought the exit hop up. -/
def uplinkedExit (lasting : Bool) : Controller (Chronicle Bool) :=
  Controller.served (chronicled plainSettings (uplinked lasting)) ⟨"hl"⟩ (.blank false)
    [.operation (.activate "then" (plainBody 0 "AA=="))]

def uplinkedEnd (lasting : Bool) : Except OperationError Unit × Controller (Chronicle Bool) :=
  (uplinkedExit lasting).deactivate (chronicled plainSettings (uplinked lasting)) 0 true

/-- The host route goes with the interface. -/
theorem released_lastingExit :
    (uplinkedExit true).system.host.pinned.get? "hl" = some "203.0.113.5/32" ∧
      isGone (uplinkedEnd true).1 = true ∧ (uplinkedEnd true).2.system.Released "hl" := by
  have hrun : (uplinkedExit true).system.host.pinned.get? "hl" = some "203.0.113.5/32" ∧
      (uplinkedEnd true).1 = .ok () := by decide +kernel
  obtain ⟨hknown, hok⟩ := hrun
  have hgone : isGone (uplinkedEnd true).1 = true := by
    rw [hok]
    rfl
  obtain ⟨-, hreleased⟩ := released_iff_deleted plainSettings (uplinked true) false ⟨"hl"⟩
    [.operation (.activate "then" (plainBody 0 "AA=="))] 0 true
  exact ⟨hknown, hgone, (hreleased hgone).1.mpr (.inl hok)⟩

/-- The interface has vanished before the hop is brought down. The hop goes, and its host route
stays. -/
theorem not_released_vanishedExit :
    (uplinkedEnd false).1 = .error (.interfaceMissing "hl") ∧
      (uplinkedEnd false).2.chain.get? 0 = none ∧
      (uplinkedEnd false).2.system.host.pinned.get? "hl" = some "203.0.113.5/32" ∧
      Outstanding (uplinkedEnd false).2.system.deeds "hl" "203.0.113.5/32" := by
  have hrun : (uplinkedEnd false).1 = .error (.interfaceMissing "hl") ∧
      (uplinkedEnd false).2.chain.get? 0 = none ∧
      (uplinkedEnd false).2.system.host.pinned.get? "hl" =
        some "203.0.113.5/32" := by decide +kernel
  obtain ⟨hmissing, hdown, hknown⟩ := hrun
  have hkeeps := keeps_isTrue plainSettings (uplinked false)
  have htrue : (uplinkedEnd false).2.system.IsTrue :=
    Controller.keeps_operate hkeeps ⟨"hl"⟩ (.deactivate 0 true)
      (Controller.keeps_served hkeeps ⟨"hl"⟩ (Chronicle.isTrue_blank false) _)
  exact ⟨hmissing, hdown, hknown, (htrue.get?_iff _ _).mp hknown⟩

end Linux

end TunnelChain
