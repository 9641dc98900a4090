import TunnelChain.Engine.Linux
import TunnelChain.Proofs.Table

/-!
# The commands behind the calls

Each call on a Linux system issues commands one after another. What these are depends on what came
of the commands before them, on the host routes that are pinned, and on the link whose name servers
were set.
-/

namespace TunnelChain

variable {ρ : Type}

/-! ## Issues -/

/-- A command that has been issued, and what came of it. -/
structure Issue where
  command : Command
  answer : Except String String
deriving Repr

/-- A system with the commands that it has run, oldest first. -/
structure Journal (ρ : Type) where
  system : ρ
  issues : List Issue

/-- The runner that also writes down every command that it runs. -/
def Runner.journaled (run : Runner ρ) : Runner (Journal ρ) := fun command journal =>
  let (reply, system) := run command journal.system
  (reply, ⟨system, journal.issues ++ [⟨command, command.result reply⟩]⟩)

/-- The ways in which commands lead from one state of a system to another. A command that cannot be
handed over fails and is not run. -/
inductive Issues (run : Runner ρ) : ρ → List Issue → ρ → Prop where
  | nil (commands : ρ) : Issues run commands [] commands
  | unsent {commands last : ρ} {command : Command} {issued : List Issue} (reason : String)
      (hnul : command.hasNul = true) (hrest : Issues run commands issued last) :
      Issues run commands (⟨command, .error reason⟩ :: issued) last
  | sent {commands last : ρ} {command : Command} {issued : List Issue}
      (hnul : command.hasNul = false) (hrest : Issues run (run command commands).2 issued last) :
      Issues run commands (⟨command, command.result (run command commands).1⟩ :: issued) last

namespace Issues

variable {run : Runner ρ} {commands middle last : ρ} {issued later : List Issue}

theorem append (h : Issues run commands issued middle) (hlater : Issues run middle later last) :
    Issues run commands (issued ++ later) last := by
  induction h with
  | nil => exact hlater
  | unsent reason hnul _ ih => exact .unsent reason hnul (ih hlater)
  | sent hnul _ ih => exact .sent hnul (ih hlater)

theorem hasNul_of_isOk (h : Issues run commands issued last) {issue : Issue} (hmem : issue ∈ issued)
    (hok : issue.answer.isOk = true) : issue.command.hasNul = false := by
  induction h with
  | nil => cases hmem
  | unsent reason hnul _ ih =>
    obtain rfl | hmem := List.mem_cons.mp hmem
    · cases hok
    · exact ih hmem
  | sent hnul _ ih =>
    obtain rfl | hmem := List.mem_cons.mp hmem
    · exact hnul
    · exact ih hmem

/-- The journal takes up the commands that could be handed over. -/
theorem of_journaled {before after : Journal ρ} (h : Issues run.journaled before issued after) :
    after.issues = before.issues ++ issued.filter (!·.command.hasNul) := by
  induction h with
  | nil => exact (List.append_nil _).symm
  | unsent reason hnul _ ih =>
    rw [ih, List.filter_cons_of_neg]
    simp [hnul]
  | sent hnul _ ih =>
    rw [ih, List.filter_cons_of_pos (by simp [hnul])]
    exact List.append_assoc _ _ _

theorem result_of_cons {command : Command} {output : String}
    (h : Issues run commands (⟨command, .ok output⟩ :: issued) last) :
    command.result (run command commands).1 = .ok output := by
  generalize hwhole : (⟨command, .ok output⟩ :: issued : List Issue) = whole at h
  cases h with
  | nil => cases hwhole
  | unsent reason hnul hrest => cases (Issue.mk.inj (List.cons.inj hwhole).1).2
  | sent hnul hrest =>
    obtain ⟨rfl, hanswer⟩ := Issue.mk.inj (List.cons.inj hwhole).1
    exact hanswer.symm

end Issues

/-- The ways to go through commands in order: to the end, or up to one that fails. -/
inductive Submission (commands : List Command) : List Issue → Except String Unit → Prop where
  | completed {issued : List Issue} (hcommands : issued.map Issue.command = commands)
      (hall : ∀ issue ∈ issued, issue.answer.isOk = true) : Submission commands issued (.ok ())
  | stopped {done : List Issue} {command : Command} {rest : List Command} (reason : String)
      (hcommands : commands = done.map Issue.command ++ command :: rest)
      (hdone : ∀ issue ∈ done, issue.answer.isOk = true) :
      Submission commands (done ++ [⟨command, .error reason⟩]) (.error reason)

theorem Submission.cons {command : Command} {commands : List Command} {issued : List Issue}
    {result : Except String Unit} (output : String) (h : Submission commands issued result) :
    Submission (command :: commands) (⟨command, .ok output⟩ :: issued) result := by
  cases h with
  | completed hcommands hall =>
    exact .completed (congrArg (command :: ·) hcommands) (List.forall_mem_cons.mpr ⟨rfl, hall⟩)
  | stopped reason hcommands hdone =>
    rw [← List.cons_append]
    exact .stopped reason (congrArg (command :: ·) hcommands)
      (List.forall_mem_cons.mpr ⟨rfl, hdone⟩)

theorem Submission.failed (command : Command) (rest : List Command) (reason : String) :
    Submission (command :: rest) [⟨command, .error reason⟩] (.error reason) := by
  rw [← List.nil_append [_]]
  exact .stopped reason rfl (List.forall_mem_nil _)

theorem Submission.nil_inv {issued : List Issue} {result : Except String Unit}
    (h : Submission [] issued result) :
    issued = [] ∧ result = .ok () := by
  cases h with
  | completed hcommands => exact ⟨List.map_eq_nil_iff.mp hcommands, rfl⟩
  | stopped reason hcommands =>
    exact absurd hcommands.symm (List.append_ne_nil_of_right_ne_nil _ (List.cons_ne_nil _ _))

theorem Submission.cons_inv {command : Command} {commands : List Command} {issued : List Issue}
    {result : Except String Unit} (h : Submission (command :: commands) issued result) :
    (∃ reason, issued = [⟨command, .error reason⟩] ∧ result = .error reason) ∨
      ∃ output rest, issued = ⟨command, .ok output⟩ :: rest ∧ Submission commands rest result := by
  cases h with
  | completed hcommands hall =>
    obtain ⟨⟨_, answer⟩, rest, rfl, rfl, hrest⟩ := List.map_eq_cons_iff.mp hcommands
    obtain ⟨hfirst, hlater⟩ := List.forall_mem_cons.mp hall
    cases answer with
    | error reason => cases hfirst
    | ok output => exact .inr ⟨output, rest, rfl, .completed hrest hlater⟩
  | @stopped done last rest reason hcommands hdone =>
    cases done with
    | nil =>
      obtain ⟨rfl, rfl⟩ := List.cons.inj hcommands
      exact .inl ⟨reason, rfl, rfl⟩
    | cons first done =>
      obtain ⟨rfl, hrest⟩ := List.cons.inj hcommands
      obtain ⟨command, answer⟩ := first
      obtain ⟨hfirst, hlater⟩ := List.forall_mem_cons.mp hdone
      cases answer with
      | error reason => cases hfirst
      | ok output =>
        exact .inr ⟨output, done ++ [⟨last, .error reason⟩], rfl, .stopped reason hrest hlater⟩

theorem Submission.mem {commands : List Command} {issued : List Issue} {result : Except String Unit}
    (h : Submission commands issued result) : ∀ issue ∈ issued, issue.command ∈ commands := by
  cases h with
  | completed hcommands => exact fun issue hmem => hcommands ▸ List.mem_map_of_mem hmem
  | stopped reason hcommands =>
    intro issue hmem
    rw [hcommands, List.mem_append, List.mem_cons]
    obtain hmem | hmem := List.mem_append.mp hmem
    · exact .inl (List.mem_map_of_mem hmem)
    · exact .inr (.inl (congrArg Issue.command (List.mem_singleton.mp hmem)))

namespace Linux

variable {run : Runner ρ} {host middle next : Linux ρ} {issued later : List Issue}

/-- Whether commands alone lead from one state of a host to another. -/
structure Moves (run : Runner ρ) (host : Linux ρ) (issued : List Issue) (next : Linux ρ) :
    Prop where
  issues : Issues run host.commands issued next.commands
  pinned : next.pinned = host.pinned
  link : next.link = host.link

theorem Moves.append (h : Moves run host issued middle) (hlater : Moves run middle later next) :
    Moves run host (issued ++ later) next :=
  ⟨h.issues.append hlater.issues, hlater.pinned.trans h.pinned, hlater.link.trans h.link⟩

namespace Work

theorem moves_submit (run : Runner ρ) (work : Work ρ) (command : Command) :
    Moves run work.host
    [⟨command, (work.submit run command).1⟩] (work.submit run command).2.host := by
  unfold submit
  dsimp only
  split
  · rename_i hnul
    exact ⟨.unsent _ hnul (.nil _), rfl, rfl⟩
  · rename_i hnul
    exact ⟨.sent (Bool.not_eq_true _ ▸ hnul) (.nil _), rfl, rfl⟩

theorem submitAll_law (run : Runner ρ) (work : Work ρ) (commands : List Command) :
    ∃ issued, Moves run work.host issued (work.submitAll run commands).2.host ∧
      Submission commands issued (work.submitAll run commands).1 := by
  induction commands generalizing work with
  | nil => exact ⟨[], ⟨.nil _, rfl, rfl⟩, .completed rfl (List.forall_mem_nil _)⟩
  | cons command rest ih =>
    have hfirst := moves_submit run work command
    unfold submitAll
    cases hsubmit : work.submit run command with
    | mk answer next =>
      rw [hsubmit] at hfirst
      cases answer with
      | error reason => exact ⟨_, hfirst, .failed command rest reason⟩
      | ok output =>
        obtain ⟨issued, hmoves, hrest⟩ := ih next
        exact ⟨_, hfirst.append hmoves, hrest.cons output⟩

end Work

end Linux

/-! ## Host routes -/

/-- The way that a look for a route has shown, unless it leads through an interface that has a host
route itself. -/
def wayOut (pinned : Table String String) : Except String String → Option RouteVia
  | .ok printed => (RouteVia.ofText? printed).filter fun via => !pinned.contains via.device
  | .error _ => none

/-- The ways to pin a host route anew: the old one is removed, the way to the peer is looked for,
and a route over it is set. Only one that has been set is kept. -/
inductive Repinning (name : String) (peer : Ip) (pinned : Table String String) :
    List Issue → Table String String → Prop where
  | intro {releases ways : List Issue} (answer : Except String String)
      (hreleases : releases.map Issue.command = (pinned.get? name).toList.map .removeRoute)
      (hways : ways.map Issue.command =
        (wayOut (pinned.erase name) answer).toList.map (.replaceHostRoute peer)) :
      Repinning name peer pinned (releases ++ ⟨.getRoute peer, answer⟩ :: ways)
        (if ways.any (·.answer.isOk) then (pinned.erase name).insert name (hostRoute peer)
          else pinned.erase name)

namespace Repinning

variable {name : String} {peer : Ip} {pinned after : Table String String} {issued : List Issue}

theorem isRoute (h : Repinning name peer pinned issued after) :
    ∀ issue ∈ issued, ∃ flag arguments, issue.command = .ip (flag :: "route" :: arguments) := by
  obtain ⟨shown, hreleases, hways⟩ := h
  rw [List.forall_mem_append, List.forall_mem_cons]
  refine ⟨fun issue hmem => ?_, ⟨_, _, rfl⟩, fun issue hmem => ?_⟩
  · obtain ⟨route, -, hroute⟩ := List.mem_map.mp (hreleases ▸ List.mem_map_of_mem hmem)
    exact ⟨_, _, hroute.symm⟩
  · obtain ⟨via, -, hvia⟩ := List.mem_map.mp (hways ▸ List.mem_map_of_mem hmem)
    exact ⟨_, _, hvia.symm⟩

theorem program_eq (h : Repinning name peer pinned issued after) :
    ∀ issue ∈ issued, issue.command.program = "ip" := by
  intro issue hmem
  obtain ⟨flag, arguments, hroute⟩ := h.isRoute issue hmem
  exact congrArg Command.program hroute

end Repinning

namespace Linux

variable {run : Runner ρ}

namespace Work

variable (run) (name : String) (peer : Ip) (work : Work ρ)

theorem unpin_law :
    ∃ releases, Issues run work.host.commands releases (work.unpin run name).host.commands ∧
    releases.map Issue.command = (work.host.pinned.get? name).toList.map .removeRoute ∧
    (work.unpin run name).host.pinned = work.host.pinned.erase name ∧
    (work.unpin run name).host.link = work.host.link := by
  unfold unpin
  cases hpin : work.host.pinned.get? name with
  | none => exact ⟨[], .nil _, rfl, (Table.erase_of_get?_eq_none hpin).symm, rfl⟩
  | some route =>
    have hremoved :=
      moves_submit run (work.setPinned (work.host.pinned.erase name)) (.removeRoute route)
    dsimp only
    split
    · rename_i heq
      rw [heq] at hremoved
      exact ⟨_, hremoved.issues, rfl, hremoved.pinned, hremoved.link⟩
    · rename_i heq
      rw [heq] at hremoved
      exact ⟨_, hremoved.issues, rfl, hremoved.pinned, hremoved.link⟩

theorem pin_law : ∃ answer ways,
    Issues run work.host.commands (⟨.getRoute peer, answer⟩ :: ways)
      (work.pin run name peer).host.commands ∧
    ways.map Issue.command = (wayOut work.host.pinned answer).toList.map (.replaceHostRoute peer) ∧
    (work.pin run name peer).host.pinned =
      (if ways.any (·.answer.isOk) then
        work.host.pinned.insert name (hostRoute peer) else work.host.pinned) ∧
    (work.pin run name peer).host.link = work.host.link := by
  have hasked := moves_submit run work (.getRoute peer)
  unfold pin
  cases hget : work.submit run (.getRoute peer) with
  | mk answer asked =>
    rw [hget] at hasked
    refine ⟨answer, ?_⟩
    cases answer with
    | error reason => exact ⟨[], hasked.issues, rfl, hasked.pinned, hasked.link⟩
    | ok printed =>
      dsimp only
      cases hread : RouteVia.ofText? printed with
      | none => exact ⟨[], hasked.issues, by rw [wayOut, hread]; rfl, hasked.pinned, hasked.link⟩
      | some via =>
        dsimp only
        have hway : wayOut work.host.pinned (.ok printed) =
            if asked.host.pinned.contains via.device then none else some via := by
          rw [wayOut, hread, hasked.pinned]
          cases hcontains : work.host.pinned.contains via.device <;> simp [Option.filter, hcontains]
        rw [hway]
        split
        · exact ⟨[], hasked.issues, rfl, hasked.pinned, hasked.link⟩
        · have hreplaced := moves_submit run asked (.replaceHostRoute peer via)
          cases hreplace : asked.submit run (.replaceHostRoute peer via) with
          | mk answer replaced =>
            rw [hreplace] at hreplaced
            have hmoved := hasked.append hreplaced
            refine ⟨[⟨.replaceHostRoute peer via, answer⟩], ?_⟩
            cases answer with
            | error reason => exact ⟨hmoved.issues, rfl, hmoved.pinned, hmoved.link⟩
            | ok output =>
              exact ⟨hmoved.issues, rfl,
                congrArg (Table.insert · name (hostRoute peer)) hmoved.pinned, hmoved.link⟩

theorem repin_law : ∃ issued,
    Issues run work.host.commands issued ((work.unpin run name).pin run name peer).host.commands ∧
    Repinning name peer work.host.pinned issued
      ((work.unpin run name).pin run name peer).host.pinned ∧
    ((work.unpin run name).pin run name peer).host.link = work.host.link := by
  obtain ⟨releases, hreleased, hreleases, hunpinned, hlink⟩ := unpin_law run name work
  obtain ⟨answer, ways, hissues, hways, hpinned, hkept⟩ :=
    pin_law run name peer (work.unpin run name)
  rw [hunpinned] at hways hpinned
  refine ⟨_, hreleased.append hissues, ?_, hkept.trans hlink⟩
  rw [hpinned]
  exact .intro answer hreleases hways

end Work

end Linux

/-! ## Calls -/

/-- The ways to set the peer of a tunnel whose endpoint is known, with the host routes afterwards:
the other peers are removed, the host route is pinned anew, and the peer is set. -/
inductive Configuring (tunnel : Tunnel) (endpoint : Endpoint) (pinned : Table String String) :
    List Issue → Except String Unit → Table String String → Prop where
  | unlisted (reason : String) :
      Configuring tunnel endpoint pinned [⟨.showPeers tunnel.name, .error reason⟩]
        (.error reason) pinned
  | unremoved {listing reason : String} {removals : List Issue}
      (hremovals : Submission
        ((stalePeers listing tunnel.publicKey).map (.removePeer tunnel.name)) removals
        (.error reason)) :
      Configuring tunnel endpoint pinned (⟨.showPeers tunnel.name, .ok listing⟩ :: removals)
        (.error reason) pinned
  | passed {listing : String} {removals routing : List Issue} {after : Table String String}
      (hremovals : Submission
        ((stalePeers listing tunnel.publicKey).map (.removePeer tunnel.name)) removals
        (.ok ()))
      (hrouting : Repinning tunnel.name endpoint.ip pinned routing after)
      (answer : Except String String) :
      Configuring tunnel endpoint pinned
        (⟨.showPeers tunnel.name, .ok listing⟩ :: removals ++ routing ++
          [⟨.setPeer tunnel endpoint, answer⟩])
        (answer.map fun _ => ()) after

theorem Configuring.program_removal {tunnel : Tunnel} {listing : String} {removals : List Issue}
    {result : Except String Unit}
    (h : Submission ((stalePeers listing tunnel.publicKey).map (.removePeer tunnel.name))
      removals result) :
    ∀ issue ∈ removals, issue.command.program = "wg" := by
  intro issue hmem
  obtain ⟨peer, -, hpeer⟩ := List.mem_map.mp (h.mem issue hmem)
  exact congrArg Command.program hpeer.symm

theorem mapError_eq_ok_iff {ε δ α : Type} {f : ε → δ} {result : Except ε α} {value : α} :
    result.mapError f = .ok value ↔ result = .ok value := by
  cases result with
  | error fault => exact ⟨nofun, nofun⟩
  | ok given =>
    exact ⟨fun h => congrArg Except.ok (Except.ok.inj h),
      fun h => congrArg Except.ok (Except.ok.inj h)⟩

namespace Linux

variable {settings : LinuxSettings} {tunnel : Tunnel}

/-- A call is granted exactly if its commands could be carried out. -/
theorem answer_perform_eq_ok_iff (settings : LinuxSettings) (run : Runner ρ) (call : Call)
    (host : Linux ρ) :
    ((engine settings run).perform call host).answer = .ok () ↔
      (carryOut settings run ⟨host, []⟩ call).1 = .ok () :=
  mapError_eq_ok_iff

/-- The search for the endpoint of a tunnel. -/
def endpointSearch (settings : LinuxSettings) (tunnel : Tunnel) : Search :=
  Search.resolve tunnel.serverIpv4 tunnel.port settings.retry
    (settings.lookup tunnel.serverIpv4 tunnel.port)

theorem configure_of_error (run : Runner ρ) (work : Work ρ) {error : ResolveError}
    (h : (endpointSearch settings tunnel).result = .error error) :
    (configure settings run tunnel work).1 = .error error.message ∧
      (configure settings run tunnel work).2.host = work.host := by
  unfold configure
  unfold endpointSearch at h
  dsimp only
  rw [h]
  exact ⟨rfl, rfl⟩

theorem configure_law (run : Runner ρ) (work : Work ρ) {endpoint : Endpoint}
    (h : (endpointSearch settings tunnel).result = .ok endpoint) :
    ∃ issued,
      Issues run work.host.commands issued (configure settings run tunnel work).2.host.commands ∧
      Configuring tunnel endpoint work.host.pinned issued (configure settings run tunnel work).1
        (configure settings run tunnel work).2.host.pinned ∧
      (configure settings run tunnel work).2.host.link = work.host.link := by
  unfold configure
  unfold endpointSearch at h
  dsimp only
  rw [h]
  dsimp only
  generalize hsearched : ({ work with log := _ } : Work ρ) = searched
  have hhost : searched.host = work.host := hsearched ▸ rfl
  have hlisted := Work.moves_submit run searched (.showPeers tunnel.name)
  rw [← hhost]
  cases hlist : searched.submit run (.showPeers tunnel.name) with
  | mk answer listed =>
    rw [hlist] at hlisted
    cases answer with
    | error reason =>
      exact ⟨_, hlisted.issues, hlisted.pinned.symm ▸ .unlisted reason, hlisted.link⟩
    | ok listing =>
      dsimp only
      obtain ⟨removals, hremoved, hremovals⟩ := Work.submitAll_law run listed
        ((stalePeers listing tunnel.publicKey).map (.removePeer tunnel.name))
      have hbefore := hlisted.append hremoved
      cases hremove :
        listed.submitAll run
          ((stalePeers listing tunnel.publicKey).map (.removePeer tunnel.name)) with
      | mk answer removed =>
        rw [hremove] at hbefore hremovals
        cases answer with
        | error reason =>
          exact ⟨_, hbefore.issues, hbefore.pinned.symm ▸ .unremoved hremovals, hbefore.link⟩
        | ok done =>
          dsimp only
          obtain ⟨routing, hrouted, hrouting, hlink⟩ :=
            Work.repin_law run tunnel.name endpoint.ip removed
          rw [hbefore.pinned] at hrouting
          have hset := Work.moves_submit run
            ((removed.unpin run tunnel.name).pin run tunnel.name endpoint.ip)
              (.setPeer tunnel endpoint)
          have hissues := (hbefore.issues.append hrouted).append hset.issues
          have hlast := hset.link.trans (hlink.trans hbefore.link)
          cases hfinal :
            ((removed.unpin run tunnel.name).pin run tunnel.name endpoint.ip).submit run
            (.setPeer tunnel endpoint) with
          | mk answer last =>
            rw [hfinal] at hset hissues hlast
            rw [← hset.pinned] at hrouting
            cases answer with
            | error reason => exact ⟨_, hissues, .passed hremovals hrouting (.error reason), hlast⟩
            | ok output => exact ⟨_, hissues, .passed hremovals hrouting (.ok output), hlast⟩

theorem updateResolvers_law (run : Runner ρ) (name : String) (resolvers : List String)
    (work : Work ρ) :
    ∃ issued, Issues run work.host.commands issued
      (updateResolvers run name resolvers work).2.host.commands ∧
      Submission [.setResolvers name resolvers, .claimDomains name] issued
        (updateResolvers run name resolvers work).1 ∧
      (updateResolvers run name resolvers work).2.host.link =
        if (updateResolvers run name resolvers work).1.isOk then some name else work.host.link := by
  obtain ⟨issued, hmoves, hsubmission⟩ :=
    Work.submitAll_law run work [.setResolvers name resolvers, .claimDomains name]
  refine ⟨issued, ?_⟩
  unfold updateResolvers
  cases hsubmit : work.submitAll run [.setResolvers name resolvers, .claimDomains name] with
  | mk answer next =>
    rw [hsubmit] at hmoves hsubmission
    cases answer with
    | error reason => exact ⟨hmoves.issues, hsubmission, hmoves.link⟩
    | ok done => exact ⟨hmoves.issues, hsubmission, rfl⟩

theorem restoreResolvers_of_none (run : Runner ρ) {work : Work ρ} (h : work.host.link = none) :
    restoreResolvers run work = (.ok (), work) := by
  unfold restoreResolvers
  rw [h]

theorem restoreResolvers_of_some (run : Runner ρ) {work : Work ρ} {link : String}
    (h : work.host.link = some link) :
    ∃ issued, Issues run work.host.commands issued (restoreResolvers run work).2.host.commands ∧
      Submission [.revertResolvers link] issued (restoreResolvers run work).1 ∧
      (restoreResolvers run work).2.host.link = none := by
  obtain ⟨issued, hmoves, hsubmission⟩ :=
    Work.submitAll_law run (work.setLink none) [.revertResolvers link]
  unfold restoreResolvers
  rw [h]
  exact ⟨issued, hmoves.issues, hsubmission, hmoves.link⟩

end Linux

end TunnelChain
