import TunnelChain.Proofs.Issuing

/-!
# The script of a peer

Setting the peer of a tunnel follows a script. Where `wg` fails the script ends, and so does the
call; what comes of `ip` only decides how it goes on. The host routes that are known are those that
have been set.
-/

namespace TunnelChain

variable {ρ : Type}

/-- Whether a command ends the script: `wg` has failed, for this reason. -/
def Issue.IsFatal (issue : Issue) (reason : String) : Prop :=
  issue.command.program = "wg" ∧ issue.answer = .error reason

/-- The script that sets the peer of a tunnel, given the peers that are listed and the route that is
shown. -/
def Tunnel.script (tunnel : Tunnel) (endpoint : Endpoint) (pinned : Table String String)
    (listing : String) (shown : Except String String) : List Command :=
  .showPeers tunnel.name :: (stalePeers listing tunnel.publicKey).map (.removePeer tunnel.name) ++
    (pinned.get? tunnel.name).toList.map .removeRoute ++
    .getRoute endpoint.ip ::
      (wayOut (pinned.erase tunnel.name) shown).toList.map (.replaceHostRoute endpoint.ip) ++
    [.setPeer tunnel endpoint]

/-- Whether commands follow the script of a tunnel up to the first that is fatal, if one is, and
whether the result and the host routes afterwards are what comes of them. The look for a route is
issued exactly if the other peers have been removed. -/
structure Scripted (tunnel : Tunnel) (endpoint : Endpoint) (pinned : Table String String)
    (issued : List Issue) (result : Except String Unit) (after : Table String String) : Prop where
  course : ∃ listing shown,
    (∀ output, ⟨.showPeers tunnel.name, .ok output⟩ ∈ issued → output = listing) ∧
    (∀ answer, ⟨.getRoute endpoint.ip, answer⟩ ∈ issued → answer = shown) ∧
    issued.map Issue.command <+: tunnel.script endpoint pinned listing shown ∧
    (issued.map Issue.command ≠ tunnel.script endpoint pinned listing shown →
      ∃ last ∈ issued.getLast?, ∃ reason, last.IsFatal reason)
  goes_on : ∀ issue ∈ issued.dropLast, ∀ reason, ¬ issue.IsFatal reason
  fails_iff : ∀ reason, result = .error reason ↔ ∃ issue ∈ issued, issue.IsFatal reason
  kept : (∀ answer, ⟨.getRoute endpoint.ip, answer⟩ ∉ issued) → after = pinned
  pins : (∃ answer, ⟨.getRoute endpoint.ip, answer⟩ ∈ issued) → ∀ route,
    after.get? tunnel.name = some route ↔
      route = hostRoute endpoint.ip ∧
        ∃ via output, ⟨.replaceHostRoute endpoint.ip via, .ok output⟩ ∈ issued
  others : ∀ other ≠ tunnel.name, after.get? other = pinned.get? other

namespace Repinning

variable {name : String} {peer : Ip} {pinned after : Table String String} {issued : List Issue}

theorem course (h : Repinning name peer pinned issued after) : ∃ shown,
    ⟨.getRoute peer, shown⟩ ∈ issued ∧
      (∀ answer, ⟨.getRoute peer, answer⟩ ∈ issued → answer = shown) ∧
    issued.map Issue.command = (pinned.get? name).toList.map .removeRoute ++
      .getRoute peer :: (wayOut (pinned.erase name) shown).toList.map (.replaceHostRoute peer) := by
  obtain ⟨shown, hreleases, hways⟩ := h
  refine ⟨shown, List.mem_append_right _ List.mem_cons_self, fun answer hmem => ?_, ?_⟩
  · rw [List.mem_append, List.mem_cons] at hmem
    obtain hmem | heq | hmem := hmem
    · obtain ⟨route, -, hroute⟩ := List.mem_map.mp (hreleases ▸ List.mem_map_of_mem hmem)
      simp [Command.removeRoute, Command.getRoute, Command.ip] at hroute
    · exact congrArg Issue.answer heq
    · obtain ⟨via, -, hvia⟩ := List.mem_map.mp (hways ▸ List.mem_map_of_mem hmem)
      simp [Command.replaceHostRoute, Command.getRoute, Command.ip] at hvia
  · rw [List.map_append, List.map_cons, hreleases, hways]

/-- The interface has a host route afterwards exactly if one has been set, and it is the peer's. -/
theorem get?_eq_some_iff (h : Repinning name peer pinned issued after) (route : String) :
    after.get? name = some route ↔
      route = hostRoute peer ∧ ∃ via output, ⟨.replaceHostRoute peer via, .ok output⟩ ∈ issued := by
  obtain @⟨releases, ways, shown, hreleases, hways⟩ := h
  have hset : (∃ via output, (⟨.replaceHostRoute peer via, .ok output⟩ : Issue) ∈
      releases ++ ⟨.getRoute peer, shown⟩ :: ways) ↔ ways.any (·.answer.isOk) = true := by
    rw [List.any_eq_true]
    constructor
    · rintro ⟨via, output, hmem⟩
      rw [List.mem_append, List.mem_cons] at hmem
      obtain hmem | heq | hmem := hmem
      · obtain ⟨route, -, hroute⟩ := List.mem_map.mp (hreleases ▸ List.mem_map_of_mem hmem)
        simp [Command.removeRoute, Command.replaceHostRoute, Command.ip] at hroute
      · have hcommand := congrArg Issue.command heq
        simp [Command.getRoute, Command.replaceHostRoute, Command.ip] at hcommand
      · exact ⟨_, hmem, rfl⟩
    · rintro ⟨⟨command, answer⟩, hmem, hok⟩
      obtain ⟨via, -, rfl⟩ := List.mem_map.mp (hways ▸ List.mem_map_of_mem hmem)
      cases answer with
      | error reason => cases hok
      | ok output => exact ⟨via, output, List.mem_append_right _ (List.mem_cons_of_mem _ hmem)⟩
  rw [hset]
  split
  · rename_i hany
    rw [Table.get?_insert, if_pos rfl, and_iff_left hany, Option.some_inj, eq_comm]
  · rename_i hany
    rw [Table.get?_erase, if_pos rfl]
    simp [hany]

theorem get?_other (h : Repinning name peer pinned issued after) {other : String}
    (hother : other ≠ name) :
    after.get? other = pinned.get? other := by
  obtain ⟨shown, hreleases, hways⟩ := h
  split
  · rw [Table.get?_insert, if_neg hother, Table.get?_erase, if_neg hother]
  · rw [Table.get?_erase, if_neg hother]

end Repinning

namespace Configuring

variable {tunnel : Tunnel} {endpoint : Endpoint} {pinned after : Table String String}
  {issued : List Issue} {result : Except String Unit} {listing : String}

theorem not_isFatal_of_isOk {issue : Issue} (h : issue.answer.isOk = true) (reason : String) :
    ¬ issue.IsFatal reason := by
  rintro ⟨-, herror⟩
  rw [herror] at h
  cases h

/-- Only the last command can be fatal, and it gives the result. -/
theorem exists_last (h : Configuring tunnel endpoint pinned issued result after) : ∃ before last,
    issued = before ++ [last] ∧ last.command.program = "wg" ∧
      result = last.answer.map (fun _ => ()) ∧
    ∀ issue ∈ before, ∀ reason, ¬ issue.IsFatal reason := by
  cases h with
  | unlisted reason => exact ⟨[], _, rfl, rfl, rfl, List.forall_mem_nil _⟩
  | unremoved hremovals =>
    have hwg := program_removal hremovals
    cases hremovals with
    | @stopped done command _ _ _ hdone =>
      refine ⟨⟨.showPeers tunnel.name, .ok _⟩ :: done, ⟨command, .error _⟩, rfl, ?_, rfl, ?_⟩
      · exact hwg _ (List.mem_append_right _ (List.mem_singleton_self _))
      · exact List.forall_mem_cons.mpr
          ⟨not_isFatal_of_isOk rfl, fun issue hmem => not_isFatal_of_isOk (hdone issue hmem)⟩
  | passed hremovals hrouting answer =>
    refine ⟨_, ⟨.setPeer tunnel endpoint, answer⟩, rfl, rfl, rfl, ?_⟩
    rw [List.forall_mem_append, List.forall_mem_cons]
    refine ⟨⟨not_isFatal_of_isOk rfl, fun issue hmem => ?_⟩, fun issue hmem reason hfatal => ?_⟩
    · cases hremovals with
      | completed hcommands hall => exact not_isFatal_of_isOk (hall issue hmem)
    · exact absurd ((hrouting.program_eq issue hmem).symm.trans hfatal.1) (by decide)

section Commands

variable {removals routing : List Issue} {answer : Except String String} {command : Command}

theorem not_mem_of_ip (h : ∀ issue ∈ issued, issue.command.program = "wg")
    (hip : command.program = "ip") :
    ⟨command, answer⟩ ∉ issued :=
  fun hmem => absurd ((h _ hmem).symm.trans hip) (by decide)

theorem program_listed (tunnel : Tunnel)
    (hremovals : ∀ issue ∈ removals, issue.command.program = "wg") (answer : Except String String) :
    ∀ issue ∈ ⟨.showPeers tunnel.name, answer⟩ :: removals, issue.command.program = "wg" :=
  List.forall_mem_cons.mpr ⟨rfl, hremovals⟩

/-- Only the commands for the host route are ones for `ip`. -/
theorem mem_iff_of_ip (hremovals : ∀ issue ∈ removals, issue.command.program = "wg")
    (hip : command.program = "ip") (final : Except String String) :
    ⟨command, answer⟩ ∈ ⟨.showPeers tunnel.name, .ok listing⟩ :: removals ++ routing ++
      [⟨.setPeer tunnel endpoint, final⟩] ↔ ⟨command, answer⟩ ∈ routing := by
  have hfront : ⟨command, answer⟩ ∉ (⟨.showPeers tunnel.name, .ok listing⟩ : Issue) :: removals :=
    not_mem_of_ip (program_listed tunnel hremovals _) hip
  have hlast : (⟨command, answer⟩ : Issue) ∉ [⟨.setPeer tunnel endpoint, final⟩] :=
    not_mem_of_ip (List.forall_mem_singleton.mpr rfl) hip
  rw [List.mem_append, List.mem_append]
  simp only [hfront, hlast, false_or, or_false]

theorem showPeers_not_mem {given : Except String Unit}
    (hremovals : Submission ((stalePeers listing tunnel.publicKey).map (.removePeer tunnel.name))
      removals given)
    (answer : Except String String) : ⟨.showPeers tunnel.name, answer⟩ ∉ removals := by
  intro hmem
  obtain ⟨peer, -, hpeer⟩ := List.mem_map.mp (hremovals.mem _ hmem)
  simp [Command.removePeer, Command.showPeers, Command.wg] at hpeer

end Commands

theorem course (h : Configuring tunnel endpoint pinned issued result after) : ∃ listing shown,
    (∀ output, ⟨.showPeers tunnel.name, .ok output⟩ ∈ issued → output = listing) ∧
    (∀ answer, ⟨.getRoute endpoint.ip, answer⟩ ∈ issued → answer = shown) ∧
    issued.map Issue.command <+: tunnel.script endpoint pinned listing shown ∧
    (issued.map Issue.command ≠ tunnel.script endpoint pinned listing shown →
      ∃ reason, result = .error reason) := by
  -- Nothing is known of a listing and of a route that have not come to be shown: any will do.
  cases h with
  | unlisted reason =>
    refine ⟨"", .error "", fun output hmem => ?_, fun answer hmem => ?_, ?_, fun _ => ⟨reason, rfl⟩⟩
    · simp at hmem
    · exact absurd hmem (not_mem_of_ip (List.forall_mem_singleton.mpr rfl) rfl)
    · exact List.cons_prefix_cons.mpr ⟨rfl, List.nil_prefix⟩
  | @unremoved listing reason removals hremovals =>
    have hwg := program_listed tunnel (program_removal hremovals) (.ok listing)
    have hlisted := showPeers_not_mem hremovals
    refine ⟨listing, .error "", fun output hmem => ?_,
      fun answer hmem => absurd hmem (not_mem_of_ip hwg rfl), ?_, fun _ => ⟨reason, rfl⟩⟩
    · obtain heq | hmem := List.mem_cons.mp hmem
      · exact Except.ok.inj (congrArg Issue.answer heq)
      · exact absurd hmem (hlisted _)
    · have hremoved : removals.map Issue.command <+:
          (stalePeers listing tunnel.publicKey).map (.removePeer tunnel.name) := by
        cases hremovals with
        | @stopped done command rest _ hcommands _ =>
          exact ⟨rest, by rw [hcommands, List.map_append, List.append_assoc]; rfl⟩
      have hfront := List.cons_prefix_cons.mpr ⟨(rfl : Command.showPeers tunnel.name = _), hremoved⟩
      exact ((hfront.trans (List.prefix_append _ _)).trans (List.prefix_append _ _)).trans
        (List.prefix_append _ _)
  | @passed listing removals routing after hremovals hrouting final =>
    have hwg := program_removal hremovals
    have hlisted := showPeers_not_mem hremovals
    obtain ⟨shown, hshown, hunique, hcourse⟩ := hrouting.course
    have hwhole : ((⟨.showPeers tunnel.name, .ok listing⟩ : Issue) :: removals ++ routing ++
        [(⟨.setPeer tunnel endpoint, final⟩ : Issue)]).map Issue.command =
          tunnel.script endpoint pinned listing shown := by
      cases hremovals with
      | completed hcommands _ =>
        rw [Tunnel.script, List.map_append, List.map_append, List.map_cons, hcommands, hcourse]
        simp only [List.append_assoc, List.cons_append, List.map_cons, List.map_nil]
    refine ⟨listing, shown, fun output hmem => ?_, fun answer hmem => ?_,
      hwhole ▸ List.prefix_refl _, fun hne => absurd hwhole hne⟩
    · rw [List.mem_append, List.mem_append, List.mem_cons] at hmem
      obtain ((heq | hmem) | hmem) | hmem := hmem
      · exact Except.ok.inj (congrArg Issue.answer heq)
      · exact absurd hmem (hlisted _)
      · exact absurd (hrouting.program_eq _ hmem) (by simp [Command.showPeers, Command.wg])
      · simp [Command.showPeers, Command.setPeer, Command.wg] at hmem
    · exact hunique answer ((mem_iff_of_ip hwg rfl final).mp hmem)

/-- A call that follows the script goes through its commands up to the first that is fatal. -/
theorem scripted (h : Configuring tunnel endpoint pinned issued result after) :
    Scripted tunnel endpoint pinned issued result after := by
  obtain ⟨before, last, hissued, hlast, hresult, hbefore⟩ := h.exists_last
  have hfails (reason : String) : result = .error reason ↔ last.IsFatal reason := by
    rw [hresult, Issue.IsFatal, and_iff_right hlast]
    cases last.answer <;> simp [Except.map]
  refine ⟨?_, ?_, fun reason => ?_, fun hnone => ?_, ?_, ?_⟩
  · obtain ⟨listing, shown, hlisting, hshown, hscript, hrest⟩ := h.course
    refine ⟨listing, shown, hlisting, hshown, hscript, fun hne => ?_⟩
    obtain ⟨reason, herror⟩ := hrest hne
    exact ⟨last, by rw [hissued]; exact List.getLast?_concat, reason, (hfails reason).mp herror⟩
  · rw [hissued, List.dropLast_concat]
    exact hbefore
  · rw [hfails, hissued]
    constructor
    · exact fun hfatal => ⟨last, List.mem_append_right _ (List.mem_singleton_self _), hfatal⟩
    · rintro ⟨issue, hmem, hfatal⟩
      obtain hmem | hmem := List.mem_append.mp hmem
      · exact absurd hfatal (hbefore issue hmem reason)
      · exact List.mem_singleton.mp hmem ▸ hfatal
  · cases h with
    | unlisted => rfl
    | unremoved => rfl
    | passed hremovals hrouting final =>
      obtain ⟨shown, hshown, -⟩ := hrouting.course
      exact absurd ((mem_iff_of_ip (program_removal hremovals) rfl final).mpr hshown) (hnone shown)
  · rintro ⟨answer, hmem⟩ route
    cases h with
    | unlisted reason => exact absurd hmem (not_mem_of_ip (List.forall_mem_singleton.mpr rfl) rfl)
    | unremoved hremovals =>
      exact absurd hmem (not_mem_of_ip (program_listed tunnel (program_removal hremovals) _) rfl)
    | passed hremovals hrouting final =>
      rw [hrouting.get?_eq_some_iff]
      simp only [mem_iff_of_ip (program_removal hremovals)
        (rfl : (Command.replaceHostRoute _ _).program = "ip")]
  · cases h with
    | unlisted => exact fun _ _ => rfl
    | unremoved => exact fun _ _ => rfl
    | passed hremovals hrouting final => exact fun other hother => hrouting.get?_other hother

end Configuring

/-- **The script of a peer.** Where the endpoint is not found, nothing is run. Otherwise the
commands are those of the script, up to the first `wg` that fails, which is when the call fails; the
host route that is known of the interface afterwards is the one that has been set, if it has. -/
theorem Linux.configure_follows_script (settings : LinuxSettings) (run : Runner ρ) (tunnel : Tunnel)
    (host : Linux (Journal ρ)) :
    let outcome := (engine settings run.journaled).perform (.configureInterface tunnel) host
    (∀ error, (endpointSearch settings tunnel).result = .error error →
      outcome.answer = .error ⟨.configureInterface, error.message⟩ ∧ outcome.system = host) ∧
    ∀ endpoint, (endpointSearch settings tunnel).result = .ok endpoint →
      ∃ issued result, outcome.answer = result.mapError (Failure.mk .configureInterface) ∧
        outcome.system.commands.issues = host.commands.issues ++ issued.filter (!·.command.hasNul) ∧
        (∀ issue ∈ issued, issue.command.hasNul = true → issue.answer.isOk = false) ∧
        Scripted tunnel endpoint host.pinned issued result outcome.system.pinned := by
  refine ⟨fun error herror => ?_, fun endpoint hendpoint => ?_⟩
  · obtain ⟨hanswer, hhost⟩ := configure_of_error run.journaled ⟨host, []⟩ herror
    exact ⟨congrArg (Except.mapError (Failure.mk .configureInterface)) hanswer, hhost⟩
  · obtain ⟨issued, hissues, hconfiguring, -⟩ := configure_law run.journaled ⟨host, []⟩ hendpoint
    refine ⟨issued, _, rfl, hissues.of_journaled, fun issue hmem hnul => ?_, hconfiguring.scripted⟩
    cases hok : issue.answer.isOk with
    | false => rfl
    | true => cases hnul.symm.trans (hissues.hasNul_of_isOk hmem hok)

end TunnelChain
