import Mathlib.Data.List.Basic
import TunnelChain.Proofs.Issuing
import TunnelChain.Proofs.Looping

/-!
# Links whose name servers were set

A link whose name servers were set is one to give its own back to. The system remembers one link,
from when the look-ups have been sent through it until a revert is tried: of what is not remembered
nothing is undone.
-/

namespace TunnelChain

variable {ρ : Type}

/-! ## Links that are altered -/

namespace Issue

/-- Whether a command has set the name servers of a link. -/
def Alters (issue : Issue) (link : String) : Prop :=
  ∃ resolvers output, issue = ⟨.setResolvers link resolvers, .ok output⟩

/-- Whether a command has given a link its own name servers back. -/
def Reverts (issue : Issue) (link : String) : Prop :=
  ∃ output, issue = ⟨.revertResolvers link, .ok output⟩

/-- The link that is remembered after a command: the one that the look-ups are sent through, until a
revert is tried. -/
def remember (link : Option String) (issue : Issue) : Option String :=
  match issue.command.program, issue.command.arguments, issue.answer with
  | "resolvectl", ["domain", name, _], .ok _ => some name
  | "resolvectl", ["revert", _], _ => none
  | _, _, _ => link

end Issue

/-- Whether the name servers of a link were set and it has not been given its own back since. -/
def Altered (issues : List Issue) (link : String) : Prop :=
  ∃ issue since, issue :: since <:+ issues ∧ issue.Alters link ∧
    ∀ later ∈ since, ¬ later.Reverts link

/-- The link that is remembered after some commands. -/
def remembered (issues : List Issue) : Option String :=
  issues.foldl Issue.remember none

section Histories

variable {issues later : List Issue} {link : String} {issue : Issue}

theorem altered_concat :
    Altered (issues ++ [issue]) link ↔
      issue.Alters link ∨ (Altered issues link ∧ ¬ issue.Reverts link) := by
  constructor
  · rintro ⟨altering, since, hsuffix, halters, hkept⟩
    obtain hnil | ⟨start, heq, hstart⟩ := List.suffix_concat_iff.mp hsuffix
    · cases hnil
    · cases start with
      | nil =>
        obtain ⟨rfl, -⟩ := List.cons.inj heq
        exact .inl halters
      | cons first since =>
        obtain ⟨rfl, rfl⟩ := List.cons.inj heq
        obtain ⟨hkept, hlast⟩ := List.forall_mem_append.mp hkept
        exact .inr ⟨⟨altering, since, hstart, halters, hkept⟩,
          hlast issue (List.mem_singleton_self _)⟩
  · rintro (halters | ⟨⟨altering, since, hsuffix, halters, hkept⟩, hlast⟩)
    · exact ⟨issue, [], List.suffix_append _ _, halters, List.forall_mem_nil _⟩
    · refine ⟨altering, since ++ [issue], ?_, halters, ?_⟩
      · exact List.suffix_concat_iff.mpr (.inr ⟨altering :: since, rfl, hsuffix⟩)
      · exact List.forall_mem_append.mpr ⟨hkept, List.forall_mem_singleton.mpr hlast⟩

theorem not_alters_revertResolvers {answer : Except String String} {name : String} :
    ¬ (⟨.revertResolvers name, answer⟩ : Issue).Alters link := by
  rintro ⟨resolvers, output, heq⟩
  simp [Command.revertResolvers, Command.setResolvers, Command.resolvectl] at heq

theorem reverts_revertResolvers_iff {answer : Except String String} {name : String} :
    (⟨.revertResolvers name, answer⟩ : Issue).Reverts link ↔ name = link ∧ answer.isOk = true := by
  constructor
  · rintro ⟨output, heq⟩
    simp only [Issue.mk.injEq, Command.revertResolvers, Command.resolvectl, Command.mk.injEq,
      List.cons.injEq, and_true, true_and] at heq
    exact ⟨heq.1, heq.2 ▸ rfl⟩
  · rintro ⟨rfl, hok⟩
    cases answer with
    | error reason => cases hok
    | ok output => exact ⟨output, rfl⟩

theorem remember_claimDomains (name output : String) (before : Option String) :
    Issue.remember before ⟨.claimDomains name, .ok output⟩ = some name := rfl

theorem remember_revertResolvers (name : String) (answer : Except String String)
    (before : Option String) :
    Issue.remember before ⟨.revertResolvers name, answer⟩ = none := by
  cases answer <;> rfl

theorem remember_claimDomains_error (name reason : String) (before : Option String) :
    Issue.remember before ⟨.claimDomains name, .error reason⟩ = before := rfl

theorem remember_setResolvers (name : String) (resolvers : List String)
    (answer : Except String String) (before : Option String) :
    Issue.remember before ⟨.setResolvers name resolvers, answer⟩ = before := by
  cases answer <;> rfl

theorem remember_of_program (h : issue.command.program ≠ "resolvectl") (before : Option String) :
    issue.remember before = before := by
  unfold Issue.remember
  split
  · exact absurd ‹_› h
  · exact absurd ‹_› h
  · rfl

theorem foldl_remember_of_forall (h : ∀ issue ∈ later, ∀ link, issue.remember link = link)
    {link : Option String} :
    later.foldl Issue.remember link = link := by
  induction later with
  | nil => rfl
  | cons issue rest ih =>
    obtain ⟨hfirst, hrest⟩ := List.forall_mem_cons.mp h
    rw [List.foldl_cons, hfirst, ih hrest]

end Histories

/-! ## Calls -/

/-- A link that the look-ups could be sent through can be reverted. -/
theorem hasNul_revertResolvers {name : String} (h : (Command.claimDomains name).hasNul = false) :
    (Command.revertResolvers name).hasNul = false := by
  have hname := List.any_eq_false.mp h name (List.mem_cons_of_mem _ List.mem_cons_self)
  exact List.any_eq_false.mpr
    (List.forall_mem_cons.mpr ⟨by decide, List.forall_mem_singleton.mpr hname⟩)

theorem Configuring.program_ne {tunnel : Tunnel} {endpoint : Endpoint}
    {pinned after : Table String String} {issued : List Issue} {result : Except String Unit}
    (h : Configuring tunnel endpoint pinned issued result after) :
    ∀ issue ∈ issued, issue.command.program ≠ "resolvectl" := by
  have hwg (issue : Issue) (hprogram : issue.command.program = "wg") :
      issue.command.program ≠ "resolvectl" := by
    rw [hprogram]
    decide
  cases h with
  | unlisted reason => exact List.forall_mem_singleton.mpr (hwg _ rfl)
  | unremoved hremovals =>
    exact List.forall_mem_cons.mpr
      ⟨hwg _ rfl, fun issue hissue => hwg issue (program_removal hremovals issue hissue)⟩
  | passed hremovals hrouting answer =>
    rw [List.forall_mem_append, List.forall_mem_append, List.forall_mem_cons]
    refine ⟨⟨⟨hwg _ rfl, fun issue hissue => hwg issue (program_removal hremovals issue hissue)⟩,
      fun issue hissue => ?_⟩, List.forall_mem_singleton.mpr (hwg _ rfl)⟩
    rw [hrouting.program_eq issue hissue]
    decide

namespace Linux

/-- Whether commands that are not about name servers lead from one state of a host to another, and
the link that is remembered stays. -/
def SparesResolvers (run : Runner ρ) (host next : Linux ρ) : Prop :=
  ∃ issued, Issues run host.commands issued next.commands ∧
    (∀ issue ∈ issued, issue.command.program ≠ "resolvectl") ∧ next.link = host.link

namespace SparesResolvers

variable (settings : LinuxSettings) (run : Runner ρ) (work : Work ρ)

theorem submitAll {commands : List Command} (h : ∀ command ∈ commands, command.program = "ip") :
    SparesResolvers run work.host (work.submitAll run commands).2.host := by
  obtain ⟨issued, hmoves, hsubmission⟩ := Work.submitAll_law run work commands
  refine ⟨issued, hmoves.issues, fun issue hissue => ?_, hmoves.link⟩
  rw [h _ (hsubmission.mem issue hissue)]
  decide

theorem configure (tunnel : Tunnel) :
    SparesResolvers run work.host (Linux.configure settings run tunnel work).2.host := by
  cases hsearch : (endpointSearch settings tunnel).result with
  | error error =>
    obtain ⟨-, hhost⟩ := configure_of_error run work hsearch
    rw [hhost]
    exact ⟨[], .nil _, List.forall_mem_nil _, rfl⟩
  | ok endpoint =>
    obtain ⟨issued, hissues, hconfiguring, hlink⟩ := configure_law run work hsearch
    exact ⟨issued, hissues, hconfiguring.program_ne, hlink⟩

theorem deleteInterface (name : String) :
    SparesResolvers run work.host (Linux.deleteInterface run name work).2.host := by
  have hip (command : Command) (h : command.program = "ip") : command.program ≠ "resolvectl" := by
    rw [h]
    decide
  have hdeleted := Work.moves_submit run work (.deleteLink name)
  unfold Linux.deleteInterface
  cases hdelete : work.submit run (.deleteLink name) with
  | mk answer deleted =>
    rw [hdelete] at hdeleted
    cases answer with
    | error reason =>
      exact ⟨_, hdeleted.issues, List.forall_mem_singleton.mpr (hip _ rfl), hdeleted.link⟩
    | ok output =>
      obtain ⟨releases, hreleased, hreleases, -, hlink⟩ := Work.unpin_law run name deleted
      refine ⟨_, hdeleted.issues.append hreleased,
        List.forall_mem_cons.mpr ⟨hip _ rfl, fun issue hissue => ?_⟩, hlink.trans hdeleted.link⟩
      obtain ⟨route, -, hroute⟩ := List.mem_map.mp (hreleases ▸ List.mem_map_of_mem hissue)
      exact hip _ (congrArg Command.program hroute.symm)

theorem carryOut {call : Call} (hupdate : call.step ≠ .updateResolvers)
    (hrestore : call.step ≠ .restoreResolvers) :
    SparesResolvers run work.host (Linux.carryOut settings run work call).2.host := by
  cases call with
  | addInterface tunnel => exact submitAll run work (List.forall_mem_singleton.mpr rfl)
  | configureInterface tunnel => exact configure settings run work tunnel
  | deleteInterface name => exact deleteInterface run work name
  | addRoutePrefix name range =>
    refine submitAll run work fun command hcommand => ?_
    obtain ⟨route, -, rfl⟩ := List.mem_map.mp hcommand
    rfl
  | updateResolvers name resolvers => exact absurd rfl hupdate
  | restoreResolvers => exact absurd rfl hrestore
  | addInterfaceIPs tunnel =>
    refine submitAll run work (List.forall_mem_cons.mpr ⟨rfl, ?_⟩)
    split
    · exact List.forall_mem_singleton.mpr rfl
    · exact List.forall_mem_nil _
  | setMTUAndUp tunnel => exact submitAll run work (List.forall_mem_singleton.mpr rfl)

end SparesResolvers

/-- Whether the link that a system remembers is the one that its commands left to remember, and it
can be told to revert it. -/
structure Remembers (host : Linux (Journal ρ)) : Prop where
  link : host.link = remembered host.commands.issues
  given : ∀ link ∈ host.link, (Command.revertResolvers link).hasNul = false

variable {host : Linux (Journal ρ)}

/-- The link that is remembered is reverted, and forgotten whatever comes of it. -/
theorem restore_of_some (settings : LinuxSettings) (run : Runner ρ) {link : String}
    (h : host.link = some link) (hgiven : (Command.revertResolvers link).hasNul = false) :
    let restored := (engine settings run.journaled).perform .restoreResolvers host
    ∃ answer, restored.system.commands.issues =
      host.commands.issues ++ [⟨.revertResolvers link, answer⟩] ∧
      (restored.answer = .ok () ↔ answer.isOk = true) ∧ restored.system.link = none := by
  intro restored
  have hwork : (⟨host, []⟩ : Work (Journal ρ)).host.link = some link := h
  obtain ⟨issued, hissues, hsubmission, hlink⟩ := restoreResolvers_of_some run.journaled hwork
  have hok : restored.answer = .ok () ↔ (restoreResolvers run.journaled ⟨host, []⟩).1 = .ok () :=
    answer_perform_eq_ok_iff _ _ _ _
  have hjournal := hissues.of_journaled
  obtain ⟨reason, rfl, hresult⟩ | ⟨output, rest, rfl, hrest⟩ := hsubmission.cons_inv
  · rw [List.filter_cons_of_pos (by simp [hgiven])] at hjournal
    exact ⟨.error reason, hjournal, hok.trans (hresult ▸ ⟨nofun, nofun⟩), hlink⟩
  · obtain ⟨rfl, hresult⟩ := hrest.nil_inv
    rw [List.filter_cons_of_pos (by simp [hgiven])] at hjournal
    exact ⟨.ok output, hjournal, hok.trans (hresult ▸ iff_of_true rfl rfl), hlink⟩

theorem restore_of_none (settings : LinuxSettings) (run : Runner ρ) {host : Linux ρ}
    (h : host.link = none) :
    ((engine settings run).perform .restoreResolvers host).answer = .ok () ∧
      ((engine settings run).perform .restoreResolvers host).system = host := by
  have hrestored : carryOut settings run ⟨host, []⟩ .restoreResolvers = (.ok (), ⟨host, []⟩) :=
    restoreResolvers_of_none run h
  exact ⟨(answer_perform_eq_ok_iff settings run _ host).mpr (congrArg Prod.fst hrestored),
    congrArg (fun result => result.2.host) hrestored⟩

namespace Remembers

/-- Nothing is forgotten by commands of which none sends the look-ups elsewhere or reverts a
link. -/
theorem of_issues (h : host.Remembers) {run : Runner ρ} {next : Linux (Journal ρ)}
    {issued : List Issue} (hissues : Issues run.journaled host.commands issued next.commands)
    (hlink : next.link = host.link)
    (hissued : ∀ issue ∈ issued, ∀ link, issue.remember link = link) : next.Remembers := by
  refine ⟨?_, hlink ▸ h.given⟩
  rw [hissues.of_journaled, remembered, List.foldl_append, hlink, h.link, remembered]
  exact (foldl_remember_of_forall fun issue hissue =>
    hissued issue (List.mem_filter.mp hissue).1).symm

theorem perform_update (h : host.Remembers) (settings : LinuxSettings) (run : Runner ρ)
    (name : String) (resolvers : List String) :
    ((engine settings run.journaled).perform (.updateResolvers name resolvers)
      host).system.Remembers := by
  obtain ⟨issued, hissues, hsubmission, hlink⟩ :=
    updateResolvers_law run.journaled name resolvers (⟨host, []⟩ : Work (Journal ρ))
  obtain ⟨reason, rfl, hresult⟩ | ⟨output, rest, rfl, hrest⟩ := hsubmission.cons_inv
  · rw [hresult] at hlink
    exact h.of_issues hissues hlink
      (List.forall_mem_singleton.mpr (remember_setResolvers name resolvers _))
  obtain ⟨reason, rfl, hresult⟩ | ⟨claimed, last, rfl, hlast⟩ := hrest.cons_inv
  · rw [hresult] at hlink
    exact h.of_issues hissues hlink
      (List.forall_mem_cons.mpr ⟨remember_setResolvers name resolvers _,
      List.forall_mem_singleton.mpr (remember_claimDomains_error name reason)⟩)
  obtain ⟨rfl, hresult⟩ := hlast.nil_inv
  rw [hresult] at hlink
  have hset := hissues.hasNul_of_isOk List.mem_cons_self rfl
  have hclaim := hissues.hasNul_of_isOk (List.mem_cons_of_mem _ List.mem_cons_self) rfl
  have hjournal := hissues.of_journaled
  rw [List.filter_cons_of_pos (by simpa using hset),
    List.filter_cons_of_pos (by simpa using hclaim)] at hjournal
  refine ⟨hlink.trans ?_, fun link hremembered => ?_⟩
  -- The link is the one whose domains were claimed last: no revert has been tried since.
  · change some name =
      remembered (updateResolvers run.journaled name resolvers _).2.host.commands.issues
    rw [hjournal, remembered, List.foldl_append, List.foldl_cons, remember_setResolvers,
      List.foldl_cons, remember_claimDomains]
    rfl
  · obtain rfl : name = link := Option.some.inj (hlink.symm.trans hremembered)
    exact hasNul_revertResolvers hclaim

theorem perform (h : host.Remembers) (settings : LinuxSettings) (run : Runner ρ) (call : Call) :
    ((engine settings run.journaled).perform call host).system.Remembers := by
  have hother (hupdate : call.step ≠ .updateResolvers) (hrestore : call.step ≠ .restoreResolvers) :
      ((engine settings run.journaled).perform call host).system.Remembers := by
    obtain ⟨issued, hissues, hprogram, hlink⟩ :=
      SparesResolvers.carryOut settings run.journaled (⟨host, []⟩ : Work (Journal ρ))
        hupdate hrestore
    exact h.of_issues hissues hlink fun issue hissue => remember_of_program (hprogram issue hissue)
  cases call with
  | updateResolvers name resolvers => exact h.perform_update settings run name resolvers
  | restoreResolvers =>
    cases hlink : host.link with
    | none =>
      rw [(restore_of_none settings run.journaled hlink).2]
      exact h
    | some link =>
      obtain ⟨answer, hissues, -, hforgotten⟩ :=
        restore_of_some settings run hlink (h.given link hlink)
      refine ⟨?_, fun link hremembered => ?_⟩
      · rw [hissues, remembered, List.foldl_append, List.foldl_cons, remember_revertResolvers]
        exact hforgotten
      · cases hforgotten.symm.trans hremembered
  | _ => exact hother nofun nofun

end Remembers

/-- What a system has come to by some calls, from a start without tunnels. -/
def called (settings : LinuxSettings) (run : Runner ρ) (commands : ρ) (calls : List Call) :
    Linux (Journal ρ) :=
  calls.foldl (fun host call => ((engine settings run.journaled).perform call host).system)
    (fresh ⟨commands, []⟩)

theorem remembers_called (settings : LinuxSettings) (run : Runner ρ) (commands : ρ)
    (calls : List Call) :
    (called settings run commands calls).Remembers := by
  have hall (host : Linux (Journal ρ)) (h : host.Remembers) :
      (calls.foldl (fun host call => ((engine settings run.journaled).perform call host).system)
        host).Remembers := by
    induction calls generalizing host with
    | nil => exact h
    | cons call rest ih => exact ih _ (h.perform settings run call)
  exact hall _ ⟨rfl, nofun⟩

/-- **Restoring name servers.** After any calls, restoring takes back what was done to the link that
is remembered if its revert succeeds, and to no other. So where it is granted, no link is left
altered exactly if no link was but the one that is remembered. A second time it does nothing and is
granted, whatever came of the first. -/
theorem restored_iff_remembered (settings : LinuxSettings) (run : Runner ρ) (commands : ρ)
    (calls : List Call) :
    let before := called settings run commands calls
    let restored := (engine settings run.journaled).perform .restoreResolvers before
    let again := (engine settings run.journaled).perform .restoreResolvers restored.system
    (∀ link, Altered restored.system.commands.issues link ↔ Altered before.commands.issues link ∧
      ¬ (restored.answer = .ok () ∧ remembered before.commands.issues = some link)) ∧
    (restored.answer = .ok () →
      ((∀ link, ¬ Altered restored.system.commands.issues link) ↔
        ∀ link, Altered before.commands.issues link →
          remembered before.commands.issues = some link)) ∧
    again.answer = .ok () ∧ again.system = restored.system := by
  intro before restored again
  have hremembers : before.Remembers := remembers_called settings run commands calls
  have hlaw :
      (∀ link, Altered restored.system.commands.issues link ↔ Altered before.commands.issues link ∧
      ¬ (restored.answer = .ok () ∧ remembered before.commands.issues = some link)) ∧
      restored.system.link = none := by
    rw [← hremembers.link]
    cases hlink : before.link with
    | none =>
      have hkept : restored.system = before := (restore_of_none settings run.journaled hlink).2
      rw [hkept]
      exact ⟨fun link => by simp, hlink⟩
    | some name =>
      obtain ⟨answer, hissues, hok, hforgotten⟩ :=
        restore_of_some settings run hlink (hremembers.given name hlink)
      refine ⟨fun link => ?_, hforgotten⟩
      rw [hissues, altered_concat, reverts_revertResolvers_iff, hok, Option.some_inj,
        and_comm (a := name = link), or_iff_right not_alters_revertResolvers]
  obtain ⟨haltered, hforgotten⟩ := hlaw
  obtain ⟨hagain, hsame⟩ := restore_of_none settings run.journaled hforgotten
  refine ⟨haltered, fun hok => ?_, hagain, hsame⟩
  simp only [haltered, hok, true_and, not_and, not_not]

/-- A system where the first revert is refused. -/
def refusingOnce : Runner Bool := fun command refused =>
  if command = .revertResolvers "hl" ∧ refused = false then (.ran (.exit 1) [], true)
  else (.ran (.exit 0) [], refused)

/-- The name servers of the exit hop are set; to restore them fails. -/
def failedRestore : Linux (Journal Bool) :=
  called plainSettings refusingOnce false [.updateResolvers "hl" ["10.0.0.1"], .restoreResolvers]

/-- To restore them is granted then, but the link has not been given its own back. -/
theorem not_restored_refusedRevert :
    let restored :=
      (engine plainSettings refusingOnce.journaled).perform .restoreResolvers failedRestore
    restored.answer = .ok () ∧
      restored.system.commands.issues =
        [⟨.setResolvers "hl" ["10.0.0.1"], .ok ""⟩, ⟨.claimDomains "hl", .ok ""⟩,
          ⟨.revertResolvers "hl", .error "resolvectl exited unsuccessfully: exit status: 1"⟩] ∧
      Altered restored.system.commands.issues "hl" := by
  intro restored
  have hissues : restored.system.commands.issues = [⟨.setResolvers "hl" ["10.0.0.1"], .ok ""⟩,
      ⟨.claimDomains "hl", .ok ""⟩,
      ⟨.revertResolvers "hl", .error "resolvectl exited unsuccessfully: exit status: 1"⟩] := rfl
  rw [hissues]
  refine ⟨rfl, rfl, _, _, List.suffix_rfl, ⟨_, _, rfl⟩, ?_⟩
  rintro later hlater ⟨output, rfl⟩
  simp [Command.claimDomains, Command.revertResolvers, Command.resolvectl] at hlater

end Linux

end TunnelChain
