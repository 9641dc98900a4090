import TunnelChain.Proofs.Meaning
import TunnelChain.Proofs.Reporting
import TunnelChain.Proofs.Succeeding
import TunnelChain.Proofs.Uptake

/-!
# What is left up when hops are brought down

A daemon answers nothing to a deactivation that fails, as it answers nothing to one of a hop that is
not up. So a command that brings hops down succeeds as soon as its version query is answered. By
then each of its deactivations has been carried out, and the hops that are still up are those for
which this has failed.
-/

namespace TunnelChain

variable {σ : Type}

/-! ## One deactivation -/

theorem Teardown.mem_hops_iff {hop : HopIndex} {announce : Bool} {chain next : Chain}
    {result : Except OperationError Unit} {xs : List Exchange} {said : List HopEvent}
    (h : Teardown hop announce chain result xs next said) :
    hop ∈ next.hops ↔
      hop ∈ chain.hops ∧
        (result = .error .coreStopped ∨ ∃ failure, result = .error (.backend failure)) := by
  cases h with
  | inactive hdown => simp [Chain.mem_hops, hdown]
  | unrestored hup _ => simp [Chain.mem_hops, hup]
  | undeleted hup => simp [Chain.mem_hops, hup]
  | vanished _ => simp [Chain.hops_erase]
  | removed _ => simp [Chain.hops_erase]

theorem Teardown.mem_hops_other_iff {hop : HopIndex} {announce : Bool} {chain next : Chain}
    {result : Except OperationError Unit} {xs : List Exchange} {said : List HopEvent}
    (h : Teardown hop announce chain result xs next said) {other : HopIndex}
    (hother : other ≠ hop) :
    other ∈ next.hops ↔ other ∈ chain.hops := by
  cases hgone : isGone result with
  | true => rw [(h.of_isGone hgone).1, Chain.hops_erase, Finset.mem_erase, and_iff_right hother]
  | false => rw [(h.of_not_isGone hgone).1]

namespace Core

variable {engine : Engine σ} {now : String} {core : Core σ} {hop other : HopIndex}

/-- Whether a hop is up, and a core that is to bring it down fails: it has stopped, or its engine
fails. -/
def FailsToLower (engine : Engine σ) (now : String) (hop : HopIndex) (core : Core σ) : Prop :=
  hop ∈ core.controller.chain.hops ∧
    ((core.execute engine now (.deactivate hop)).1 = .error .coreStopped ∨
      ∃ failure, (core.execute engine now (.deactivate hop)).1 = .error (.backend failure))

/-- A deactivation leaves its hop up exactly if it fails. -/
theorem mem_hops_lowered_iff :
    hop ∈ (core.execute engine now (.deactivate hop)).2.controller.chain.hops ↔
      core.FailsToLower engine now hop := by
  unfold FailsToLower execute
  by_cases hrunning : core.isRunning = true
  · obtain ⟨xs, next, said, hteardown, hturns⟩ :=
      Controller.deactivate_law engine hop true core.controller
    rw [if_pos hrunning, carryOut]
    dsimp only
    rw [hturns.chain, hteardown.mem_hops_iff]
    cases (core.controller.deactivate engine hop true).1 <;> simp [Except.map]
  · rw [if_neg hrunning]
    simp

/-- A deactivation concerns no other hop. -/
theorem mem_hops_lowered_other_iff (hother : other ≠ hop) :
    other ∈ (core.execute engine now (.deactivate hop)).2.controller.chain.hops ↔
      other ∈ core.controller.chain.hops := by
  unfold execute
  by_cases hrunning : core.isRunning = true
  · obtain ⟨xs, next, said, hteardown, hturns⟩ :=
      Controller.deactivate_law engine hop true core.controller
    rw [if_pos hrunning, carryOut]
    dsimp only
    rw [hturns.chain, hteardown.mem_hops_other_iff hother]
  · rw [if_neg hrunning]

end Core

namespace Service

variable {engine : Engine σ} {service : Service σ} {hop other : HopIndex}

/-- What a service makes of a deactivation is what its core does. -/
theorem hops_react_deactivate (engine : Engine σ) (now : String) (hop : HopIndex)
    (service : Service σ) :
    (react engine now (Message.client (.deactivate (some hop))).parcel service).state.hops =
      (service.core.execute engine now (.deactivate hop)).2.controller.chain.hops := by
  have halike := (alike_handle engine now (.deactivate (some hop)) service).service
  have hchain := congrArg (fun service : Service σ => service.core.controller.chain.hops) halike
  refine hchain.trans ?_
  rw [meaning, Core.execute]
  by_cases hrunning : service.core.isRunning = true
  · rw [if_pos hrunning, if_pos hrunning]
    rfl
  · rw [if_neg hrunning, if_neg hrunning]
    rfl

theorem hops_react_status (engine : Engine σ) (now : String) (service : Service σ) :
    (react engine now (Message.client .status).parcel service).state.hops = service.hops := by
  have hactivate : (Message.client .status).parcel.kind ≠ "activate" := by decide
  have hdeactivate : (Message.client .status).parcel.kind ≠ "deactivate" := by decide
  exact (handle_stays engine now hactivate hdeactivate service).1.hops

/-- A deactivation brings no hop up, and none down but its own. -/
theorem hops_react_lowering (engine : Engine σ) (now : String) {message : ClientMessage}
    (h : message = .status ∨ ∃ hop, message = .deactivate (some hop)) (service : Service σ) :
    (react engine now (Message.client message).parcel service).state.hops ⊆ service.hops ∧
      ∀ other ∈ service.hops, message ≠ .deactivate (some other) →
        other ∈ (react engine now (Message.client message).parcel service).state.hops := by
  obtain rfl | ⟨hop, rfl⟩ := h
  · rw [hops_react_status]
    exact ⟨subset_rfl, fun other hother _ => hother⟩
  · rw [hops_react_deactivate]
    refine ⟨fun other hother => ?_, fun other hother hdistinct => ?_⟩
    · by_cases hsame : other = hop
      · subst hsame
        exact (Core.mem_hops_lowered_iff.mp hother).1
      · exact (Core.mem_hops_lowered_other_iff hsame).mp hother
    · refine (Core.mem_hops_lowered_other_iff fun hsame => ?_).mpr hother
      exact hdistinct (hsame ▸ rfl)

theorem hops_poll_subset (hevents : service.core.controller.events = []) (engine : Engine σ) :
    (service.poll engine).2.hops ⊆ service.hops := by
  have hpoll : Upkeep engine (poll engine) := .poll
  obtain ⟨⟨-, haccounts, -⟩, hwanes⟩ := hpoll.reckons hevents
  intro hop hhop
  have hreckoned := (haccounts.missed hop hhop).resolve_right List.not_mem_nil
  rw [List.append_nil] at hreckoned
  exact ((hwanes.mem_foldl_reckon _ _).mp hreckoned).1

end Service

/-! ## What is on its way -/

theorem Backlog.mem_pushAll {backlog : Backlog} {events : List DaemonMessage}
    {message : DaemonMessage} (h : message ∈ (backlog.pushAll events).events) :
    message ∈ backlog.events ∨ message ∈ events := by
  induction events generalizing backlog with
  | nil => exact .inl h
  | cons event rest ih =>
    have hsplit : message ∈ (backlog.push event).events ∨ message ∈ rest := ih h
    obtain hpushed | hrest := hsplit
    · have hmem : message ∈ backlog.events ∨ message ∈ [event] := by
        unfold push at hpushed
        split at hpushed
        · exact List.mem_append.mp hpushed
        · exact (List.mem_append.mp hpushed).imp_left List.mem_of_mem_drop
      exact hmem.imp_right fun hevent => List.mem_cons.mpr (.inl (List.mem_singleton.mp hevent))
    · exact .inr (List.mem_cons_of_mem _ hrest)

/-- Whether or not events are missed, nothing is on its way that was not raised or written. -/
theorem Connection.mem_upcoming_notify {connection : Connection} {events : List DaemonMessage}
    {message : DaemonMessage} (h : message ∈ (connection.notify events).upcoming) :
    message ∈ connection.upcoming ∨ message ∈ events := by
  unfold upcoming at h ⊢
  rw [List.mem_append] at h ⊢
  obtain hwritten | hraised := h
  · exact .inl (.inl hwritten)
  · cases hbacklog : connection.backlog with
    | none =>
      rw [notify, hbacklog] at hraised
      cases hraised
    | some backlog =>
      rw [notify, hbacklog] at hraised
      exact (Backlog.mem_pushAll hraised).imp_left .inr

theorem HopEvent.version_not_mem_map {said : List HopEvent} (number : UInt32) :
    .version number ∉ said.map HopEvent.toMessage := by
  intro hmem
  obtain ⟨event, -, heq⟩ := List.mem_map.mp hmem
  cases event <;> cases heq

/-- Only a version query is answered with a version. -/
theorem Service.kind_of_version {engine : Engine σ} {now : String} {parcel : Parcel}
    {service : Service σ} {number : UInt32}
    (h : .version number ∈ (react engine now parcel service).replies) :
    parcel.kind = "version" := by
  change .version number ∈ (service.handle engine now parcel).1 at h
  unfold handle at h
  split at h
  · unfold activate at h
    dsimp only at h
    split at h
    · cases List.mem_singleton.mp h
    · split at h
      · cases h
      · cases List.mem_singleton.mp h
  · cases h
  · cases List.mem_singleton.mp h
  · cases List.mem_singleton.mp h
  · cases h
  · assumption
  · cases h

namespace Visit

variable {engine : Engine σ} {visit next : Visit σ} {act : Act σ} {acts : List (Act σ)}
  {count : Nat} {service : Service σ}

/-- Whatever happens, the dialogue of a command that is to bring hops down stays one. It sends its
messages when it begins, and nothing else. -/
theorem Moves.lowers (h : Moves engine visit act next) (hlowers : visit.dialogue.Lowers count) :
    next.dialogue.Lowers count ∧
      (visit.sends act = [] ∧ (visit.dialogue.stage ≠ .opening → next.dialogue.stage ≠ .opening) ∨
        visit.dialogue.stage = .opening ∧ visit.sends act = deactivations count ++ [.version] ∧
          next.dialogue.stage ≠ .opening) := by
  cases h with
  | hear message rest hwritten =>
    obtain ⟨hnext, hsends, -⟩ := hlowers.takes message
    have hsent : visit.sends (.hear : Act σ) = (visit.dialogue.receive message.encode).1 := by
      rw [sends, hwritten]
    rw [hsent]
    exact ⟨hnext, hsends⟩
  | expire => exact ⟨hlowers.timeOut.1, .inl ⟨rfl, fun _ => hlowers.timeOut.2.1⟩⟩
  | lose => exact ⟨hlowers.lose.1, .inl ⟨rfl, fun _ => hlowers.lose.2.1⟩⟩
  | idle _ _ hsends => exact ⟨hlowers, .inl ⟨hsends, id⟩⟩
  | execute | poll | strike | read | pass | reply => exact ⟨hlowers, .inl ⟨rfl, id⟩⟩

theorem lowers_start (count : Nat) (service : Service σ) :
    (start (.down count) service).dialogue.Lowers count where
  errand := rfl
  inbox := rfl
  waits := ⟨nofun, nofun⟩
  opening _ := ⟨rfl, rfl, rfl, rfl, rfl, rfl⟩

theorem lowers_play (hsteady : visit.Steady) (h : visit.dialogue.Lowers count) (engine : Engine σ)
    (acts : List (Act σ)) : (visit.play engine acts).dialogue.Lowers count := by
  induction acts generalizing visit with
  | nil => exact h
  | cons act rest ih => exact ih (hsteady.act engine act) ((hsteady.moves engine act).lowers h).1

/-- A command that is to bring hops down sends nothing after its first request, or the deactivations
and a version query. -/
theorem sentOver_down (hsteady : visit.Steady) (h : visit.dialogue.Lowers count) (engine : Engine σ)
    (acts : List (Act σ)) :
    visit.sentOver engine acts = [] ∨
      visit.sentOver engine acts = deactivations count ++ [.version] ∧
      (visit.play engine acts).dialogue.stage ≠ .opening := by
  induction acts using List.reverseRecOn with
  | nil => exact .inl rfl
  | append_singleton acts last ih =>
    have hlowers := lowers_play hsteady h engine acts
    obtain ⟨-, hsends⟩ := ((hsteady.play engine acts).moves engine last).lowers hlowers
    rw [sentOver_append_singleton, play_append_singleton]
    obtain ⟨hnothing, hstill⟩ | ⟨hopening, hall, hbegun⟩ := hsends
    · rw [hnothing, List.append_nil]
      exact ih.imp_right fun ⟨hsent, hbegun⟩ => ⟨hsent, hstill hbegun⟩
    · have hnone := ih.resolve_right fun ⟨_, hbegun⟩ => hbegun hopening
      rw [hnone, hall]
      exact .inr ⟨rfl, hbegun⟩

theorem kind_of_mem_deactivations {request : ClientMessage}
    (h : request ∈ .status :: deactivations count) :
    request.kind ≠ "version" := by
  obtain rfl | hdeactivation := List.mem_cons.mp h
  · decide
  · obtain ⟨hop, -, rfl⟩ := mem_deactivations.mp hdeactivation
    simp [ClientMessage.kind]

/-- When the version query of a command that is to bring hops down is to be taken up, so have been
the deactivations. -/
theorem takenUp_down (hevents : service.core.controller.events = [])
    (h : ((start (.down count) service).play engine acts).isInquiring = true) :
    (start (.down count) service).takenUp engine acts =
      (.status :: deactivations count).map parcelOf := by
  have hsteady := steady_start (.down count) hevents
  refine takenUp_of_isInquiring hsteady h (fun request => kind_of_mem_deactivations) ?_
  have hfirst : (start (.down count) service).pending = [parcelOf .status] := rfl
  obtain hnothing | ⟨hsent, -⟩ := sentOver_down hsteady (lowers_start count service) engine acts
  · -- Only the request for the report has been sent, which is no version query.
    obtain ⟨parcel, hstage, hkind⟩ := exists_of_isInquiring h
    have htaken := takenUp_append_pending hsteady engine acts
    rw [hnothing, hfirst, pending, hstage] at htaken
    have hmem : parcel ∈ [parcelOf .status] ++ ([] : List ClientMessage).map parcelOf := by
      rw [← htaken]
      exact List.mem_append_right _ List.mem_cons_self
    obtain rfl := List.mem_singleton.mp hmem
    exact absurd hkind (by decide)
  · rw [hsent, hfirst, List.map_append, List.map_cons]
    rfl

/-- Whether nothing that the command has heard, or that is on its way to it, is an answer to a
version query. -/
structure Unversed (visit : Visit σ) : Prop where
  upcoming : ∀ number, .version number ∉ visit.connection.upcoming
  replies : ∀ replies, visit.stage = .answering replies → ∀ number, .version number ∉ replies
  unfinished : visit.dialogue.stage ≠ .finished (.ok ())

theorem Unversed.notify (h : visit.Unversed) (said : List HopEvent) (number : UInt32) :
    .version number ∉ (visit.connection.notify (said.map HopEvent.toMessage)).upcoming := by
  intro hmem
  obtain hearlier | hraised := Connection.mem_upcoming_notify hmem
  · exact h.upcoming number hearlier
  · exact HopEvent.version_not_mem_map number hraised

theorem Unversed.moves (h : visit.Unversed) (hmoves : Moves engine visit act next)
    (hsteady : visit.Steady) (hlowers : visit.dialogue.Lowers count)
    (hquiet : visit.isInquiring = true → ∀ now, act ≠ .execute now) :
    next.Unversed := by
  cases hmoves with
  | idle _ _ _ => exact h
  | execute now parcel hstage =>
    have hkind : parcel.kind ≠ "version" := by
      intro hversion
      refine hquiet ?_ now rfl
      rw [isInquiring, hstage]
      exact decide_eq_true hversion
    obtain ⟨said, hsaid⟩ := Service.exists_said engine now parcel visit.service
    refine ⟨?_, ?_, h.unfinished⟩
    · dsimp only [Desk.takeUp, Desk.carryOut]
      rw [hsaid]
      exact h.notify said
    · rintro replies hreplies number hmem
      cases hreplies
      exact hkind (Service.kind_of_version hmem)
  | poll => exact ⟨h.notify _, h.replies, h.unfinished⟩
  | strike change => exact ⟨h.upcoming, h.replies, h.unfinished⟩
  | read request rest _ _ => exact ⟨h.upcoming, nofun, h.unfinished⟩
  | pass =>
    refine ⟨fun number => ?_, ?_, h.unfinished⟩
    · rw [Visit.pass, Desk.upcoming_pass]
      exact h.upcoming number
    · rw [Visit.pass, Desk.stage_pass]
      exact h.replies
  | reply replies hstage =>
    obtain ⟨hupcoming, -, -⟩ := Connection.reply_law hsteady.subscribed replies
    refine ⟨fun number hmem => ?_, nofun, h.unfinished⟩
    rw [hupcoming, List.mem_append] at hmem
    exact hmem.elim (h.upcoming number) (h.replies replies hstage number)
  | hear message rest hwritten =>
    have hupcoming := upcoming_eq_cons hwritten
    refine ⟨fun number hmem => h.upcoming number ?_, h.replies, fun hsuccess => ?_⟩
    · rw [hupcoming]
      exact List.mem_cons_of_mem _ hmem
    · obtain ⟨number, rfl⟩ := ((hlowers.takes message).succeeds hsuccess).resolve_left h.unfinished
      refine h.upcoming number ?_
      rw [hupcoming]
      exact List.mem_cons_self
  | expire =>
    exact ⟨h.upcoming, h.replies, fun hsuccess => h.unfinished (hlowers.timeOut.2.2 hsuccess)⟩
  | lose => exact ⟨h.upcoming, h.replies, fun hsuccess => h.unfinished (hlowers.lose.2.2 hsuccess)⟩

theorem unversed_start (count : Nat) (service : Service σ) :
    (start (.down count) service).Unversed :=
  ⟨fun _ hmem => (List.not_mem_nil hmem).elim, nofun, nofun⟩

/-- A command that has succeeded in bringing hops down has had its version query taken up. -/
theorem exists_inquiry (hevents : service.core.controller.events = [])
    (h : ((start (.down count) service).play engine acts).dialogue.stage = .finished (.ok ())) :
    ∃ before now after, acts = before ++ .execute now :: after ∧
      ((start (.down count) service).play engine before).isInquiring = true := by
  have hrun (acts : List (Act σ)) : (∃ before now after, acts = before ++ .execute now :: after ∧
        ((start (.down count) service).play engine before).isInquiring = true) ∨
      ((start (.down count) service).play engine acts).Unversed := by
    induction acts using List.reverseRecOn with
    | nil => exact .inr (unversed_start count service)
    | append_singleton acts last ih =>
      obtain ⟨before, now, after, rfl, hinquiring⟩ | hunversed := ih
      · refine .inl ⟨before, now, after ++ [last], ?_, hinquiring⟩
        rw [List.append_assoc, List.cons_append]
      · by_cases hnow : ((start (.down count) service).play engine acts).isInquiring = true ∧
            ∃ now, last = .execute now
        · obtain ⟨hinquiring, now, rfl⟩ := hnow
          exact .inl ⟨acts, now, [], rfl, hinquiring⟩
        · have hsteady := steady_start (.down count) hevents
          have hlowers := lowers_play hsteady (lowers_start count service) engine acts
          have hlater := hsteady.play engine acts
          rw [play_append_singleton]
          refine .inr
            (hunversed.moves (hlater.moves engine last) hlater hlowers fun hinquiring now hlast =>
              ?_)
          exact hnow ⟨hinquiring, now, hlast⟩
  exact (hrun acts).resolve_right fun hunversed => hunversed.unfinished h

/-- Whether this asks for the state, or for a hop to be brought down. -/
def IsLowering (parcel : Parcel) : Prop :=
  ∃ message, parcel = parcelOf message ∧
    (message = .status ∨ ∃ hop, message = .deactivate (some hop))

/-- A step in which the core takes up nothing else brings no hop up. It brings no hop down that it
is not to bring down, unless the core looks after its engine. -/
theorem Moves.hops (h : Moves engine visit act next) (hsteady : visit.Steady)
    (hlowering : ∀ parcel ∈ visit.takes act, IsLowering parcel) :
    next.hops ⊆ visit.hops ∧
      ∀ hop ∈ visit.hops, act ≠ .poll → parcelOf (.deactivate (some hop)) ∉ visit.takes act →
        hop ∈ next.hops := by
  cases h with
  | execute now parcel hstage =>
    have htakes : visit.takes (.execute now) = [parcel] := by
      rw [takes, hstage]
      rfl
    rw [htakes] at hlowering ⊢
    obtain ⟨message, rfl, hmessage⟩ := hlowering parcel (List.mem_singleton_self _)
    obtain ⟨hsubset, hkept⟩ := Service.hops_react_lowering engine now hmessage visit.service
    refine ⟨hsubset, fun hop hhop _ hother => hkept hop hhop ?_⟩
    rintro rfl
    exact hother (List.mem_singleton_self _)
  | poll =>
    exact ⟨Service.hops_poll_subset hsteady.taken engine, fun _ _ hpoll _ => absurd rfl hpoll⟩
  | pass =>
    rw [hops_pass]
    exact ⟨subset_rfl, fun _ hhop _ _ => hhop⟩
  | idle | strike | read | reply | hear | expire | lose =>
    exact ⟨subset_rfl, fun _ hhop _ _ => hhop⟩

theorem hops_play (hsteady : visit.Steady) (engine : Engine σ)
    (h : ∀ parcel ∈ visit.takenUp engine acts, IsLowering parcel) :
    (visit.play engine acts).hops ⊆ visit.hops ∧
      ∀ hop ∈ visit.hops, .poll ∉ acts →
        parcelOf (.deactivate (some hop)) ∉ visit.takenUp engine acts →
        hop ∈ (visit.play engine acts).hops := by
  induction acts generalizing visit with
  | nil => exact ⟨subset_rfl, fun hop hhop _ _ => hhop⟩
  | cons act rest ih =>
    obtain ⟨hsubset, hkept⟩ :=
      (hsteady.moves engine act).hops hsteady fun parcel hmem =>
        h parcel (List.mem_append_left _ hmem)
    obtain ⟨hsubset', hkept'⟩ := ih (hsteady.act engine act) fun parcel hmem =>
      h parcel (List.mem_append_right _ hmem)
    refine ⟨hsubset'.trans hsubset, fun hop hhop hpoll hother => ?_⟩
    rw [List.mem_cons, not_or] at hpoll
    rw [takenUp, List.mem_append, not_or] at hother
    exact hkept' hop (hkept hop hhop (Ne.symm hpoll.1) hother.1) hpoll.2 hother.2

/-- A hop whose deactivation is carried out now, and not again, is left up exactly if this fails,
unless the core looks after its engine later. -/
theorem hops_after_deactivation (hsteady : visit.Steady) (engine : Engine σ) {hop : HopIndex}
    (hstage : visit.stage = .waiting (parcelOf (.deactivate (some hop)))) {now : String}
    {later : List (Act σ)}
    (hlowering : ∀ parcel ∈ (visit.execute engine now).takenUp engine later, IsLowering parcel)
    (hlast : parcelOf (.deactivate (some hop)) ∉ (visit.execute engine now).takenUp engine later) :
    (hop ∈ ((visit.execute engine now).play engine later).hops →
        visit.service.core.FailsToLower engine now hop) ∧
      (visit.service.core.FailsToLower engine now hop → .poll ∉ later →
        hop ∈ ((visit.execute engine now).play engine later).hops) := by
  have hlowered : hop ∈ (visit.execute engine now).hops ↔
      visit.service.core.FailsToLower engine now hop := by
    have hexecuted : (visit.execute engine now).hops =
        (visit.service.core.execute engine now (.deactivate hop)).2.controller.chain.hops := by
      rw [execute_waiting hstage]
      exact Service.hops_react_deactivate engine now hop visit.service
    rw [hexecuted]
    exact Core.mem_hops_lowered_iff
  obtain ⟨hsubset, hkept⟩ := hops_play (hsteady.act engine (.execute now)) engine hlowering
  refine ⟨fun hstill => hlowered.mp (hsubset hstill), fun hfails hpoll => ?_⟩
  exact hkept hop (hlowered.mpr hfails) hpoll hlast

/-- **What is left up when hops are brought down.** Whatever fails meanwhile, if a command that is
to bring hops down, and that nobody gets in the way of, succeeds, then all its deactivations had
been carried out when the core took up its version query. A hop was still up then only if the last
deactivation of it had failed; and if that had failed, the hop was up, unless the core looked after
its engine in between. -/
theorem lowered_unless_failed (count : Nat) (engine : Engine σ)
    {service : Service σ} (hevents : service.core.controller.events = []) {acts : List (Act σ)}
    (hsuccess : ((start (.down count) service).play engine acts).dialogue.result? = some (.ok ())) :
    ∃ before now after, acts = before ++ .execute now :: after ∧
      ((start (.down count) service).play engine before).isInquiring = true ∧
      ∀ hop ∈ firstHops count, ∃ earlier time later, before = earlier ++ .execute time :: later ∧
        ((start (.down count) service).play engine earlier).stage =
          .waiting (parcelOf (.deactivate (some hop))) ∧
        (hop ∈ ((start (.down count) service).play engine before).hops →
          ((start (.down count) service).play engine earlier).service.core.FailsToLower engine
            time hop) ∧
        (((start (.down count) service).play engine earlier).service.core.FailsToLower engine
          time hop →
          .poll ∉ later → hop ∈ ((start (.down count) service).play engine before).hops) := by
  have hfinished : ((start (.down count) service).play engine acts).dialogue.stage =
      .finished (.ok ()) := by
    unfold Errand.Dialogue.result? at hsuccess
    split at hsuccess
    · rename_i result hresult
      rw [hresult, Option.some.inj hsuccess]
    · cases hsuccess
  obtain ⟨before, now, after, hacts, hinquiring⟩ := exists_inquiry hevents hfinished
  refine ⟨before, now, after, hacts, hinquiring, fun hop hhop => ?_⟩
  have htaken := takenUp_down hevents hinquiring
  have hmem :
      parcelOf (.deactivate (some hop)) ∈ (start (.down count) service).takenUp engine before := by
    rw [htaken]
    exact List.mem_map_of_mem (List.mem_cons_of_mem _ (mem_deactivations.mpr ⟨hop, hhop, rfl⟩))
  obtain ⟨earlier, time, later, rfl, hstage, hlast⟩ := exists_last_of_mem_takenUp hmem
  refine ⟨earlier, time, later, rfl, hstage, ?_⟩
  have hplay : (start (.down count) service).play engine (earlier ++ .execute time :: later) =
      (((start (.down count) service).play engine earlier).execute engine time).play engine later :=
    List.foldl_append
  rw [hplay]
  refine hops_after_deactivation ((steady_start _ hevents).play engine earlier) engine
    hstage ?_ hlast
  intro parcel hparcel
  rw [takenUp_append, takenUp] at htaken
  have hall : parcel ∈ (.status :: deactivations count).map parcelOf :=
    htaken ▸ List.mem_append_right _ (List.mem_append_right _ hparcel)
  obtain ⟨message, hmessage, rfl⟩ := List.mem_map.mp hall
  refine ⟨message, rfl, (List.mem_cons.mp hmessage).imp_right fun hdeactivation => ?_⟩
  obtain ⟨other, -, hother⟩ := mem_deactivations.mp hdeactivation
  exact ⟨other, hother⟩

/-- A command that is to bring the exit hop down has connected to a daemon on which it is up. -/
def lowering : Visit Memory :=
  start (.down 1) (Service.react Memory.engine "then" ⟨"activate", plainBody 0 "AA=="⟩
    (Service.start Memory.engine ⟨"hl"⟩ 10 .fresh).2).state

/-- After a change of the system the command comes to the point where its version query is taken
up. -/
def untilLowered (change : Memory → Memory) : List (Act Memory) :=
  .strike change :: turn ++ turn ++ [.read]

def wholeLowering (change : Memory → Memory) : List (Act Memory) :=
  untilLowered change ++ [.execute "now", .reply, .hear]

theorem play_lowering (acts : List (Act Memory)) :
    lowering.play Memory.engine acts = lowering.playPlainly Memory.engine acts :=
  play_eq_playPlainly (steady_start _ rfl) _ _

theorem lowered_plainExit :
    (lowering.play Memory.engine (wholeLowering id)).dialogue.result? = some (.ok ()) ∧
      ∃ before now after, wholeLowering id = before ++ .execute now :: after ∧
        (lowering.play Memory.engine before).isInquiring = true ∧
        ∀ hop ∈ firstHops 1, ∃ earlier time later, before = earlier ++ .execute time :: later ∧
          (lowering.play Memory.engine earlier).stage =
            .waiting (parcelOf (.deactivate (some hop))) ∧
          (hop ∈ (lowering.play Memory.engine before).hops →
            (lowering.play Memory.engine earlier).service.core.FailsToLower Memory.engine
              time hop) ∧
          ((lowering.play Memory.engine earlier).service.core.FailsToLower Memory.engine time hop →
            .poll ∉ later → hop ∈ (lowering.play Memory.engine before).hops) := by
  have hsuccess : (lowering.play Memory.engine (wholeLowering id)).dialogue.result? =
      some (.ok ()) := by
    rw [play_lowering]
    decide +kernel
  exact ⟨hsuccess, lowered_unless_failed 1 Memory.engine rfl hsuccess⟩

/-- The interface cannot be deleted, and the exit hop stays up. The command succeeds all the same,
and says that there is no connection. -/
theorem not_lowered_undeletable :
    let change := (·.happen (.failOn .deleteInterface))
    (lowering.play Memory.engine (wholeLowering change)).dialogue.result? = some (.ok ()) ∧
      (lowering.play Memory.engine (wholeLowering change)).dialogue.printed =
        "No active connection\n" ∧
      (lowering.play Memory.engine (untilLowered change)).isInquiring = true ∧
      0 ∈ firstHops 1 ∧ (lowering.play Memory.engine (untilLowered change)).hops = {0} := by
  simp only [play_lowering]
  decide +kernel

end Visit

end TunnelChain
