import TunnelChain.Proofs.Accounting
import TunnelChain.Proofs.Chaining
import TunnelChain.Proofs.FirstView
import TunnelChain.Proofs.Releasing

/-!
# What a command reports of a plan

A daemon answers each activation: its hop has come up, or it has not. The command that brings up a
plan hears all of this, but its session lets through only what is said of the exit hop. So when it
reports that it is connected, the exit hop is up; a relay is up unless the command was told that it
is not.
-/

namespace TunnelChain

variable {σ : Type}

/-- Hearing of events, one takes a hop for up that has come up and was not said to be down. -/
theorem mem_heard_of_connected {hop : HopIndex} {told : List HopEvent} (hup : .connected hop ∈ told)
    (hdown : .disconnected hop ∉ told) : hop ∈ heard told := by
  induction told using List.reverseRecOn with
  | nil => cases hup
  | append_singleton told last ih =>
    rw [List.mem_append, List.mem_singleton] at hup hdown
    rw [heard_append, List.foldl_cons, List.foldl_nil]
    obtain ⟨hearlier, hlast⟩ := not_or.mp hdown
    obtain hup | rfl := hup
    · have hstill := ih hup hearlier
      cases last with
      | connected other => exact Finset.mem_insert_of_mem hstill
      | disconnected other =>
        refine Finset.mem_erase.mpr ⟨?_, hstill⟩
        rintro rfl
        exact hlast rfl
      | backendFailure => exact hstill
    · exact Finset.mem_insert_self _ _

/-- The last word on the exit hop is what one has learned of it. -/
theorem foldl_learn_of_find? {seen : List SessionEvent} {up : Bool}
    (hseen : ∀ ok connected since, .initialized ok connected since ∉ seen)
    (h : seen.reverse.find? Errand.Dialogue.isConnection = some .connected) :
    seen.foldl learn up = true := by
  induction seen using List.reverseRecOn with
  | nil => cases h
  | append_singleton seen last ih =>
    rw [List.reverse_append, List.reverse_singleton, List.singleton_append] at h
    rw [List.foldl_append, List.foldl_cons, List.foldl_nil]
    have hearlier (ok connected : Bool) (since : Option Instant) :
        .initialized ok connected since ∉ seen :=
      fun hmem => hseen ok connected since (List.mem_append_left _ hmem)
    cases last with
    | initialized ok connected since =>
      exact absurd (List.mem_append_right _ List.mem_cons_self) (hseen ok connected since)
    | connected => rfl
    | disconnected => cases h
    | _ => exact ih hearlier h

/-- What is said over an activation, and what its sender is answered: the hop has come up; or it has
not, and no other hop is lost. -/
inductive Upshot (hop : HopIndex) (before after : Finset HopIndex) :
    List HopEvent → List HopEvent → Prop
  | up (hafter : after = insert hop before) : Upshot hop before after [.connected hop] []
  | down (hafter : before.erase hop ⊆ after) : Upshot hop before after [] [.disconnected hop]

theorem Building.upshot {now : String} {tunnel : Tunnel} {chain next : Chain}
    {before : Finset HopIndex} {result : Except OperationError Unit} {xs : List Exchange}
    {said : List HopEvent} (h : Building now tunnel chain result xs next said)
    (hchain : chain.hops = before ∨ chain.hops = before.erase tunnel.hop) :
    ∃ owed, Upshot tunnel.hop before next.hops said owed ∧
      Service.refusal tunnel.hop result = owed.map HopEvent.toMessage := by
  have hkept : before.erase tunnel.hop ⊆ chain.hops := by
    obtain hsame | herased := hchain
    · rw [hsame]
      exact Finset.erase_subset _ _
    · rw [herased]
  have hbuilt : insert tunnel.hop chain.hops = insert tunnel.hop before := by
    obtain hsame | herased := hchain
    · rw [hsame]
    · ext other
      rw [herased, Finset.mem_insert, Finset.mem_insert, Finset.mem_erase]
      tauto
  cases h with
  | uncleared _ => exact ⟨_, .down hkept, rfl⟩
  | failed _ _ => exact ⟨_, .down hkept, rfl⟩
  | built _ => exact ⟨_, .up ((Chain.hops_put _).trans hbuilt), rfl⟩

theorem Activation.upshot {switching : Bool} {now : String} {tunnel : Tunnel} {chain next : Chain}
    {result : Except OperationError Unit} {xs : List Exchange} {said : List HopEvent}
    (h : Activation switching now tunnel chain result xs next said) :
    ∃ owed, Upshot tunnel.hop chain.hops next.hops said owed ∧
      Service.refusal tunnel.hop result = owed.map HopEvent.toMessage := by
  cases h with
  | overlong _ => exact ⟨_, .down (Finset.erase_subset _ _), rfl⟩
  | fresh _ _ hbuild => exact hbuild.upshot (.inl rfl)
  | switched _ _ _ => exact ⟨_, .up (Chain.hops_put _), rfl⟩
  | unswitched _ _ _ => exact ⟨_, .down (Finset.erase_subset _ _), rfl⟩
  | kept _ _ _ _ hgone =>
    cases result with
    | ok done => cases hgone
    | error error => exact ⟨_, .down (Finset.erase_subset _ _), rfl⟩
  | rebuilt _ _ _ _ _ hbuild => exact hbuild.upshot (.inr (Chain.hops_erase _))

/-- A hop that is up after an activation was up before, or is told to have come up. -/
theorem Activation.mem_or_connected {switching : Bool} {now : String} {tunnel : Tunnel}
    {chain next : Chain} {result : Except OperationError Unit} {xs : List Exchange}
    {said : List HopEvent} (h : Activation switching now tunnel chain result xs next said)
    {hop : HopIndex} (hhop : hop ∈ next.hops) : hop ∈ chain.hops ∨ .connected hop ∈ said := by
  obtain ⟨hnext, rfl⟩ | ⟨hnext, rfl⟩ | ⟨hnext, -, rfl⟩ := h.outcome
  · rw [hnext, Finset.mem_insert] at hhop
    obtain rfl | hbefore := hhop
    · exact .inr (List.mem_singleton_self _)
    · exact .inl hbefore
  · rw [hnext] at hhop
    exact .inl hhop
  · rw [hnext] at hhop
    exact .inl (Finset.mem_of_mem_erase hhop)

namespace Service

variable {service : Service σ}

/-- Whether no hop has come or gone between two states of a service, and nothing was said. -/
structure Stays (before after : Service σ) : Prop where
  chain : after.core.controller.chain = before.core.controller.chain
  events : after.core.controller.events = before.core.controller.events
  running : after.core.isRunning = before.core.isRunning

theorem Stays.trans {before middle after : Service σ} (h : Stays before middle)
    (h' : Stays middle after) : Stays before after :=
  ⟨h'.chain.trans h.chain, h'.events.trans h.events, h'.running.trans h.running⟩

/-- The hop that an activation is about, which its body hints at where the body is refused. -/
def asked (service : Service σ) (body : Json) : HopIndex :=
  match Tunnel.ofBody service.naming.name body with
  | .ok tunnel => tunnel.hop
  | .error _ => hopHint body

theorem asked_parcel (service : Service σ) (request : TunnelRequest) :
    service.asked (Message.client (.activate request)).parcel.body = request.hop.getD 0 := by
  rw [asked, Tunnel.ofBody_parcel, hopHint_activate]
  cases hrequest : Tunnel.ofRequest service.naming.name request with
  | error error => rfl
  | ok tunnel => exact Tunnel.hop_of_ofRequest hrequest

/-- An activation that is out of order, or that comes when the core has stopped, changes nothing and
is answered. -/
theorem activate_refused (service : Service σ) {body : Json}
    (h : service.core.isRunning = false ∨
      ∃ error, Tunnel.ofBody service.naming.name body = .error error)
    (engine : Engine σ) (now : String) :
    (service.activate engine now body).1 = [.disconnected (service.asked body)] ∧
      Stays service (service.activate engine now body).2 := by
  unfold activate asked
  cases hbody : Tunnel.ofBody service.naming.name body with
  | error error => exact ⟨rfl, rfl, rfl, rfl⟩
  | ok tunnel =>
    obtain hstopped | ⟨error, herror⟩ := h
    · dsimp only [Service.request]
      rw [Core.execute_of_stopped hstopped]
      exact ⟨rfl, rfl, rfl, rfl⟩
    · cases hbody.symm.trans herror

/-- Every activation is answered, by an event or by a reply. -/
theorem react_activate (parcel : Parcel) (hkind : parcel.kind = "activate")
    (hevents : service.core.controller.events = []) (engine : Engine σ) (now : String) :
    ∃ said owed, ∃ reaction, react engine now parcel service = reaction ∧
      reaction.events = said.map HopEvent.toMessage ∧
      reaction.replies = owed.map HopEvent.toMessage ∧
      Upshot (service.asked parcel.body) service.core.controller.chain.hops
        reaction.state.core.controller.chain.hops said owed ∧
      ∀ hop ∈ reaction.state.core.controller.chain.hops,
        hop ∈ service.core.controller.chain.hops ∨ .connected hop ∈ said := by
  by_cases hrefused : service.core.isRunning = false ∨
      ∃ error, Tunnel.ofBody service.naming.name parcel.body = .error error
  · obtain ⟨hreplies, hstays⟩ :=
      (service.note .debug "Handling message: activate").activate_refused hrefused engine now
    rw [← handle_eq_activate hkind] at hreplies hstays
    have hhops : (react engine now parcel service).state.core.controller.chain.hops =
        service.core.controller.chain.hops := congrArg Chain.hops hstays.chain
    refine ⟨[], [.disconnected (service.asked parcel.body)], _, rfl, ?_, hreplies, .down ?_,
      fun hop hhop => .inl (hhops.subset hhop)⟩
    · exact congrArg (List.map HopEvent.toMessage) (hstays.events.trans hevents)
    · exact (Finset.erase_subset _ _).trans hhops.ge
  · obtain ⟨hrunning, haccepted⟩ := not_or.mp hrefused
    cases hbody : Tunnel.ofBody service.naming.name parcel.body with
    | error error => exact absurd ⟨error, hbody⟩ haccepted
    | ok tunnel =>
      obtain ⟨result, xs, next, said, hactivation, hturns, hreplies, -, hnaming⟩ :=
        handle_activate (Bool.eq_true_of_not_eq_false hrunning) hkind hbody engine now
      obtain ⟨owed, hupshot, howed⟩ := hactivation.upshot
      have hreacts := Reacts.of_handle hevents hturns hnaming
      have hasked : service.asked parcel.body = tunnel.hop := by
        rw [asked, hbody]
      refine ⟨said, owed, _, rfl, hreacts.events, hreplies.trans howed, ?_, ?_⟩
      · rwa [hreacts.chain, hasked]
      · rw [hreacts.chain]
        exact fun hop hhop => hactivation.mem_or_connected hhop

end Service

/-- What is known of activations: no hop is taken for up that is not, and each hop that was asked
for has been spoken of. -/
def answered : Account := fun done told hops =>
  heard told ⊆ hops ∧ ∀ request, .activate request ∈ done →
    .connected (request.hop.getD 0) ∈ told ∨ .disconnected (request.hop.getD 0) ∈ told

theorem answered_keeps (engine : Engine σ) (plan : Plan) : answered.Keeps engine plan.messages where
  fresh hops := ⟨Finset.empty_subset hops, fun _ h => nomatch h⟩
  handled message hmessage now service hevents := by
    obtain ⟨request, -, rfl⟩ := List.mem_map.mp hmessage
    obtain ⟨said, owed, reaction, hreaction, hevents, hreplies, hupshot, -⟩ :=
      Service.react_activate (Message.client (.activate request)).parcel rfl hevents engine now
    rw [Service.asked_parcel] at hupshot
    refine ⟨said, owed, ?_⟩
    rw [hreaction]
    refine ⟨hevents, hreplies, ?_⟩
    rintro done told ⟨hheard, hdone⟩
    have hspoken (hlast : .connected (request.hop.getD 0) ∈ said ++ owed ∨
          .disconnected (request.hop.getD 0) ∈ said ++ owed) (asked : TunnelRequest)
        (hasked : .activate asked ∈ done ++ [.activate request]) :
        .connected (asked.hop.getD 0) ∈ told ++ said ++ owed ∨
          .disconnected (asked.hop.getD 0) ∈ told ++ said ++ owed := by
      rw [List.append_assoc]
      rw [List.mem_append, List.mem_singleton] at hasked
      obtain hearlier | hnow := hasked
      · exact (hdone asked hearlier).imp (List.mem_append_left _) (List.mem_append_left _)
      · cases hnow
        exact hlast.imp (List.mem_append_right _) (List.mem_append_right _)
    cases hupshot with
    | up hafter =>
      refine ⟨?_, hspoken (.inl List.mem_cons_self)⟩
      rw [List.append_nil, heard_append, hafter]
      exact Finset.insert_subset_insert _ hheard
    | down hafter =>
      refine ⟨?_, hspoken (.inr List.mem_cons_self)⟩
      rw [List.append_nil, heard_append]
      exact (Finset.erase_subset_erase _ hheard).trans hafter

/-- A plan asks for each of its hops. -/
theorem Plan.exists_request_of_mem_firstHops {plan : Plan} {hop : HopIndex}
    (h : hop ∈ firstHops plan.hopCount) : ∃ request ∈ plan.requests, request.hop = some hop := by
  obtain ⟨index, hindex, rfl⟩ := Finset.mem_image.mp h
  rw [← List.mem_map (f := TunnelRequest.hop), plan.map_hop_requests]
  exact List.mem_map_of_mem (List.mem_range.mpr (Finset.mem_range.mp hindex))

namespace Errand

variable {plan : Plan} {dialogue : Dialogue}

theorem up_sends (hservers : plan.servers ≠ []) : (Errand.up plan).Sends plan.messages := by
  intro dialogue connected since h
  obtain ⟨houtbound, hsession⟩ := Session.activate_granted h.phase hservers
  unfold Dialogue.begin
  rw [h.errand]
  dsimp only [Dialogue.askThenVersion, Dialogue.ask, Client.take]
  cases hactivate : dialogue.client.session.activate plan with
  | mk transition session =>
    rw [hactivate] at houtbound hsession
    subst hsession
    have hquery : Session.queryVersion { dialogue.client.session with hopCount := plan.hopCount } =
        (.send [.version], { dialogue.client.session with hopCount := plan.hopCount }) := by
      unfold Session.queryVersion Session.isTalking
      dsimp only
      rw [h.phase]
      rfl
    dsimp only at houtbound ⊢
    rw [hquery, houtbound]
    exact ⟨_, rfl, ⟨h.errand, h.phase, rfl, h.printed, h.isOpen, h.inbox⟩⟩

/-- A command that prints at its end was told of no alarm, and heard last that the exit hop is
up. -/
theorem conclude_up {seen : List SessionEvent}
    (h : dialogue.At (.up plan) .ready (.settling seen) "")
    (hprinted : (dialogue.conclude seen).printed ≠ "") :
    .controllerError ∉ seen ∧ seen.reverse.find? Dialogue.isConnection = some .connected := by
  unfold Dialogue.conclude at hprinted
  rw [h.errand] at hprinted
  dsimp only [Dialogue.concludeUp] at hprinted
  by_cases halarm : .controllerError ∈ seen
  · rw [if_pos halarm] at hprinted
    exact absurd h.printed hprinted
  · rw [if_neg halarm] at hprinted
    by_cases hlast : seen.reverse.find? Dialogue.isConnection = some .connected
    · exact ⟨halarm, hlast⟩
    · rw [if_neg hlast] at hprinted
      exact absurd h.printed hprinted

end Errand

namespace Visit

/-- **What a command reports of a plan.** Whatever fails meanwhile, if a command that nobody gets in
the way of prints that it is connected through the hops of its plan, then, when the daemon took up
its version query, the exit hop was up, and so was every hop of the plan that the command was not
told to be down after the daemon's first report. -/
theorem up_of_printed {plan : Plan} (hservers : plan.servers ≠ []) (engine : Engine σ)
    {service : Service σ} (hevents : service.core.controller.events = []) {acts : List (Act σ)}
    (hlag : ∀ played, played <+: acts →
      ((start (.up plan) service).play engine played).connection.missed = 0)
    (hprinted : ((start (.up plan) service).play engine acts).dialogue.printed =
      "Connected through " ++ toString plan.hopCount ++ " hop(s)\n") :
    ∃ before now after early report late, acts = before ++ .execute now :: after ∧
      ((start (.up plan) service).play engine before).isInquiring = true ∧
      ((start (.up plan) service).play engine acts).heard = early ++ .status report :: late ∧
      0 ∈ ((start (.up plan) service).play engine before).hops ∧
      ∀ hop ∈ firstHops plan.hopCount,
        hop ∈ ((start (.up plan) service).play engine before).hops ∨ .disconnected hop ∈ late := by
  have hsomething : ((start (.up plan) service).play engine acts).dialogue.printed ≠ "" := by
    intro hnothing
    have hlength := congrArg String.length (hprinted.symm.trans hnothing)
    rw [String.length_append, String.length_append] at hlength
    exact absurd hlength (by simp)
  obtain ⟨early, report, told, late, last, hheard, hdialogue, hconclude, hmoment⟩ :=
    outcome_of_printed (answered_keeps engine plan) (Errand.up_sends hservers) hevents hlag
      hsomething
  obtain ⟨halarm, hlast⟩ := Errand.conclude_up hdialogue (hconclude ▸ hsomething)
  obtain ⟨before, now, after, hacts, hinquiring, hstands⟩ := hmoment
  -- The command would have heard of an alarm, so the account itself holds.
  have hcalm : .backendFailure ∉ told := fun hmem =>
    halarm (List.mem_flatMap.mpr ⟨_, hmem, List.mem_cons_self⟩)
  obtain ⟨hknown, hspoken⟩ := hstands.resolve_left hcalm
  refine ⟨before, now, after, early, report, told.map HopEvent.toMessage ++ late, hacts,
    hinquiring, ?_, hknown ?_, fun hop hhop => ?_⟩
  · rw [hheard, List.append_assoc, List.cons_append]
  · have hlearned :
        (told.flatMap HopEvent.surfaced).foldl learn (decide (0 ∈ (∅ : Finset HopIndex))) = true :=
      foldl_learn_of_find? (fun _ _ _ => HopEvent.not_initialized_of_mem_surfaced) hlast
    rw [foldl_learn_surfaced] at hlearned
    exact of_decide_eq_true hlearned
  · obtain ⟨request, hrequest, hasked⟩ := Plan.exists_request_of_mem_firstHops hhop
    have hspoken := hspoken request (List.mem_map_of_mem (List.mem_reverse.mpr hrequest))
    rw [hasked, Option.getD_some] at hspoken
    by_cases hdown : .disconnected hop ∈ told
    · exact .inr (List.mem_append_left _ (List.mem_map_of_mem hdown))
    · exact .inl (hknown (mem_heard_of_connected (hspoken.resolve_right hdown) hdown))

/-- The steps that carry out one request of a command. -/
def turn : List (Act Memory) :=
  [.read, .execute "now", .reply, .hear]

/-- A command that brings up two hops comes to the point where its version query is taken up. -/
def untilInquiry : List (Act Memory) :=
  turn ++ turn ++ turn ++ [.read]

def wholeVisit : List (Act Memory) :=
  untilInquiry ++ [.execute "now", .reply, .hear]

/-- A command that is to bring up a plan has connected to a daemon that has just started. -/
def rising (plan : Plan) : Visit Memory :=
  start (.up plan) (Service.start Memory.engine ⟨"hl"⟩ 10 .fresh).2

theorem play_rising (plan : Plan) (acts : List (Act Memory)) :
    (rising plan).play Memory.engine acts = (rising plan).playPlainly Memory.engine acts :=
  play_eq_playPlainly (steady_start _ rfl) _ _

theorem up_of_printed_plain :
    (Session.plainPlan 2).hopCount = 2 ∧
      ∃ before now after early report late, wholeVisit = before ++ .execute now :: after ∧
        ((rising (Session.plainPlan 2)).play Memory.engine before).isInquiring = true ∧
        ((rising (Session.plainPlan 2)).play Memory.engine wholeVisit).heard =
          early ++ .status report :: late ∧
        0 ∈ ((rising (Session.plainPlan 2)).play Memory.engine before).hops ∧
        ∀ hop ∈ firstHops (Session.plainPlan 2).hopCount,
          hop ∈ ((rising (Session.plainPlan 2)).play Memory.engine before).hops ∨
            .disconnected hop ∈ late := by
  have hlag : ∀ played, played <+: wholeVisit →
      ((rising (Session.plainPlan 2)).play Memory.engine played).connection.missed = 0 := by
    simp only [← List.mem_inits, play_rising]
    decide +kernel
  have hprinted : ((rising (Session.plainPlan 2)).play Memory.engine wholeVisit).dialogue.printed =
      "Connected through " ++ toString (Session.plainPlan 2).hopCount ++ " hop(s)\n" := by
    rw [play_rising]
    decide +kernel
  exact ⟨rfl, up_of_printed (List.cons_ne_nil _ _) Memory.engine rfl hlag hprinted⟩

/-- A plan through two servers, of which the relay's gateway is no address. -/
def unroutable : Plan :=
  { Session.plainPlan 2 with
    servers := [Session.plainServer, { Session.plainServer with gatewayIpv4 := "not-an-ip" }] }

/-- The daemon refuses the relay and tells the command so. The command prints that it is connected
through two hops, but when the version query was taken up, only the exit hop was up. -/
theorem not_up_unroutable :
    (∀ played, played <+: wholeVisit →
        ((rising unroutable).play Memory.engine played).connection.missed = 0) ∧
      ((rising unroutable).play Memory.engine wholeVisit).dialogue.printed =
        "Connected through 2 hop(s)\n" ∧
      .disconnected 1 ∈ ((rising unroutable).play Memory.engine wholeVisit).heard ∧
      ((rising unroutable).play Memory.engine untilInquiry).isInquiring = true ∧
      1 ∈ firstHops unroutable.hopCount ∧
      ((rising unroutable).play Memory.engine untilInquiry).hops = {0} := by
  simp only [← List.mem_inits, play_rising]
  decide +kernel

end Visit

end TunnelChain
