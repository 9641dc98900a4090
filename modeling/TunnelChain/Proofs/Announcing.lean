import TunnelChain.Proofs.Broadcast
import TunnelChain.Proofs.Transcript
import TunnelChain.Service.Dispatch

/-!
# What a service announces

While no call fails, the events that a service raises over a message say exactly how the hops that
are up have changed.
-/

namespace TunnelChain

variable {σ : Type}

/-- What becomes of a controller while these events are raised. -/
structure Tells (before after : Controller (Transcript σ)) (said : List HopEvent) : Prop where
  events : after.events = before.events ++ said
  exchanges : before.system.exchanges <+: after.system.exchanges
  hops : Clean after.system.exchanges → said.foldl hear before.chain.hops = after.chain.hops

theorem Chain.hops_congr {left right : Chain} (h : ∀ hop, left.get? hop = right.get? hop) :
    left.hops = right.hops := by
  ext hop
  rw [mem_hops, mem_hops, h]

/-- Where no call fails, whoever hears of an activation knows what has become of its hop. -/
theorem Success.foldl_hear {switching : Bool} {now : String} {tunnel : Tunnel}
    {chain next : Chain} {result : Except OperationError Unit} {xs : List Exchange}
    {said : List HopEvent} (h : Success switching now tunnel chain result xs next said) :
    said.foldl hear chain.hops = next.hops := by
  cases h with
  | overlong _ => rfl
  | switched _ _ _ =>
    rw [Chain.hops_put]
    rfl
  | built hnext =>
    rw [Chain.hops_congr hnext, Chain.hops_put]
    rfl

namespace Tells

variable {before middle after : Controller (Transcript σ)} {said told : List HopEvent}
  {engine : Engine σ}

theorem refl (controller : Controller (Transcript σ)) : Tells controller controller [] :=
  ⟨(List.append_nil _).symm, List.prefix_rfl, fun _ => rfl⟩

theorem trans (h : Tells before middle said) (h' : Tells middle after told) :
    Tells before after (said ++ told) where
  events := by rw [h'.events, h.events, List.append_assoc]
  exchanges := h.exchanges.trans h'.exchanges
  hops hclean := by
    rw [List.foldl_append, h.hops (hclean.of_initial h'.exchanges), h'.hops hclean]

theorem note (h : Tells before after said) (level : Level) (text : String) :
    Tells before (after.note level text) said :=
  ⟨h.events, h.exchanges, h.hops⟩

theorem of_turns {xs : List Exchange} {chain : Chain}
    (h : Controller.Turns engine.transcribed before xs chain said after)
    (hhops : Clean xs → said.foldl hear before.chain.hops = chain.hops) :
    Tells before after said where
  events := h.events
  exchanges := by
    rw [h.runs.of_transcribed.2.1]
    exact List.prefix_append _ _
  hops hclean := by
    rw [h.runs.of_transcribed.2.1] at hclean
    rw [h.chain, hhops hclean.of_append.2]

theorem activate (engine : Engine σ) (now : String) (tunnel : Tunnel)
    (controller : Controller (Transcript σ)) :
    ∃ said, Tells controller (controller.activate engine.transcribed now tunnel).2 said := by
  obtain ⟨xs, next, said, hactivation, hturns⟩ :=
    Controller.activate_law engine.transcribed now tunnel controller
  exact ⟨said, of_turns hturns fun hclean => (hactivation.success hclean).foldl_hear⟩

theorem deactivate (engine : Engine σ) (hop : HopIndex) (controller : Controller (Transcript σ)) :
    ∃ said, Tells controller (controller.deactivate engine.transcribed hop true).2 said := by
  obtain ⟨xs, next, said, hteardown, hturns⟩ :=
    Controller.deactivate_law engine.transcribed hop true controller
  exact ⟨said, of_turns hturns fun _ => (hteardown.foldl_hear subset_rfl).2 rfl⟩

theorem deactivateAll (engine : Engine σ) (controller : Controller (Transcript σ)) :
    ∃ said, Tells controller (controller.deactivateAll engine.transcribed true) said := by
  refine Controller.deactivateEach_induction (P := fun after => ∃ said, Tells controller after said)
    ?_ ?_ ⟨[], refl controller⟩ _
  · rintro after level text ⟨said, h⟩
    exact ⟨said, h.note level text⟩
  · rintro after hop ⟨said, h⟩
    obtain ⟨told, h'⟩ := deactivate engine hop after
    exact ⟨said ++ told, h.trans h'⟩

theorem throughput (engine : Engine σ) (name : String) (controller : Controller (Transcript σ)) :
    Tells controller (controller.ask (engine.transcribed.throughput name)).2 [] :=
  ⟨(List.append_nil _).symm, List.prefix_rfl, fun _ => rfl⟩

theorem look (engine : Engine σ) (name : String) (controller : Controller (Transcript σ)) :
    Tells controller (controller.ask (engine.transcribed.hasInterface name)).2 [] :=
  of_turns ((Controller.Turns.start engine.transcribed controller).look name) fun _ => rfl

theorem status (engine : Engine σ) (controller : Controller (Transcript σ)) :
    Tells controller (controller.status engine.transcribed).2 [] := by
  unfold Controller.status
  cases controller.chain.get? 0 with
  | none => exact refl controller
  | some active =>
    have hlook := look engine active.tunnel.name controller
    dsimp only
    cases hask : controller.ask (engine.transcribed.hasInterface active.tunnel.name) with
    | mk found next =>
      rw [hask] at hlook
      cases found with
      | false => exact hlook.note _ _
      | true =>
        have hread := hlook.trans (throughput engine active.tunnel.name next)
        dsimp only
        cases hthroughput : next.ask (engine.transcribed.throughput active.tunnel.name) with
        | mk answer last =>
          rw [hthroughput] at hread
          cases answer with
          | ok counters => exact hread
          | error failure => exact hread.note _ _

theorem checkLiveness (engine : Engine σ) (controller : Controller (Transcript σ)) :
    ∃ said, Tells controller (controller.checkLiveness engine.transcribed).2 said := by
  unfold Controller.checkLiveness
  split
  · exact ⟨[], refl controller⟩
  · have halarm (text : String) :
        Tells controller ((controller.note .error text).emit .backendFailure) [.backendFailure] :=
      ⟨rfl, List.prefix_rfl, fun _ => rfl⟩
    obtain ⟨told, h⟩ := deactivateAll engine _
    exact ⟨_, (halarm _).trans h⟩

theorem execute (engine : Engine σ) (now : String) (request : Request)
    (core : Core (Transcript σ)) :
    ∃ said,
      Tells core.controller (core.execute engine.transcribed now request).2.controller said := by
  unfold Core.execute
  split
  · cases request with
    | activate tunnel =>
      obtain ⟨said, h⟩ := activate engine now tunnel core.controller
      refine ⟨said, ?_⟩
      unfold Core.carryOut
      dsimp only
      cases hactivate : core.controller.activate engine.transcribed now tunnel with
      | mk result controller =>
        rw [hactivate] at h
        cases result with
        | ok done => exact h
        | error error =>
          dsimp only [Core.survive]
          split
          · exact (h.note _ _).note _ _
          · exact h
    | deactivate hop => exact deactivate engine hop core.controller
    | status => exact ⟨[], status engine core.controller⟩
    | shutdown =>
      obtain ⟨said, h⟩ := deactivateAll engine core.controller
      exact ⟨said, h.note _ _⟩
  · exact ⟨[], refl core.controller⟩

theorem execute_status (engine : Engine σ) (now : String) (core : Core (Transcript σ)) :
    Tells core.controller (core.execute engine.transcribed now .status).2.controller [] := by
  unfold Core.execute
  split
  · exact status engine core.controller
  · exact refl core.controller

theorem poll (engine : Engine σ) (core : Core (Transcript σ)) :
    ∃ said, Tells core.controller (core.poll engine.transcribed).controller said := by
  unfold Core.poll
  split
  · exact checkLiveness engine core.controller
  · exact ⟨[], refl core.controller⟩

end Tells

namespace Service

theorem activate_tells (engine : Engine σ) (now : String) (body : Json)
    (service : Service (Transcript σ)) :
    ∃ said, Tells service.core.controller
      (service.activate engine.transcribed now body).2.core.controller said := by
  unfold Service.activate
  split
  · exact ⟨[], (Tells.refl _).note _ _⟩
  · rename_i tunnel _
    obtain ⟨said, h⟩ := Tells.execute engine now (.activate tunnel) service.core
    refine ⟨said, ?_⟩
    unfold request
    cases hexecute : service.core.execute engine.transcribed now (.activate tunnel) with
    | mk answer core =>
      rw [hexecute] at h
      cases answer with
      | ok answer => exact h
      | error error => exact h.note _ _

theorem deactivate_tells (engine : Engine σ) (now : String) (hop : HopIndex)
    (service : Service (Transcript σ)) :
    ∃ said, Tells service.core.controller
      (service.deactivate engine.transcribed now hop).core.controller said := by
  obtain ⟨said, h⟩ := Tells.execute engine now (.deactivate hop) service.core
  refine ⟨said, ?_⟩
  unfold Service.deactivate request
  cases hexecute : service.core.execute engine.transcribed now (.deactivate hop) with
  | mk answer core =>
    rw [hexecute] at h
    cases answer with
    | ok answer => exact h
    | error error => exact h.note _ _

theorem status_tells (engine : Engine σ) (now : String) (service : Service (Transcript σ)) :
    Tells service.core.controller (service.status engine.transcribed now).2.core.controller [] := by
  have h := Tells.execute_status engine now service.core
  unfold Service.status request
  cases hexecute : service.core.execute engine.transcribed now .status with
  | mk answer core =>
    rw [hexecute] at h
    cases answer with
    | ok answer => cases answer <;> exact h
    | error error => exact h.note _ _

theorem handle_tells (engine : Engine σ) (now : String) (parcel : Parcel)
    (service : Service (Transcript σ)) :
    ∃ said, Tells service.core.controller
      (service.handle engine.transcribed now parcel).2.core.controller said := by
  unfold handle
  dsimp only
  generalize hservice : service.note .debug ("Handling message: " ++ parcel.kind) = noted
  have hnoted : Tells service.core.controller noted.core.controller [] := by
    rw [← hservice]
    exact (Tells.refl _).note _ _
  split
  · obtain ⟨said, h⟩ := activate_tells engine now parcel.body noted
    exact ⟨_, hnoted.trans h⟩
  · obtain ⟨said, h⟩ := deactivate_tells engine now (hopHint parcel.body) noted
    exact ⟨_, hnoted.trans h⟩
  · exact ⟨_, hnoted.trans (status_tells engine now noted)⟩
  · exact ⟨_, hnoted⟩
  · exact ⟨_, hnoted⟩
  · exact ⟨_, hnoted⟩
  · exact ⟨_, hnoted.note _ _⟩

theorem handle_status (engine : Engine σ) (now : String) {parcel : Parcel}
    (hkind : parcel.kind = "status") (service : Service (Transcript σ)) :
    (∃ report, (service.handle engine.transcribed now parcel).1 = [.status report]) ∧
      Tells service.core.controller
        (service.handle engine.transcribed now parcel).2.core.controller [] := by
  unfold handle
  dsimp only
  generalize hservice : service.note .debug ("Handling message: " ++ parcel.kind) = noted
  have hnoted : Tells service.core.controller noted.core.controller [] := by
    rw [← hservice]
    exact (Tells.refl _).note _ _
  rw [hkind]
  exact ⟨⟨_, rfl⟩, hnoted.trans (status_tells engine now noted)⟩

/-- What a service announces over a step, once its events are taken: these events, from which
whoever knew the hops knows them afterwards. -/
structure Announces (before after : Service (Transcript σ)) (events : List DaemonMessage)
    (said : List HopEvent) : Prop where
  events : events = said.map HopEvent.toMessage
  taken : after.core.controller.events = []
  exchanges : before.core.controller.system.exchanges <+: after.core.controller.system.exchanges
  hops : Clean after.core.controller.system.exchanges →
    said.foldl hear before.core.controller.chain.hops = after.core.controller.chain.hops

theorem announces_takeEvents {before after : Service (Transcript σ)} {said : List HopEvent}
    (hevents : before.core.controller.events = [])
    (h : Tells before.core.controller after.core.controller said) :
    Announces before after.takeEvents.2 after.takeEvents.1 said where
  events := by
    have hsaid := h.events
    rw [hevents, List.nil_append] at hsaid
    exact congrArg (List.map HopEvent.toMessage) hsaid
  taken := rfl
  exchanges := h.exchanges
  hops := h.hops

theorem react_announces (engine : Engine σ) (now : String) (parcel : Parcel)
    {service : Service (Transcript σ)} (hevents : service.core.controller.events = []) :
    ∃ said, Announces service (react engine.transcribed now parcel service).state
      (react engine.transcribed now parcel service).events said := by
  obtain ⟨said, h⟩ := handle_tells engine now parcel service
  exact ⟨said, announces_takeEvents hevents h⟩

/-- A request for the state is answered with a report, and nothing is announced. -/
theorem react_status (engine : Engine σ) (now : String) {parcel : Parcel}
    (hkind : parcel.kind = "status") {service : Service (Transcript σ)}
    (hevents : service.core.controller.events = []) :
    (∃ report, (react engine.transcribed now parcel service).replies = [.status report]) ∧
      Announces service (react engine.transcribed now parcel service).state
        (react engine.transcribed now parcel service).events [] := by
  obtain ⟨hreplies, h⟩ := handle_status engine now hkind service
  exact ⟨hreplies, announces_takeEvents hevents h⟩

def poll (engine : Engine σ) (service : Service σ) : List DaemonMessage × Service σ :=
  { service with core := service.core.poll engine }.takeEvents

theorem poll_announces (engine : Engine σ) {service : Service (Transcript σ)}
    (hevents : service.core.controller.events = []) :
    ∃ said, Announces service (poll engine.transcribed service).2
      (poll engine.transcribed service).1 said := by
  obtain ⟨said, h⟩ := Tells.poll engine service.core
  exact ⟨said, announces_takeEvents hevents h⟩

end Service

end TunnelChain
