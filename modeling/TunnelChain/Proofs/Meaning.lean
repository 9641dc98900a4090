import TunnelChain.Proofs.Attending
import TunnelChain.Proofs.Following
import TunnelChain.Proofs.Reckoning
import TunnelChain.Proofs.Rejection
import TunnelChain.Proofs.Request

/-!
# What messages mean

What a client writes means the same to the service that reads it. What it means is said here of the
message itself, in terms of what the controller does; a service that has read it does just that, and
writes some lines into its log besides.
-/

namespace TunnelChain

variable {σ : Type}

/-- Whether questions leave the system as it is. -/
structure Engine.LooksOnly (engine : Engine σ) : Prop where
  hasInterface : ∀ name system, (engine.hasInterface name system).system = system
  throughput : ∀ name system, (engine.throughput name system).system = system

theorem Memory.looksOnly_engine : Memory.engine.LooksOnly where
  hasInterface _ _ := rfl
  throughput name memory := by
    change (memory.throughput name).system = memory
    unfold Memory.throughput
    split
    · rfl
    · split <;> rfl

theorem Engine.LooksOnly.system_status {engine : Engine σ} (h : engine.LooksOnly)
    (controller : Controller σ) : (controller.status engine).2.system = controller.system := by
  unfold Controller.status
  cases controller.chain.get? 0 with
  | none => rfl
  | some active =>
    have hlook : (controller.ask (engine.hasInterface active.tunnel.name)).2.system =
      controller.system := h.hasInterface _ _
    dsimp only
    cases hask : controller.ask (engine.hasInterface active.tunnel.name) with
    | mk found next =>
      rw [hask] at hlook
      cases found with
      | false => exact hlook
      | true =>
        have hread : (next.ask (engine.throughput active.tunnel.name)).2.system = next.system :=
          h.throughput _ _
        dsimp only
        cases hcount : next.ask (engine.throughput active.tunnel.name) with
        | mk answer last =>
          rw [hcount] at hread
          cases answer <;> exact hread.trans hlook

/-- Once its controller has done something, a core goes on, or not. -/
def Core.after (core : Core σ) : Except OperationError Unit × Controller σ → Core σ
  | (.ok _, controller) => { core with controller }
  | (.error error, controller) => { core with controller }.survive error

namespace Service

/-- What is answered to a message, and what becomes of a service over it. -/
def meaning (engine : Engine σ) (now : String) (service : Service σ) :
    ClientMessage → List DaemonMessage × Service σ
  | .activate request =>
    let hop := request.hop.getD 0
    match Tunnel.ofRequest service.naming.name request with
    | .error _ => ([.disconnected hop], service)
    | .ok tunnel =>
      if service.core.isRunning then
        let outcome := service.core.controller.activate engine now tunnel
        (refusal hop outcome.1, { service with core := service.core.after outcome })
      else ([.disconnected hop], service)
  | .deactivate hop =>
    if service.core.isRunning then
      let outcome := service.core.controller.deactivate engine (hop.getD 0) true
      ([], { service with core := { service.core with controller := outcome.2 } })
    else ([], service)
  | .status =>
    if service.core.isRunning then
      let (report, looked) := service.core.controller.status engine
      let controller := { service.core.controller with system := looked.system }
      ([.status report], { service with core := { service.core with controller } })
    else ([.status .disconnected], service)
  | .logs => ([.ofLog service.logs.contents], service)
  | .cleanLogs => ([], { service with logs := .empty service.logs.capacity })
  | .version => ([.version protocolVersion], service)

/-- Whether two outcomes differ in nothing but what has been logged. -/
structure Alike {α : Type} (outcome other : α × Service σ) : Prop where
  answer : outcome.1 = other.1
  service : outcome.2.unlogged = other.2.unlogged

theorem recast_unlogged (service : Service σ) :
    service.unlogged.recast id service.core.controller.log = service := by
  unfold recast Core.recast Controller.recast
  simp only [unlogged, Controller.unlogged, List.append_nil, id]

/-- What never goes by the log comes to the same whatever has been logged. -/
theorem alike_of_recast {α : Type} (operation : Service σ → α × Service σ)
    (h : ∀ earlier service,
      operation (service.recast id earlier) = (operation service).map id (recast id earlier))
    {service other : Service σ} (hsame : service.unlogged = other.unlogged) :
    Alike (operation service) (operation other) := by
  have hunlogged (service : Service σ) :
      Alike (operation service) (operation service.unlogged) := by
    have heq := h service.core.controller.log service.unlogged
    rw [recast_unlogged] at heq
    rw [heq]
    exact ⟨rfl, rfl⟩
  have hservice := hunlogged service
  rw [hsame] at hservice
  have hother := hunlogged other
  exact ⟨hservice.answer.trans hother.answer.symm, hservice.service.trans hother.service.symm⟩

theorem Alike.trans {α : Type} {first second third : α × Service σ} (h : Alike first second)
    (h' : Alike second third) : Alike first third :=
  ⟨h.answer.trans h'.answer, h.service.trans h'.service⟩

theorem alike_activate (engine : Engine σ) (now : String) (request : TunnelRequest)
    (service : Service σ) :
    Alike (service.activate engine now (Message.client (.activate request)).parcel.body)
      (service.meaning engine now (.activate request)) := by
  rw [activate, meaning, Tunnel.ofBody_parcel, hopHint_activate]
  dsimp only
  cases hrequest : Tunnel.ofRequest service.naming.name request with
  | error error => exact ⟨rfl, rfl⟩
  | ok tunnel =>
    rw [← Tunnel.hop_of_ofRequest hrequest]
    dsimp only [Service.request]
    by_cases hrunning : service.core.isRunning = true
    · rw [Core.execute, if_pos hrunning, if_pos hrunning, Core.carryOut]
      cases service.core.controller.activate engine now tunnel with
      | mk result controller => cases result <;> exact ⟨rfl, rfl⟩
    · rw [Core.execute, if_neg hrunning, if_neg hrunning]
      exact ⟨rfl, rfl⟩

theorem alike_deactivate (engine : Engine σ) (now : String) (hop : Option HopIndex)
    (service : Service σ) :
    Alike ([], service.deactivate engine now (hop.getD 0))
      (service.meaning engine now (.deactivate hop)) := by
  rw [deactivate, meaning]
  dsimp only [Service.request]
  by_cases hrunning : service.core.isRunning = true
  · rw [Core.execute, if_pos hrunning, if_pos hrunning, Core.carryOut]
    cases service.core.controller.deactivate engine (hop.getD 0) true with
    | mk result controller => cases result <;> exact ⟨rfl, rfl⟩
  · rw [Core.execute, if_neg hrunning, if_neg hrunning]
    exact ⟨rfl, rfl⟩

theorem alike_status (engine : Engine σ) (now : String) (service : Service σ) :
    Alike ([.status (service.status engine now).1], (service.status engine now).2)
      (service.meaning engine now .status) := by
  rw [status, meaning]
  dsimp only [Service.request]
  by_cases hrunning : service.core.isRunning = true
  · obtain ⟨hchain, hevents⟩ := service.core.controller.status_stays engine
    rw [Core.execute, if_pos hrunning, if_pos hrunning, Core.carryOut]
    refine ⟨rfl, ?_⟩
    simp only [unlogged, Controller.unlogged, hchain, hevents]
  · rw [Core.execute, if_neg hrunning, if_neg hrunning]
    exact ⟨rfl, rfl⟩

theorem alike_handle (engine : Engine σ) (now : String) (message : ClientMessage)
    (service : Service σ) :
    Alike (service.handle engine now (Message.client message).parcel)
      (service.meaning engine now message) := by
  -- That a message is handled is logged first, which changes nothing of what comes after.
  have hnoted (text : String) : (service.note .debug text).unlogged = service.unlogged := rfl
  cases message with
  | activate request =>
    have hfollows := alike_of_recast
      (fun service => service.activate engine now (Message.client (.activate request)).parcel.body)
      (fun _ service => activate_recast engine.follows_id now _ service)
      (hnoted "Handling message: activate")
    rw [handle_eq_activate rfl]
    exact hfollows.trans (alike_activate engine now request service)
  | deactivate hop =>
    have hfollows := alike_of_recast
      (fun service => (([] : List DaemonMessage), service.deactivate engine now (hop.getD 0)))
      (fun _ service => Prod.ext rfl (deactivate_recast engine.follows_id now (hop.getD 0) service))
      (hnoted "Handling message: deactivate")
    rw [handle_eq_deactivate rfl, hopHint_deactivate]
    exact hfollows.trans (alike_deactivate engine now hop service)
  | status =>
    have hfollows := alike_of_recast
      (fun service =>
        ([DaemonMessage.status (service.status engine now).1], (service.status engine now).2))
      (fun _ service => by rw [status_recast engine.follows_id]; rfl)
      (hnoted "Handling message: status")
    exact hfollows.trans (alike_status engine now service)
  | logs => exact ⟨rfl, rfl⟩
  | cleanLogs => exact ⟨rfl, rfl⟩
  | version => exact ⟨rfl, rfl⟩

/-- **Read as meant.** However a client's message is cut on its way, the service answers what the
message means, and does what it means, but for its log; a query for the state changes nothing, as
long as the engine changes nothing when it is asked. -/
theorem read_as_meant {message : ClientMessage} {chunks : List Bytes}
    (hchunks : chunks.flatten = message.encode) (engine : Engine σ) (now : String)
    (service : Service σ) :
    ∃ parcel, Brings chunks parcel ∧
      (service.handle engine now parcel).1 = (service.meaning engine now message).1 ∧
      (service.handle engine now parcel).2.unlogged =
        (service.meaning engine now message).2.unlogged ∧
      (message = .status → engine.LooksOnly →
        (service.handle engine now parcel).2.unlogged = service.unlogged) := by
  obtain ⟨hanswer, hservice⟩ := alike_handle engine now message service
  refine ⟨_, (Message.client message).brings_encode hchunks, hanswer, hservice, ?_⟩
  rintro rfl hlooks
  rw [hservice, meaning]
  split
  · have hsystem := hlooks.system_status service.core.controller
    simp only [unlogged, Controller.unlogged, hsystem]
  · rfl

/-- A query for the state, cut within its first word. -/
def queryCut : List Bytes :=
  cutAt 5 ClientMessage.status.encode

theorem read_as_meant_query :
    let service := withExit.mapSystem Transcript.system
    queryCut.flatten = ClientMessage.status.encode ∧ Memory.engine.LooksOnly ∧
      ∃ parcel, Brings queryCut parcel ∧
        (service.handle Memory.engine "now" parcel).1 = [.status ⟨true, some "10.0.0.1",
          some "10.0.0.2/32", some "then", some 0, some 0⟩] ∧
        (service.handle Memory.engine "now" parcel).2.unlogged = service.unlogged := by
  intro service
  have hcut : queryCut.flatten = ClientMessage.status.encode := flatten_cutAt _ _
  have hlooks := Memory.looksOnly_engine
  obtain ⟨parcel, hbrings, hanswer, -, hsame⟩ := read_as_meant hcut Memory.engine "now" service
  refine ⟨hcut, hlooks, parcel, hbrings, hanswer.trans ?_, hsame rfl hlooks⟩
  decide +kernel

end Service

end TunnelChain
