import TunnelChain.Proofs.Operation
import TunnelChain.Proofs.Transcript
import TunnelChain.Service.Dispatch

/-!
# What a controller goes by

A controller knows its system only by what the engine answers, and never reads its log. So whatever
is written down beside a system, or left out of it, and whatever has been logged before, changes
nothing of what happens.
-/

namespace TunnelChain

variable {σ τ : Type}

/-- An engine that answers of the image of a system what the other answers of the system itself, and
does the same to it. -/
structure Engine.Follows (f : σ → τ) (engine : Engine σ) (image : Engine τ) : Prop where
  name : image.name = engine.name
  perform : ∀ call system, image.perform call (f system) = (engine.perform call system).mapSystem f
  hasInterface : ∀ name system,
    image.hasInterface name (f system) = (engine.hasInterface name system).mapSystem f
  throughput : ∀ name system,
    image.throughput name (f system) = (engine.throughput name system).mapSystem f
  supportsSwitching : ∀ system, image.supportsSwitching (f system) = engine.supportsSwitching system
  isAlive : ∀ system, image.isAlive (f system) = engine.isAlive system

theorem Engine.follows_id (engine : Engine σ) : engine.Follows id engine :=
  ⟨rfl, fun _ _ => rfl, fun _ _ => rfl, fun _ _ => rfl, fun _ => rfl, fun _ => rfl⟩

theorem Engine.transcribed_follows (engine : Engine σ) :
    engine.transcribed.Follows Transcript.system engine :=
  ⟨rfl, fun _ _ => rfl, fun _ _ => rfl, fun _ _ => rfl, fun _ => rfl, fun _ => rfl⟩

theorem Engine.recorded_follows (engine : Engine σ) :
    engine.recorded.Follows Recorded.system engine :=
  ⟨rfl, fun _ _ => rfl, fun _ _ => rfl, fun _ _ => rfl, fun _ => rfl, fun _ => rfl⟩

namespace Controller

/-- The controller over the image of its system, with log lines that came before its own. -/
def recast (f : σ → τ) (earlier : List LogLine) (controller : Controller σ) : Controller τ :=
  ⟨controller.chain, f controller.system, controller.events, earlier ++ controller.log⟩

def mapSystem (f : σ → τ) (controller : Controller σ) : Controller τ :=
  ⟨controller.chain, f controller.system, controller.events, controller.log⟩

variable {f : σ → τ} {engine : Engine σ} {image : Engine τ} {earlier : List LogLine}

theorem chain_recast (controller : Controller σ) :
    (controller.recast f earlier).chain = controller.chain := rfl

theorem system_recast (controller : Controller σ) :
    (controller.recast f earlier).system = f controller.system := rfl

theorem note_recast (controller : Controller σ) (level : Level) (text : String) :
    (controller.recast f earlier).note level text =
      (controller.note level text).recast f earlier := by
  simp only [note, recast, List.append_assoc]

theorem emit_recast (controller : Controller σ) (event : HopEvent) :
    (controller.recast f earlier).emit event = (controller.emit event).recast f earlier := by
  simp only [emit, note, recast, List.append_assoc]

theorem commit_recast (controller : Controller σ) (now : String) (tunnel : Tunnel) :
    (controller.recast f earlier).commit now tunnel =
      (controller.commit now tunnel).recast f earlier := rfl

theorem drop_recast (controller : Controller σ) (hop : HopIndex) :
    (controller.recast f earlier).drop hop = (controller.drop hop).recast f earlier := rfl

theorem announceDown_recast (announce : Bool) (hop : HopIndex) (controller : Controller σ) :
    announceDown announce hop (controller.recast f earlier) =
      (announceDown announce hop controller).recast f earlier := by
  cases announce with
  | false => rfl
  | true => exact emit_recast controller _

theorem ask_recast {α : Type} {question : σ → Outcome σ α} {question' : τ → Outcome τ α}
    (h : ∀ system, question' (f system) = (question system).mapSystem f)
    (controller : Controller σ) :
    (controller.recast f earlier).ask question' =
      (controller.ask question).map id (recast f earlier) := by
  unfold ask
  rw [system_recast, h]
  simp only [recast, Outcome.mapSystem, List.append_assoc, Prod.map_apply, id]

theorem noteFailure_recast (controller : Controller σ) (failure : Failure) (call : Call) :
    (controller.recast f earlier).noteFailure failure call =
      (controller.noteFailure failure call).recast f earlier := by
  cases call with
  | addRoutePrefix name range => exact note_recast controller _ _
  | _ => rfl

theorem performAll_recast (h : engine.Follows f image) (controller : Controller σ)
    (calls : List Call) :
    performAll image (controller.recast f earlier) calls =
      (performAll engine controller calls).map id (recast f earlier) := by
  induction calls generalizing controller with
  | nil => rfl
  | cons call rest ih =>
    simp only [performAll, ask_recast (h.perform call)]
    cases controller.ask (engine.perform call) with
    | mk answer next =>
      cases answer with
      | ok done => exact ih next
      | error failure => exact Prod.ext rfl (noteFailure_recast next failure call)

theorem removeStale_recast (h : engine.Follows f image) (controller : Controller σ)
    (name : String) :
    removeStale image (controller.recast f earlier) name =
      (removeStale engine controller name).map id (recast f earlier) := by
  simp only [removeStale, ask_recast (h.hasInterface name)]
  cases controller.ask (engine.hasInterface name) with
  | mk found next =>
    cases found with
    | false => rfl
    | true =>
      dsimp only [Prod.map_apply, id]
      rw [note_recast, performAll_recast h]
      cases performAll engine
          (next.note .warn ("Stale interface " ++ name ++ " found, removing it"))
          [.deleteInterface name] with
      | mk result last => cases result <;> rfl

theorem build_recast (h : engine.Follows f image) (now : String) (tunnel : Tunnel)
    (controller : Controller σ) :
    build image now tunnel (controller.recast f earlier) =
      (build engine now tunnel controller).map id (recast f earlier) := by
  unfold build
  rw [note_recast, removeStale_recast h]
  cases removeStale engine (controller.note .debug ("Bringing up " ++ tunnel.summary))
    tunnel.name with
  | mk cleared next =>
    cases cleared with
    | error error => rfl
    | ok done =>
      dsimp only [Prod.map_apply, id]
      rw [performAll_recast h]
      cases performAll engine next tunnel.buildScript with
      | mk result last =>
        cases result with
        | error failure => rfl
        | ok done =>
          dsimp only [Prod.map_apply, id]
          rw [commit_recast, note_recast, emit_recast]

theorem switch_recast (h : engine.Follows f image) (now : String) (tunnel : Tunnel)
    (controller : Controller σ) :
    switch image now tunnel (controller.recast f earlier) =
      (switch engine now tunnel controller).map id (recast f earlier) := by
  unfold switch
  rw [performAll_recast h]
  cases performAll engine controller [.configureInterface tunnel] with
  | mk result next =>
    cases result with
    | error failure => rfl
    | ok done =>
      dsimp only [Prod.map_apply, id]
      rw [commit_recast, emit_recast]

theorem teardown_recast (h : engine.Follows f image) (hop : HopIndex) (name : String)
    (announce : Bool) (controller : Controller σ) :
    teardown image hop name announce (controller.recast f earlier) =
      (teardown engine hop name announce controller).map id (recast f earlier) := by
  simp only [teardown, ask_recast (h.hasInterface name)]
  cases controller.ask (engine.hasInterface name) with
  | mk found next =>
    cases found with
    | false =>
      dsimp only [Prod.map_apply, id]
      rw [note_recast, drop_recast, announceDown_recast]
    | true =>
      dsimp only [Prod.map_apply, id]
      rw [performAll_recast h]
      cases performAll engine next [.deleteInterface name] with
      | mk result last =>
        cases result with
        | error failure => rfl
        | ok done =>
          dsimp only [Prod.map_apply, id]
          rw [drop_recast, note_recast, announceDown_recast]

theorem deactivate_recast (h : engine.Follows f image) (hop : HopIndex) (announce : Bool)
    (controller : Controller σ) :
    deactivate image hop announce (controller.recast f earlier) =
      (deactivate engine hop announce controller).map id (recast f earlier) := by
  unfold deactivate
  rw [chain_recast]
  cases controller.chain.get? hop with
  | none => exact Prod.ext rfl (note_recast controller _ _)
  | some active =>
    dsimp only
    rw [note_recast, performAll_recast h]
    cases performAll engine
        (controller.note .info ("Deactivating interface " ++ active.tunnel.name))
        (if hop = 0 then [.restoreResolvers] else []) with
    | mk result next =>
      cases result with
      | error failure => rfl
      | ok done => exact teardown_recast h hop active.tunnel.name announce next

theorem rebuild_recast (h : engine.Follows f image) (now : String) (tunnel : Tunnel)
    (controller : Controller σ) :
    rebuild image now tunnel (controller.recast f earlier) =
      (rebuild engine now tunnel controller).map id (recast f earlier) := by
  unfold rebuild
  rw [deactivate_recast h]
  cases deactivate engine tunnel.hop false controller with
  | mk result next =>
    cases result with
    | ok done => exact build_recast h now tunnel next
    | error error =>
      cases error with
      | interfaceMissing name => exact build_recast h now tunnel next
      | _ => rfl

theorem activate_recast (h : engine.Follows f image) (now : String) (tunnel : Tunnel)
    (controller : Controller σ) :
    activate image now tunnel (controller.recast f earlier) =
      (activate engine now tunnel controller).map id (recast f earlier) := by
  unfold activate
  dsimp only
  rw [note_recast]
  generalize controller.note .info ("Activating interface " ++ tunnel.name) = noted
  split
  · rfl
  · rw [chain_recast]
    cases noted.chain.get? tunnel.hop with
    | none => exact build_recast h now tunnel noted
    | some current =>
      dsimp only
      rw [system_recast, h.supportsSwitching, note_recast, note_recast]
      split
      · exact switch_recast h now tunnel (noted.note _ _)
      · exact rebuild_recast h now tunnel (noted.note _ _)

theorem deactivateEach_recast (h : engine.Follows f image) (announce : Bool)
    (controller : Controller σ) (hops : List HopIndex) :
    deactivateEach image announce (controller.recast f earlier) hops =
      (deactivateEach engine announce controller hops).recast f earlier := by
  induction hops generalizing controller with
  | nil => rfl
  | cons hop rest ih =>
    unfold deactivateEach
    rw [deactivate_recast h]
    cases deactivate engine hop announce controller with
    | mk result next =>
      cases result with
      | ok done => exact ih next
      | error error =>
        dsimp only [Prod.map_apply, id]
        rw [note_recast]
        exact ih (next.note _ _)

theorem deactivateAll_recast (h : engine.Follows f image) (announce : Bool)
    (controller : Controller σ) :
    deactivateAll image announce (controller.recast f earlier) =
      (deactivateAll engine announce controller).recast f earlier :=
  deactivateEach_recast h announce controller controller.chain.keys

theorem status_recast (h : engine.Follows f image) (controller : Controller σ) :
    status image (controller.recast f earlier) =
      (status engine controller).map id (recast f earlier) := by
  unfold status
  rw [chain_recast]
  cases controller.chain.get? 0 with
  | none => rfl
  | some active =>
    dsimp only
    rw [ask_recast (h.hasInterface active.tunnel.name)]
    cases controller.ask (engine.hasInterface active.tunnel.name) with
    | mk found next =>
      cases found with
      | false => exact Prod.ext rfl (note_recast next _ _)
      | true =>
        dsimp only [Prod.map_apply, id]
        rw [ask_recast (h.throughput active.tunnel.name)]
        cases next.ask (engine.throughput active.tunnel.name) with
        | mk answer last =>
          cases answer with
          | ok counters => rfl
          | error failure => exact Prod.ext rfl (note_recast last _ _)

theorem checkLiveness_recast (h : engine.Follows f image) (controller : Controller σ) :
    checkLiveness image (controller.recast f earlier) =
      (checkLiveness engine controller).map id (recast f earlier) := by
  unfold checkLiveness
  rw [chain_recast, system_recast, h.isAlive, h.name]
  split
  · rfl
  · dsimp only
    rw [note_recast, emit_recast, deactivateAll_recast h]
    rfl

theorem operate_mapSystem (h : engine.Follows f image) (naming : Naming)
    (controller : Controller σ) (operation : Operation) :
    operate image naming (controller.mapSystem f) operation =
      (operate engine naming controller operation).mapSystem f := by
  change operate image naming (controller.recast f []) operation =
    (operate engine naming controller operation).recast f []
  cases operation with
  | activate now body =>
    cases hbody : Tunnel.ofBody naming.name body with
    | error error => rw [operate_activate_error hbody, operate_activate_error hbody]
    | ok tunnel =>
      rw [operate_activate_ok hbody, operate_activate_ok hbody, activate_recast h]
      rfl
  | deactivate hop announce =>
    exact congrArg Prod.snd (deactivate_recast h hop announce controller)
  | deactivateAll announce => exact deactivateAll_recast h announce controller
  | checkLiveness => exact congrArg Prod.snd (checkLiveness_recast h controller)

end Controller

namespace Core

def recast (f : σ → τ) (earlier : List LogLine) (core : Core σ) : Core τ :=
  ⟨core.controller.recast f earlier, core.isRunning, core.fatal⟩

def mapSystem (f : σ → τ) (core : Core σ) : Core τ :=
  ⟨core.controller.mapSystem f, core.isRunning, core.fatal⟩

variable {f : σ → τ} {engine : Engine σ} {image : Engine τ} {earlier : List LogLine}

theorem note_recast (core : Core σ) (level : Level) (text : String) :
    (core.recast f earlier).note level text = (core.note level text).recast f earlier :=
  congrArg (Core.mk · core.isRunning core.fatal) (Controller.note_recast core.controller level text)

theorem halt_recast (core : Core σ) :
    (core.recast f earlier).halt = core.halt.recast f earlier :=
  note_recast { core with isRunning := false } _ _

theorem survive_recast (core : Core σ) (error : OperationError) :
    (core.recast f earlier).survive error = (core.survive error).recast f earlier := by
  unfold survive
  split
  · refine (congrArg halt ?_).trans (halt_recast _)
    exact note_recast { core with fatal := some error.message } _ _
  · rfl

theorem carryOut_recast (h : engine.Follows f image) (now : String) (core : Core σ)
    (request : Request) :
    carryOut image now (core.recast f earlier) request =
      (carryOut engine now core request).map id (recast f earlier) := by
  cases request with
  | activate tunnel =>
    unfold carryOut
    dsimp only [recast]
    rw [Controller.activate_recast h]
    cases core.controller.activate engine now tunnel with
    | mk result controller =>
      cases result with
      | ok done => rfl
      | error error => exact Prod.ext rfl (survive_recast { core with controller } error)
  | deactivate hop =>
    unfold carryOut
    dsimp only [recast]
    rw [Controller.deactivate_recast h]
    rfl
  | status =>
    unfold carryOut
    dsimp only [recast]
    rw [Controller.status_recast h]
    rfl
  | shutdown =>
    unfold carryOut
    dsimp only [recast]
    rw [Controller.deactivateAll_recast h]
    exact Prod.ext rfl
      (halt_recast { core with controller := core.controller.deactivateAll engine true })

theorem execute_recast (h : engine.Follows f image) (now : String) (core : Core σ)
    (request : Request) :
    execute image now (core.recast f earlier) request =
      (execute engine now core request).map id (recast f earlier) := by
  unfold execute
  rw [show (core.recast f earlier).isRunning = core.isRunning from rfl]
  split
  · exact carryOut_recast h now core request
  · rfl

theorem poll_mapSystem (h : engine.Follows f image) (core : Core σ) :
    poll image (core.mapSystem f) = (poll engine core).mapSystem f := by
  unfold poll
  rw [show (core.mapSystem f).isRunning = core.isRunning from rfl]
  split
  · have hlive : (core.controller.recast f []).checkLiveness image =
        (core.controller.checkLiveness engine).map id (Controller.recast f []) :=
      Controller.checkLiveness_recast h core.controller
    exact congrArg (fun result => Core.mk result.2 core.isRunning core.fatal) hlive
  · rfl

end Core

namespace Service

def recast (f : σ → τ) (earlier : List LogLine) (service : Service σ) : Service τ :=
  ⟨service.core.recast f earlier, service.naming, service.logs⟩

def mapSystem (f : σ → τ) (service : Service σ) : Service τ :=
  ⟨service.core.mapSystem f, service.naming, service.logs⟩

variable {f : σ → τ} {engine : Engine σ} {image : Engine τ} {earlier : List LogLine}

theorem note_recast (service : Service σ) (level : Level) (text : String) :
    (service.recast f earlier).note level text = (service.note level text).recast f earlier :=
  congrArg (Service.mk · service.naming service.logs) (Core.note_recast service.core level text)

theorem request_recast (h : engine.Follows f image) (now : String) (asked : Request)
    (service : Service σ) :
    request image now asked (service.recast f earlier) =
      (request engine now asked service).map id (recast f earlier) := by
  unfold request
  dsimp only [recast]
  rw [Core.execute_recast h]
  rfl

theorem activate_recast (h : engine.Follows f image) (now : String) (body : Json)
    (service : Service σ) :
    activate image now body (service.recast f earlier) =
      (activate engine now body service).map id (recast f earlier) := by
  unfold activate
  rw [show (service.recast f earlier).naming = service.naming from rfl]
  cases Tunnel.ofBody service.naming.name body with
  | error error => exact Prod.ext rfl (note_recast service _ _)
  | ok tunnel =>
    dsimp only
    rw [request_recast h]
    cases request engine now (.activate tunnel) service with
    | mk answer next =>
      cases answer with
      | ok answer => rfl
      | error error => exact Prod.ext rfl (note_recast next _ _)

theorem deactivate_recast (h : engine.Follows f image) (now : String) (hop : HopIndex)
    (service : Service σ) :
    deactivate image now hop (service.recast f earlier) =
      (deactivate engine now hop service).recast f earlier := by
  unfold deactivate
  rw [request_recast h]
  cases request engine now (.deactivate hop) service with
  | mk answer next =>
    cases answer with
    | ok answer => rfl
    | error error => exact note_recast next _ _

theorem status_recast (h : engine.Follows f image) (now : String) (service : Service σ) :
    status image now (service.recast f earlier) =
      (status engine now service).map id (recast f earlier) := by
  unfold status
  rw [request_recast h]
  cases request engine now .status service with
  | mk answer next =>
    cases answer with
    | ok answer => cases answer <;> rfl
    | error error => exact Prod.ext rfl (note_recast next _ _)

theorem handle_recast (h : engine.Follows f image) (now : String) (parcel : Parcel)
    (service : Service σ) :
    handle image now parcel (service.recast f earlier) =
      (handle engine now parcel service).map id (recast f earlier) := by
  unfold handle
  dsimp only
  rw [note_recast]
  generalize service.note .debug ("Handling message: " ++ parcel.kind) = noted
  split
  · exact activate_recast h now parcel.body noted
  · exact Prod.ext rfl (deactivate_recast h now (hopHint parcel.body) noted)
  · rw [status_recast h]
    rfl
  · rfl
  · rfl
  · rfl
  · exact Prod.ext rfl (note_recast noted _ _)

/-- Whatever is asked, the service over the image reacts as the other does. -/
theorem react_mapSystem (h : engine.Follows f image) (now : String) (parcel : Parcel)
    (service : Service σ) :
    react image now parcel (service.mapSystem f) =
      ⟨(react engine now parcel service).replies, (react engine now parcel service).events,
        (react engine now parcel service).state.mapSystem f⟩ := by
  have hhandle : handle image now parcel (service.recast f []) =
      (handle engine now parcel service).map id (recast f []) := handle_recast h now parcel service
  unfold react
  rw [show service.mapSystem f = service.recast f [] from rfl, hhandle]
  rfl

end Service

end TunnelChain
