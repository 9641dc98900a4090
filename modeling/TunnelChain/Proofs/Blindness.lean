import TunnelChain.Control.Core
import TunnelChain.Engine.Linux
import TunnelChain.Engine.Memory

/-!
# Who does not look at the key

Tunnels that are the same but for their keys are built by the same steps. An engine that does not
look at the key answers these steps alike, and then both builds come to the same and are logged in
the same words.
-/

namespace TunnelChain

/-- The tunnel with another key. -/
def Tunnel.withKey (tunnel : Tunnel) (key : String) : Tunnel :=
  { tunnel with privateKey := key }

/-- The call with another key for its tunnel, if it has one. -/
def Call.withKey (key : String) : Call → Call
  | .addInterface tunnel => .addInterface (tunnel.withKey key)
  | .configureInterface tunnel => .configureInterface (tunnel.withKey key)
  | .addInterfaceIPs tunnel => .addInterfaceIPs (tunnel.withKey key)
  | .setMTUAndUp tunnel => .setMTUAndUp (tunnel.withKey key)
  | call => call

namespace Tunnel

variable (tunnel : Tunnel) (key : String)

@[simp]
theorem hop_withKey : (tunnel.withKey key).hop = tunnel.hop := rfl

@[simp]
theorem name_withKey : (tunnel.withKey key).name = tunnel.name := rfl

/-- The log does not show keys. -/
@[simp]
theorem summary_withKey : (tunnel.withKey key).summary = tunnel.summary := rfl

@[simp]
theorem buildScript_withKey :
    (tunnel.withKey key).buildScript = tunnel.buildScript.map (Call.withKey key) := by
  have hroutes : tunnel.ranges.map (Call.addRoutePrefix tunnel.name) =
      (tunnel.ranges.map (Call.addRoutePrefix tunnel.name)).map (Call.withKey key) := by
    rw [List.map_map]
    rfl
  rw [buildScript, buildScript, List.map_append, List.map_append, List.map_append, ← hroutes,
    apply_ite (List.map _)]
  rfl

end Tunnel

/-- Whether two results come to the same and leave states that stand in a relation. -/
inductive Together {α β : Type} (relation : β → β → Prop) : α × β → α × β → Prop where
  | intro (answer : α) {state twin : β} (h : relation state twin) :
      Together relation (answer, state) (answer, twin)

theorem Together.elim {α β : Type} {relation : β → β → Prop} {result twin : α × β}
    (h : Together relation result twin) : result.1 = twin.1 ∧ relation result.2 twin.2 := by
  cases h with
  | intro answer h => exact ⟨rfl, h⟩

variable {σ α : Type}

/-- Whether two outcomes answer and log the same, and leave systems that are alike. -/
structure Outcome.Alike (alike : σ → σ → Prop) (outcome other : Outcome σ α) : Prop where
  answer : outcome.answer = other.answer
  log : outcome.log = other.log
  system : alike outcome.system other.system

/-- Whether an engine does not look at keys; systems are alike if at most a key makes a difference
between them. -/
structure Engine.Blind (engine : Engine σ) (alike : σ → σ → Prop) : Prop where
  refl : ∀ system, alike system system
  perform : ∀ (call : Call) (key : String) {system twin : σ}, alike system twin →
    (engine.perform call system).Alike alike (engine.perform (call.withKey key) twin)
  hasInterface : ∀ (name : String) {system twin : σ}, alike system twin →
    (engine.hasInterface name system).Alike alike (engine.hasInterface name twin)

/-! ## Building a tunnel -/

namespace Controller

variable {engine : Engine σ} {alike : σ → σ → Prop} {past twinPast : List LogLine}
  {controller twin : Controller σ}

/-- Whether two controllers have raised the same events, and have logged the same since each had
logged its past. -/
structure InStep (alike : σ → σ → Prop) (past twinPast : List LogLine)
    (controller twin : Controller σ) : Prop where
  system : alike controller.system twin.system
  events : controller.events = twin.events
  log : ∃ lines, controller.log = past ++ lines ∧ twin.log = twinPast ++ lines

section Steps

variable (h : InStep alike past twinPast controller twin)

include h

theorem InStep.logging (lines : List LogLine) :
    InStep alike past twinPast { controller with log := controller.log ++ lines }
      { twin with log := twin.log ++ lines } where
  system := h.system
  events := h.events
  log := by
    obtain ⟨before, hlog, htwin⟩ := h.log
    exact ⟨before ++ lines, by rw [hlog, List.append_assoc], by rw [htwin, List.append_assoc]⟩

theorem InStep.note (level : Level) (text : String) :
    InStep alike past twinPast (controller.note level text) (twin.note level text) :=
  h.logging [⟨level, text⟩]

theorem InStep.emit (event : HopEvent) :
    InStep alike past twinPast (controller.emit event) (twin.emit event) where
  system := h.system
  events := congrArg (· ++ [event]) h.events
  log := (h.note .debug ("Event: " ++ event.summary)).log

theorem InStep.noteFailure (failure : Failure) (call : Call) (key : String) :
    InStep alike past twinPast (controller.noteFailure failure call)
      (twin.noteFailure failure (call.withKey key)) := by
  cases call with
  | addRoutePrefix name range => exact h.note _ _
  | _ => exact h

theorem together_ask {question twinQuestion : σ → Outcome σ α}
    (hquestion : (question controller.system).Alike alike (twinQuestion twin.system)) :
    Together (InStep alike past twinPast) (controller.ask question) (twin.ask twinQuestion) := by
  obtain ⟨hanswer, hlog, hsystem⟩ := hquestion
  unfold ask
  dsimp only
  rw [hanswer, hlog]
  exact .intro _ { h.logging (twinQuestion twin.system).log with system := hsystem }

end Steps

variable (hblind : engine.Blind alike)

include hblind

theorem together_performAll (h : InStep alike past twinPast controller twin) (key : String)
    (calls : List Call) :
    Together (InStep alike past twinPast) (controller.performAll engine calls)
      (twin.performAll engine (calls.map (Call.withKey key))) := by
  induction calls generalizing controller twin with
  | nil => exact .intro _ h
  | cons call rest ih =>
    have hask := together_ask h (hblind.perform call key h.system)
    rw [List.map_cons]
    unfold performAll
    refine hask.casesOn fun answer {_ _} hafter => ?_
    cases answer with
    | ok done => exact ih hafter
    | error failure => exact .intro _ (hafter.noteFailure failure call key)

theorem together_removeStale (h : InStep alike past twinPast controller twin) (name : String) :
    Together (InStep alike past twinPast) (controller.removeStale engine name)
      (twin.removeStale engine name) := by
  have hask := together_ask h (hblind.hasInterface name h.system)
  unfold removeStale
  refine hask.casesOn fun found {after twinAfter} hfound => ?_
  cases found with
  | false => exact .intro _ hfound
  | true =>
    have hdeleted (text : String) : Together (InStep alike past twinPast)
        (performAll engine (after.note .warn text) [.deleteInterface name])
        (performAll engine (twinAfter.note .warn text) [.deleteInterface name]) :=
      together_performAll hblind (hfound.note .warn text) "" [.deleteInterface name]
    dsimp only
    refine (hdeleted _).casesOn fun answer {_ _} hafter => ?_
    cases answer with
    | ok done => exact .intro _ hafter
    | error failure => exact .intro _ hafter

theorem together_build (h : InStep alike past twinPast controller twin) (now : String)
    (tunnel : Tunnel) (key : String) :
    Together (InStep alike past twinPast) (controller.build engine now tunnel)
      (twin.build engine now (tunnel.withKey key)) := by
  have hstale := together_removeStale hblind
    (h.note .debug ("Bringing up " ++ tunnel.summary)) tunnel.name
  unfold build
  simp only [Tunnel.summary_withKey, Tunnel.name_withKey, Tunnel.buildScript_withKey,
    Tunnel.hop_withKey]
  refine hstale.casesOn fun answer {after twinAfter} hafter => ?_
  cases answer with
  | error error => exact .intro _ hafter
  | ok done =>
    have hbuilt := together_performAll hblind hafter key tunnel.buildScript
    dsimp only
    refine hbuilt.casesOn fun answer {built twinBuilt} hbuilt => ?_
    cases answer with
    | error failure => exact .intro _ hbuilt
    | ok done =>
      have hcommitted : InStep alike past twinPast (built.commit now tunnel)
          (twinBuilt.commit now (tunnel.withKey key)) :=
        ⟨hbuilt.system, hbuilt.events, hbuilt.log⟩
      exact .intro _ ((hcommitted.note .info _).emit (.connected tunnel.hop))

/-- A hop that is down comes up, or fails to, in the same way whatever the key is. -/
theorem together_activate (h : InStep alike past twinPast controller twin) (now : String)
    (tunnel : Tunnel) (key : String) (hdown : controller.chain.get? tunnel.hop = none)
    (htwin : twin.chain.get? tunnel.hop = none) :
    Together (InStep alike past twinPast) (controller.activate engine now tunnel)
      (twin.activate engine now (tunnel.withKey key)) := by
  have hnoted := h.note .info ("Activating interface " ++ tunnel.name)
  have hdown' : (controller.note .info ("Activating interface " ++ tunnel.name)).chain.get?
      tunnel.hop = none := hdown
  have htwin' : (twin.note .info ("Activating interface " ++ tunnel.name)).chain.get?
      tunnel.hop = none := htwin
  unfold activate
  simp only [Tunnel.name_withKey, Tunnel.hop_withKey, hdown', htwin']
  by_cases hlong : Naming.maxBytes < Utf8.size tunnel.name
  · rw [if_pos hlong, if_pos hlong]
    exact .intro _ hnoted
  · rw [if_neg hlong, if_neg hlong]
    exact together_build hblind hnoted now tunnel key

end Controller

/-! ## Engines that do not look at the key -/

namespace Memory

theorem perform_withKey (call : Call) (key : String) (memory : Memory) :
    perform (call.withKey key) memory = perform call memory := by
  cases call <;> rfl

theorem blind_engine : engine.Blind Eq where
  refl _ := rfl
  perform call key system twin hsystem := by
    subst hsystem
    exact ⟨congrArg _ (perform_withKey call key system).symm,
      congrArg _ (perform_withKey call key system).symm,
      congrArg _ (perform_withKey call key system).symm⟩
  hasInterface name system twin hsystem := by
    subst hsystem
    exact ⟨rfl, rfl, rfl⟩

end Memory

/-- The command with something else to read. -/
def Command.fed (input : Option String) (command : Command) : Command :=
  { command with input }

/-- The key is no part of the command that hands it over. -/
theorem Command.setPeer_withKey (tunnel : Tunnel) (key : String) (endpoint : Endpoint) :
    setPeer (tunnel.withKey key) endpoint = (setPeer tunnel endpoint).fed (some key) := rfl

/-- What a command reads is not logged. -/
theorem Command.line_fed (command : Command) (input : Option String) :
    (command.fed input).line = command.line := rfl

/-- The outcome of a command tells whether it was given something to read, but not what. -/
theorem Command.result_fed {command : Command} {input : Option String}
    (h : input.isSome = command.input.isSome) (reply : Reply) :
    (command.fed input).result reply = command.result reply := by
  unfold result fed
  dsimp only
  rw [h]

/-- Whether a command comes to the same whatever it reads; states are alike if at most what was read
makes a difference between them. -/
structure Runner.Blind {ρ : Type} (run : Runner ρ) (alike : ρ → ρ → Prop) : Prop where
  refl : ∀ state, alike state state
  run : ∀ (command : Command) (input : Option String) {state twin : ρ}, alike state twin →
    Together alike (run command state) (run (command.fed input) twin)

namespace Linux

variable {ρ : Type} {run : Runner ρ} {alike : ρ → ρ → Prop}

/-- Whether two systems differ at most behind their runner. -/
structure Alike (alike : ρ → ρ → Prop) (host twin : Linux ρ) : Prop where
  commands : alike host.commands twin.commands
  pinned : host.pinned = twin.pinned
  link : host.link = twin.link

namespace Work

variable {work twin : Work ρ}

/-- Whether two pieces of work have logged the same on systems that are alike. -/
structure InStep (alike : ρ → ρ → Prop) (work twin : Work ρ) : Prop where
  host : Linux.Alike alike work.host twin.host
  log : work.log = twin.log

theorem InStep.note (h : InStep alike work twin) (level : Level) (text : String) :
    InStep alike (work.note level text) (twin.note level text) :=
  ⟨h.host, congrArg (· ++ [LogLine.mk level text]) h.log⟩

theorem InStep.setPinned (h : InStep alike work twin) (pinned : Table String String) :
    InStep alike (work.setPinned pinned) (twin.setPinned pinned) :=
  ⟨{ h.host with pinned := rfl }, h.log⟩

theorem InStep.setLink (h : InStep alike work twin) (link : Option String) :
    InStep alike (work.setLink link) (twin.setLink link) :=
  ⟨{ h.host with link := rfl }, h.log⟩

variable (hblind : run.Blind alike) (h : InStep alike work twin)

include hblind h

theorem together_feed (command : Command) (input : Option String)
    (hinput : input.isSome = command.input.isSome) :
    Together (InStep alike) (work.submit run command) (twin.submit run (command.fed input)) := by
  have hnoted := h.note .debug ("Running " ++ command.line)
  have hrun := hblind.run command input hnoted.host.commands
  unfold submit
  rw [Command.line_fed]
  by_cases hnul : command.hasNul = true
  · have hnul' : (command.fed input).hasNul = true := hnul
    rw [if_pos hnul, if_pos hnul']
    exact .intro _ hnoted
  · have hnul' : ¬ (command.fed input).hasNul = true := hnul
    rw [if_neg hnul, if_neg hnul']
    dsimp only
    refine hrun.casesOn fun reply {_ _} hcommands => ?_
    rw [Command.result_fed hinput]
    exact .intro _ ⟨{ hnoted.host with commands := hcommands }, hnoted.log⟩

theorem together_submit (command : Command) :
    Together (InStep alike) (work.submit run command) (twin.submit run command) :=
  together_feed hblind h command command.input rfl

theorem together_submitAll (commands : List Command) :
    Together (InStep alike) (work.submitAll run commands) (twin.submitAll run commands) := by
  induction commands generalizing work twin with
  | nil => exact .intro _ h
  | cons command rest ih =>
    have hsubmitted := together_submit hblind h command
    unfold submitAll
    refine hsubmitted.casesOn fun answer {_ _} hafter => ?_
    cases answer with
    | ok output => exact ih hafter
    | error reason => exact .intro _ hafter

theorem inStep_unpin (name : String) :
    InStep alike (work.unpin run name) (twin.unpin run name) := by
  unfold unpin
  rw [h.host.pinned]
  cases twin.host.pinned.get? name with
  | none => exact h
  | some route =>
    have hremoved :=
      together_submit hblind (h.setPinned (twin.host.pinned.erase name)) (.removeRoute route)
    dsimp only
    refine hremoved.casesOn fun answer {_ _} hafter => ?_
    cases answer with
    | ok output => exact hafter
    | error reason => exact hafter.note _ _

theorem inStep_pin (name : String) (peer : Ip) :
    InStep alike (work.pin run name peer) (twin.pin run name peer) := by
  have hroute := together_submit hblind h (.getRoute peer)
  unfold pin
  refine hroute.casesOn fun answer {asked twinAsked} hasked => ?_
  cases answer with
  | error reason => exact hasked.note _ _
  | ok printed =>
    dsimp only
    cases RouteVia.ofText? printed with
    | none => exact hasked.note _ _
    | some via =>
      dsimp only
      rw [hasked.host.pinned]
      by_cases hpinned : twinAsked.host.pinned.contains via.device = true
      · rw [if_pos hpinned, if_pos hpinned]
        exact hasked
      · rw [if_neg hpinned, if_neg hpinned]
        have hreplaced := together_submit hblind hasked (.replaceHostRoute peer via)
        refine hreplaced.casesOn fun answer {replaced twinReplaced} hafter => ?_
        cases answer with
        | error reason => exact hafter.note _ _
        | ok output =>
          dsimp only
          rw [hafter.host.pinned]
          exact hafter.setPinned _

end Work

section Calls

variable {work twin : Work ρ} (hblind : run.Blind alike) (h : Work.InStep alike work twin)

include hblind h

open Work

/-- The key goes to the one command that sets the peer, and this reads it. -/
theorem together_configure (settings : LinuxSettings) (tunnel : Tunnel) (key : String) :
    Together (InStep alike) (configure settings run tunnel work)
      (configure settings run (tunnel.withKey key) twin) := by
  unfold configure
  simp only [Command.setPeer_withKey]
  dsimp only [Tunnel.withKey]
  -- Looking the server up asks nothing of the system.
  generalize Search.resolve tunnel.serverIpv4 tunnel.port settings.retry _ = search
  have hsearched : InStep alike ⟨work.host, work.log ++ search.log⟩
      ⟨twin.host, twin.log ++ search.log⟩ := ⟨h.host, congrArg (· ++ search.log) h.log⟩
  cases search.result with
  | error error => exact .intro _ hsearched
  | ok endpoint =>
    have hlisted := together_submit hblind hsearched (.showPeers tunnel.name)
    dsimp only
    refine hlisted.casesOn fun answer {listed twinListed} hlisted => ?_
    cases answer with
    | error reason => exact .intro _ hlisted
    | ok listing =>
      have hremoved := together_submitAll hblind hlisted
        ((stalePeers listing tunnel.publicKey).map (.removePeer tunnel.name))
      dsimp only
      refine hremoved.casesOn fun answer {removed twinRemoved} hremoved => ?_
      cases answer with
      | error reason => exact .intro _ hremoved
      | ok done =>
        have hpinned :=
          inStep_pin hblind (inStep_unpin hblind hremoved tunnel.name) tunnel.name endpoint.ip
        have hset := together_feed hblind hpinned (.setPeer tunnel endpoint) (some key) rfl
        dsimp only
        refine hset.casesOn fun answer {_ _} hset => ?_
        cases answer with
        | error reason => exact .intro _ hset
        | ok output => exact .intro _ (hset.note _ _)

theorem together_updateResolvers (name : String) (resolvers : List String) :
    Together (InStep alike) (updateResolvers run name resolvers work)
      (updateResolvers run name resolvers twin) := by
  have hset := together_submitAll hblind h [.setResolvers name resolvers, .claimDomains name]
  unfold updateResolvers
  refine hset.casesOn fun answer {_ _} hafter => ?_
  cases answer with
  | error reason => exact .intro _ hafter
  | ok done => exact .intro _ (hafter.setLink _)

theorem together_restoreResolvers :
    Together (InStep alike) (restoreResolvers run work) (restoreResolvers run twin) := by
  unfold restoreResolvers
  rw [h.host.link]
  cases twin.host.link with
  | none => exact .intro _ h
  | some link => exact together_submitAll hblind (h.setLink none) [.revertResolvers link]

theorem together_deleteInterface (name : String) :
    Together (InStep alike) (deleteInterface run name work) (deleteInterface run name twin) := by
  have hdeleted := together_submit hblind h (.deleteLink name)
  unfold deleteInterface
  refine hdeleted.casesOn fun answer {_ _} hafter => ?_
  cases answer with
  | error reason => exact .intro _ hafter
  | ok output => exact .intro _ (inStep_unpin hblind hafter name)

theorem together_carryOut (settings : LinuxSettings) (call : Call) (key : String) :
    Together (InStep alike) (carryOut settings run work call)
      (carryOut settings run twin (call.withKey key)) := by
  cases call with
  | addInterface tunnel => exact together_submitAll hblind h _
  | configureInterface tunnel => exact together_configure hblind h settings tunnel key
  | deleteInterface name => exact together_deleteInterface hblind h name
  | addRoutePrefix name range => exact together_submitAll hblind h _
  | updateResolvers name resolvers => exact together_updateResolvers hblind h name resolvers
  | restoreResolvers => exact together_restoreResolvers hblind h
  | addInterfaceIPs tunnel => exact together_submitAll hblind h _
  | setMTUAndUp tunnel => exact together_submitAll hblind h _

end Calls

theorem alike_outcome {α β : Type} (finish : Except String α → β)
    {result twin : Except String α × Work ρ} (h : Together (Work.InStep alike) result twin) :
    (outcome finish result).Alike (Alike alike) (outcome finish twin) := by
  obtain ⟨answer, hafter⟩ := h
  exact ⟨rfl, hafter.log, hafter.host⟩

/-- The engine for Linux does not look at keys if what its commands come to does not depend on what
they read. -/
theorem blind_engine (settings : LinuxSettings) (hblind : run.Blind alike) :
    (engine settings run).Blind (Alike alike) where
  refl host := ⟨hblind.refl _, rfl, rfl⟩
  perform call key host twin hhost := by
    have hstep : (call.withKey key).step = call.step := by cases call <;> rfl
    have hwork : Work.InStep alike ⟨host, []⟩ ⟨twin, []⟩ := ⟨hhost, rfl⟩
    have hcarried := together_carryOut hblind hwork settings call key
    change Outcome.Alike _ _ (outcome (·.mapError (Failure.mk (call.withKey key).step)) _)
    rw [hstep]
    exact alike_outcome _ hcarried
  hasInterface name host twin hhost := by
    have hwork : Work.InStep alike ⟨host, []⟩ ⟨twin, []⟩ := ⟨hhost, rfl⟩
    exact alike_outcome _ (Work.together_submit hblind hwork (.showLink name))

end Linux

end TunnelChain
