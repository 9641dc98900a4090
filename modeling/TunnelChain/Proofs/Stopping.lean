import TunnelChain.Proofs.Reckoning
import TunnelChain.Proofs.Rejection

/-!
# How a core stops

The commands of all senders wait in one queue, and the core takes them one after another. Three
things make it stop, and it stops for good: what still waits is refused and so is what is sent
later, nothing more is asked of the system, and nothing more is told. Messages are answered all the
same.
-/

namespace TunnelChain

variable {σ τ : Type}

/-- A core with the commands that wait for it, the oldest first, and the answers so far. Commands
are told apart by values of `τ`. -/
structure CommandQueue (σ τ : Type) where
  core : Core σ
  pending : List (τ × Request)
  answers : List (τ × Except OperationError Answer)

namespace CommandQueue

/-- What can happen next: a command is sent, the core takes the first that waits, polls its engine,
or finds that there is nobody left to send any, and somebody else can change the system. -/
inductive Act (σ τ : Type) where
  | send (tag : τ) (request : Request)
  | take (now : String)
  | poll
  | desert
  | strike (change : σ → σ)

def Act.command? : Act σ τ → Option (τ × Request)
  | .send tag request => some (tag, request)
  | _ => none

def refused (command : τ × Request) : τ × Except OperationError Answer :=
  (command.1, .error .coreStopped)

/-- What waits for a core that has stopped is dropped, which its sender takes for a refusal. -/
def settle (queue : CommandQueue σ τ) : CommandQueue σ τ :=
  if queue.core.isRunning then queue
  else { queue with pending := [], answers := queue.answers ++ queue.pending.map refused }

def strike (change : σ → σ) (queue : CommandQueue (Transcript σ) τ) :
    CommandQueue (Transcript σ) τ :=
  let controller := queue.core.controller
  let system := { controller.system with system := change controller.system.system }
  { queue with core := { queue.core with controller := { controller with system } } }

def step (engine : Engine σ) (queue : CommandQueue (Transcript σ) τ) :
    Act σ τ → CommandQueue (Transcript σ) τ
  | .send tag request => settle { queue with pending := queue.pending ++ [(tag, request)] }
  | .take now =>
    match queue.pending with
    | [] => queue
    | (tag, request) :: rest =>
      let (answer, core) := queue.core.execute engine.transcribed now request
      settle ⟨core, rest, queue.answers ++ [(tag, answer)]⟩
  | .poll => { queue with core := queue.core.poll engine.transcribed }
  | .desert =>
    match queue.pending with
    | [] => { queue with core := queue.core.abandon engine.transcribed }
    | _ => queue
  | .strike change => queue.strike change

def run (engine : Engine σ) (queue : CommandQueue (Transcript σ) τ) (acts : List (Act σ τ)) :
    CommandQueue (Transcript σ) τ :=
  acts.foldl (step engine) queue

theorem run_concat (engine : Engine σ) (queue : CommandQueue (Transcript σ) τ)
    (acts : List (Act σ τ)) (act : Act σ τ) :
    queue.run engine (acts ++ [act]) = (queue.run engine acts).step engine act := by
  simp only [run, List.foldl_append, List.foldl_cons, List.foldl_nil]

/-- The ways in which an act stops a core that runs: the answers that are given over it, and the
reason that is published. -/
inductive Stops (engine : Engine σ) (queue : CommandQueue (Transcript σ) τ) :
    Act σ τ → List (τ × Except OperationError Answer) → Option String → Prop where
  | stale {now name : String} {tag : τ} {tunnel : Tunnel} {failure : Failure}
      {rest : List (τ × Request)} (hpending : queue.pending = (tag, .activate tunnel) :: rest)
      (hstale : (queue.core.controller.activate engine.transcribed now tunnel).1 =
        .error (.staleInterface name failure)) :
      Stops engine queue (.take now)
        ((tag, .error (.staleInterface name failure)) :: rest.map refused)
        (some (OperationError.staleInterface name failure).message)
  | shutdown {now : String} {tag : τ} {rest : List (τ × Request)}
      (hpending : queue.pending = (tag, .shutdown) :: rest) :
      Stops engine queue (.take now) ((tag, .ok .done) :: rest.map refused) none
  | deserted (hpending : queue.pending = []) : Stops engine queue .desert [] none

end CommandQueue

/-! ## What makes a core stop -/

namespace Core

variable {core : Core σ} {engine : Engine σ} {now : String}

theorem execute_stale (hrunning : core.isRunning = true) {tunnel : Tunnel} {name : String}
    {failure : Failure}
    (hstale : (core.controller.activate engine now tunnel).1 =
      .error (.staleInterface name failure)) :
    (core.execute engine now (.activate tunnel)).1 = .error (.staleInterface name failure) ∧
      (core.execute engine now (.activate tunnel)).2.isRunning = false ∧
      (core.execute engine now (.activate tunnel)).2.fatal =
        some (OperationError.staleInterface name failure).message := by
  rw [execute, if_pos hrunning, carryOut]
  cases hactivate : core.controller.activate engine now tunnel with
  | mk result after =>
    rw [hactivate] at hstale
    subst hstale
    exact ⟨rfl, rfl, rfl⟩

theorem execute_unstale (hrunning : core.isRunning = true) {tunnel : Tunnel}
    (hstale : ∀ name failure,
      (core.controller.activate engine now tunnel).1 ≠ .error (.staleInterface name failure)) :
    (core.execute engine now (.activate tunnel)).2.isRunning = true ∧
      (core.execute engine now (.activate tunnel)).2.fatal = core.fatal := by
  rw [execute, if_pos hrunning, carryOut]
  cases hactivate : core.controller.activate engine now tunnel with
  | mk result after =>
    rw [hactivate] at hstale
    cases result with
    | ok done => exact ⟨hrunning, rfl⟩
    | error error =>
      have hsurvived : error.isFatal = false := by
        cases error with
        | staleInterface name failure => exact absurd rfl (hstale name failure)
        | _ => rfl
      have hsame :
          { core with controller := after }.survive error = { core with controller := after } :=
        if_neg (ne_true_of_eq_false hsurvived)
      dsimp only
      rw [hsame]
      exact ⟨hrunning, rfl⟩

theorem execute_shutdown (hrunning : core.isRunning = true) (engine : Engine σ) (now : String) :
    (core.execute engine now .shutdown).1 = .ok .done ∧
      (core.execute engine now .shutdown).2.isRunning = false ∧
      (core.execute engine now .shutdown).2.fatal = core.fatal := by
  rw [execute, if_pos hrunning]
  exact ⟨rfl, rfl, rfl⟩

theorem poll_running (hrunning : core.isRunning = true) (engine : Engine σ) :
    (core.poll engine).isRunning = true ∧ (core.poll engine).fatal = core.fatal := by
  rw [poll, if_pos hrunning]
  exact ⟨hrunning, rfl⟩

theorem abandon_running (hrunning : core.isRunning = true) (engine : Engine σ) :
    (core.abandon engine).isRunning = false ∧ (core.abandon engine).fatal = core.fatal := by
  rw [abandon, if_pos hrunning]
  exact ⟨rfl, rfl⟩

end Core

namespace CommandQueue

variable {queue : CommandQueue (Transcript σ) τ} {engine : Engine σ}

theorem settle_stopped {queue : CommandQueue σ τ} (h : queue.core.isRunning = false) :
    queue.settle =
      { queue with pending := [], answers := queue.answers ++ queue.pending.map refused } :=
  if_neg (ne_true_of_eq_false h)

/-- A core that has stopped has nobody wait for it. -/
def IsDown (queue : CommandQueue σ τ) : Prop :=
  queue.core.isRunning = false ∧ queue.pending = []

theorem core_settle (queue : CommandQueue σ τ) : queue.settle.core = queue.core := by
  unfold settle
  split <;> rfl

theorem step_take {tag : τ} {request : Request} {rest : List (τ × Request)}
    (hpending : queue.pending = (tag, request) :: rest) (now : String) :
    queue.step engine (.take now) =
      settle ⟨(queue.core.execute engine.transcribed now request).2, rest,
        queue.answers ++ [(tag, (queue.core.execute engine.transcribed now request).1)]⟩ := by
  unfold step
  rw [hpending]

section Running

variable (hrunning : queue.core.isRunning = true)

include hrunning

theorem step_of_stops {act : Act σ τ} {given : List (τ × Except OperationError Answer)}
    {reason : Option String} (hfatal : queue.core.fatal = none)
    (h : queue.Stops engine act given reason) :
    (queue.step engine act).IsDown ∧ (queue.step engine act).core.fatal = reason ∧
      (queue.step engine act).answers = queue.answers ++ given := by
  cases h with
  | @stale now name tag tunnel failure rest hpending hstale =>
    obtain ⟨hanswer, hstopped, hreason⟩ := Core.execute_stale hrunning hstale
    rw [step_take hpending, settle_stopped hstopped, hanswer]
    refine ⟨⟨hstopped, rfl⟩, hreason, ?_⟩
    rw [List.append_assoc, List.singleton_append]
  | @shutdown now tag rest hpending =>
    obtain ⟨hanswer, hstopped, hkept⟩ := Core.execute_shutdown hrunning engine.transcribed now
    rw [step_take hpending, settle_stopped hstopped, hanswer]
    refine ⟨⟨hstopped, rfl⟩, hkept.trans hfatal, ?_⟩
    rw [List.append_assoc, List.singleton_append]
  | deserted hpending =>
    obtain ⟨hstopped, hkept⟩ := Core.abandon_running hrunning engine.transcribed
    unfold step
    rw [hpending]
    exact ⟨⟨hstopped, rfl⟩, hkept.trans hfatal, (List.append_nil _).symm⟩

/-- No command stops the core but one that ends it, or an activation that fails for a stale
interface. -/
theorem execute_of_not_stops {now : String} {tag : τ} {request : Request}
    {rest : List (τ × Request)} (hpending : queue.pending = (tag, request) :: rest)
    (h : ∀ given reason, ¬ queue.Stops engine (.take now) given reason) :
    (queue.core.execute engine.transcribed now request).2.isRunning = true ∧
      (queue.core.execute engine.transcribed now request).2.fatal = queue.core.fatal := by
  cases request with
  | activate tunnel =>
    apply Core.execute_unstale hrunning
    intro name failure hstale
    exact h _ _ (.stale hpending hstale)
  | deactivate hop =>
    rw [Core.execute, if_pos hrunning]
    exact ⟨hrunning, rfl⟩
  | status =>
    rw [Core.execute, if_pos hrunning]
    exact ⟨hrunning, rfl⟩
  | shutdown => exact absurd (.shutdown hpending) (h _ _)

theorem step_of_not_stops {act : Act σ τ}
    (h : ∀ given reason, ¬ queue.Stops engine act given reason) :
    (queue.step engine act).core.isRunning = true ∧
      (queue.step engine act).core.fatal = queue.core.fatal := by
  cases act with
  | send tag request =>
    unfold step
    rw [core_settle]
    exact ⟨hrunning, rfl⟩
  | take now =>
    cases hpending : queue.pending with
    | nil =>
      unfold step
      rw [hpending]
      exact ⟨hrunning, rfl⟩
    | cons command rest =>
      rw [step_take hpending, core_settle]
      exact execute_of_not_stops hrunning hpending h
  | poll => exact Core.poll_running hrunning engine.transcribed
  | desert =>
    cases hpending : queue.pending with
    | nil => exact absurd (.deserted hpending) (h _ _)
    | cons command rest =>
      unfold step
      rw [hpending]
      exact ⟨hrunning, rfl⟩
  | strike change => exact ⟨hrunning, rfl⟩

end Running

/-! ## What a core that has stopped does -/

/-- What an act comes to for a core that has stopped, whatever its engine. -/
def ignore (queue : CommandQueue (Transcript σ) τ) : Act σ τ → CommandQueue (Transcript σ) τ
  | .send tag request => { queue with answers := queue.answers ++ [refused (tag, request)] }
  | .strike change => queue.strike change
  | _ => queue

theorem step_of_isDown (h : queue.IsDown) (engine : Engine σ) (act : Act σ τ) :
    queue.step engine act = queue.ignore act := by
  obtain ⟨core, pending, answers⟩ := queue
  obtain ⟨hstopped, rfl⟩ : core.isRunning = false ∧ pending = [] := h
  have hnot : ¬ core.isRunning = true := ne_true_of_eq_false hstopped
  cases act with
  | send tag request => exact if_neg hnot
  | take now => rfl
  | poll => simp only [step, ignore, Core.poll, if_neg hnot]
  | desert => simp only [step, ignore, Core.abandon, if_neg hnot]
  | strike change => rfl

/-- What is left of a queue over further acts, once its core has stopped: the refusals of what was
sent are all that is new. -/
structure Frozen (before : CommandQueue (Transcript σ) τ) (acts : List (Act σ τ))
    (after : CommandQueue (Transcript σ) τ) : Prop where
  stopped : after.IsDown
  fatal : after.core.fatal = before.core.fatal
  chain : after.core.controller.chain = before.core.controller.chain
  events : after.core.controller.events = before.core.controller.events
  exchanges : after.core.controller.system.exchanges = before.core.controller.system.exchanges
  readings : after.core.controller.system.readings = before.core.controller.system.readings
  answers : after.answers = before.answers ++ (acts.filterMap Act.command?).map refused

theorem Frozen.ignore {before after : CommandQueue (Transcript σ) τ} {acts : List (Act σ τ)}
    (h : Frozen before acts after) (act : Act σ τ) :
    Frozen before (acts ++ [act]) (after.ignore act) := by
  have hanswers (given : List (τ × Request)) (hgiven : [act].filterMap Act.command? = given) :
      after.answers ++ given.map refused =
        before.answers ++ ((acts ++ [act]).filterMap Act.command?).map refused := by
    rw [h.answers, List.filterMap_append, hgiven, List.map_append, List.append_assoc]
  cases act with
  | send tag request => exact { h with answers := hanswers [(tag, request)] rfl }
  | take now | poll | desert | strike change =>
    have hsame := hanswers [] rfl
    rw [List.map_nil, List.append_nil] at hsame
    exact { h with answers := hsame }

theorem run_of_isDown (h : queue.IsDown) (engine : Engine σ) (acts : List (Act σ τ)) :
    Frozen queue acts (queue.run engine acts) ∧
      queue.run engine acts = acts.foldl ignore queue := by
  induction acts using List.reverseRecOn with
  | nil => exact ⟨⟨h, rfl, rfl, rfl, rfl, rfl, (List.append_nil _).symm⟩, rfl⟩
  | append_singleton acts act ih =>
    obtain ⟨hfrozen, hignored⟩ := ih
    have hlast : queue.run engine (acts ++ [act]) = (queue.run engine acts).ignore act := by
      rw [run_concat, step_of_isDown hfrozen.stopped]
    constructor
    · rw [hlast]
      exact hfrozen.ignore act
    · rw [hlast, hignored, List.foldl_append, List.foldl_cons, List.foldl_nil]

end CommandQueue

/-! ## What the messages are answered -/

/-- Whether a core has done nothing but log. -/
structure Core.Idles (before after : Core σ) : Prop where
  running : after.isRunning = before.isRunning
  fatal : after.fatal = before.fatal
  controller : after.controller.unlogged = before.controller.unlogged

theorem Core.Idles.refl (core : Core σ) : core.Idles core :=
  ⟨rfl, rfl, rfl⟩

theorem Core.Idles.note {before after : Core σ} (h : before.Idles after) (level : Level)
    (text : String) : before.Idles (after.note level text) :=
  ⟨h.running, h.fatal, h.controller⟩

theorem Core.Idles.trans {before middle after : Core σ} (h : before.Idles middle)
    (h' : middle.Idles after) : before.Idles after :=
  ⟨h'.running.trans h.running, h'.fatal.trans h.fatal, h'.controller.trans h.controller⟩

namespace Service

/-- What becomes of a service over messages, each handled at its own time. -/
def handleAll (engine : Engine σ) (service : Service σ) (arrivals : List (String × Parcel)) :
    Service σ :=
  arrivals.foldl (fun service arrival => (service.handle engine arrival.1 arrival.2).2) service

/-- What a service does about a message when its core has stopped: it answers in the core's place,
and as ever what is none of the core's business. -/
structure AnswersAlone (engine : Engine σ) (now : String) (parcel : Parcel) (service : Service σ) :
    Prop where
  activation : parcel.kind = "activate" →
    (service.handle engine now parcel).1 = [.disconnected (service.asked parcel.body)]
  deactivation : parcel.kind = "deactivate" → (service.handle engine now parcel).1 = []
  status : parcel.kind = "status" →
    (service.handle engine now parcel).1 = [.status .disconnected] ∧
      (DaemonMessage.status .disconnected).fields = [("connected", .bool false)]
  others : parcel.kind ∉ ["activate", "deactivate", "status"] → ∀ other : Service σ,
    other.logs = service.logs →
      (service.handle engine now parcel).1 = (other.handle engine now parcel).1 ∧
      (service.handle engine now parcel).2.logs = (other.handle engine now parcel).2.logs
  idles : service.core.Idles (service.handle engine now parcel).2.core

variable {service : Service σ} (hstopped : service.core.isRunning = false) (engine : Engine σ)
  (now : String)

/-- What is none of the core's business does not depend on the core. -/
theorem handle_other {parcel : Parcel} (hkind : parcel.kind ∉ ["activate", "deactivate", "status"])
    (service other : Service σ) (hlogs : other.logs = service.logs) :
    (service.handle engine now parcel).1 = (other.handle engine now parcel).1 ∧
      (service.handle engine now parcel).2.logs = (other.handle engine now parcel).2.logs ∧
      service.core.Idles (service.handle engine now parcel).2.core := by
  have hidles :
      service.core.Idles (service.core.note .debug ("Handling message: " ++ parcel.kind)) :=
    (Core.Idles.refl _).note _ _
  simp only [List.mem_cons, List.not_mem_nil, or_false, not_or] at hkind
  obtain ⟨hactivate, hdeactivate, hstatus⟩ := hkind
  unfold handle
  dsimp only
  split
  · contradiction
  · contradiction
  · contradiction
  · exact ⟨by simp only [note, hlogs], hlogs.symm, hidles⟩
  · exact ⟨rfl, by simp only [note, hlogs], hidles⟩
  · exact ⟨rfl, hlogs.symm, hidles⟩
  · exact ⟨rfl, hlogs.symm, hidles.note _ _⟩

include hstopped

theorem activate_alone (body : Json) :
    (service.activate engine now body).1 = [.disconnected (service.asked body)] ∧
      service.core.Idles (service.activate engine now body).2.core := by
  refine ⟨(service.activate_refused (.inl hstopped) engine now).1, ?_⟩
  unfold activate
  cases Tunnel.ofBody service.naming.name body with
  | error error => exact (Core.Idles.refl _).note _ _
  | ok tunnel =>
    dsimp only [Service.request]
    rw [Core.execute_of_stopped hstopped]
    exact (Core.Idles.refl _).note _ _

theorem deactivate_alone (hop : HopIndex) :
    service.core.Idles (service.deactivate engine now hop).core := by
  unfold deactivate Service.request
  rw [Core.execute_of_stopped hstopped]
  exact (Core.Idles.refl _).note _ _

theorem status_alone :
    (service.status engine now).1 = .disconnected ∧
      service.core.Idles (service.status engine now).2.core := by
  unfold status Service.request
  rw [Core.execute_of_stopped hstopped]
  exact ⟨rfl, (Core.Idles.refl _).note _ _⟩

theorem answersAlone (parcel : Parcel) : AnswersAlone engine now parcel service := by
  -- That a message is handled is logged first.
  have hnoted (text : String) : service.core.Idles (service.note .debug text).core :=
    (Core.Idles.refl _).note _ _
  have hstill (text : String) : (service.note .debug text).core.isRunning = false := hstopped
  by_cases hactivate : parcel.kind = "activate"
  · obtain ⟨hreply, hidles⟩ :=
      activate_alone (hstill "Handling message: activate") engine now parcel.body
    rw [← handle_eq_activate hactivate] at hreply hidles
    exact ⟨fun _ => hreply, by simp [hactivate], by simp [hactivate], by simp [hactivate],
      (hnoted _).trans hidles⟩
  by_cases hdeactivate : parcel.kind = "deactivate"
  · have hhandle := handle_eq_deactivate hdeactivate engine now service
    refine ⟨by simp [hdeactivate], fun _ => congrArg Prod.fst hhandle, by simp [hdeactivate],
      by simp [hdeactivate], ?_⟩
    rw [hhandle]
    exact (hnoted _).trans (deactivate_alone (hstill _) engine now (hopHint parcel.body))
  by_cases hstatus : parcel.kind = "status"
  · obtain ⟨hreply, hidles⟩ := status_alone (hstill "Handling message: status") engine now
    have hhandle : service.handle engine now parcel =
        ([.status ((service.note .debug "Handling message: status").status engine now).1],
          ((service.note .debug "Handling message: status").status engine now).2) := by
      unfold handle
      rw [hstatus]
      rfl
    rw [hreply] at hhandle
    refine ⟨by simp [hstatus], by simp [hstatus],
      fun _ => ⟨congrArg Prod.fst hhandle, rfl⟩, by simp [hstatus], ?_⟩
    rw [hhandle]
    exact (hnoted _).trans hidles
  · have hkind : parcel.kind ∉ ["activate", "deactivate", "status"] := by
      simp [hactivate, hdeactivate, hstatus]
    refine ⟨fun h => absurd h hactivate, fun h => absurd h hdeactivate, fun h => absurd h hstatus,
      fun _ other hlogs => ?_, (handle_other engine now hkind service service rfl).2.2⟩
    obtain ⟨hreply, hlogs', -⟩ := handle_other engine now hkind service other hlogs
    exact ⟨hreply, hlogs'⟩

theorem idles_handleAll (arrivals : List (String × Parcel)) :
    service.core.Idles (service.handleAll engine arrivals).core := by
  induction arrivals generalizing service with
  | nil => exact .refl _
  | cons arrival rest ih =>
    have hfirst := (answersAlone hstopped engine arrival.1 arrival.2).idles
    exact hfirst.trans (ih (hfirst.running.trans hstopped))

end Service

namespace CommandQueue

variable {queue : CommandQueue (Transcript σ) τ}

/-- Whether a core that has stopped has done so for good, whatever happens next and whatever its
engine: all that comes of it is refusals, and a service with this core goes on to answer every
message without it. -/
structure StopsForGood (engine : Engine σ) (queue : CommandQueue (Transcript σ) τ) : Prop where
  frozen (later : List (Act σ τ)) : Frozen queue later (queue.run engine later)
  unasked (later : List (Act σ τ)) (other : Engine σ) :
    queue.run other later = queue.run engine later
  answering (later : List (Act σ τ)) (naming : Naming) (logs : LogBuffer)
    (arrivals : List (String × Parcel)) :
    let service : Service (Transcript σ) := ⟨(queue.run engine later).core, naming, logs⟩
    service.core.Idles (service.handleAll engine.transcribed arrivals).core ∧
      ∀ now parcel, Service.AnswersAlone engine.transcribed now parcel
        (service.handleAll engine.transcribed arrivals)

theorem stopsForGood (h : queue.IsDown) (engine : Engine σ) : queue.StopsForGood engine where
  frozen later := (run_of_isDown h engine later).1
  unasked later other :=
    (run_of_isDown h other later).2.trans (run_of_isDown h engine later).2.symm
  answering later naming logs arrivals := by
    intro service
    have hdown : service.core.isRunning = false := (run_of_isDown h engine later).1.stopped.1
    have hidles := Service.idles_handleAll hdown engine.transcribed arrivals
    refine ⟨hidles, fun now parcel => ?_⟩
    exact Service.answersAlone (hidles.running.trans hdown) engine.transcribed now parcel

/-- Whether a core that runs has no fatal error behind it, and one that has stopped has nobody wait
for it. -/
def IsSound (queue : CommandQueue σ τ) : Prop :=
  (queue.core.isRunning = true → queue.core.fatal = none) ∧
    (queue.core.isRunning = false → queue.pending = [])

theorem IsSound.step (h : queue.IsSound) (engine : Engine σ) (act : Act σ τ) :
    (queue.step engine act).IsSound := by
  cases hrunning : queue.core.isRunning with
  | false =>
    have hdown : queue.IsDown := ⟨hrunning, h.2 hrunning⟩
    have hfrozen := (run_of_isDown hdown engine [act]).1
    have hstopped : (queue.step engine act).IsDown := hfrozen.stopped
    refine ⟨fun hstill => ?_, fun _ => hstopped.2⟩
    rw [hstopped.1] at hstill
    cases hstill
  | true =>
    have hfatal := h.1 hrunning
    by_cases hstops : ∃ given reason, queue.Stops engine act given reason
    · obtain ⟨given, reason, hstops⟩ := hstops
      obtain ⟨hdown, -, -⟩ := step_of_stops hrunning hfatal hstops
      refine ⟨fun hstill => ?_, fun _ => hdown.2⟩
      rw [hdown.1] at hstill
      cases hstill
    · simp only [not_exists] at hstops
      obtain ⟨hstill, hkept⟩ := step_of_not_stops hrunning hstops
      refine ⟨fun _ => hkept.trans hfatal, fun hstopped => ?_⟩
      rw [hstill] at hstopped
      cases hstopped

theorem IsSound.run (h : queue.IsSound) (engine : Engine σ) (acts : List (Act σ τ)) :
    (queue.run engine acts).IsSound := by
  induction acts using List.reverseRecOn with
  | nil => exact h
  | append_singleton acts act ih =>
    rw [run_concat]
    exact ih.step engine act

/-- **A service fails stop.** Whatever is sent to a core and whatever becomes of its system
meanwhile, as long as the core runs it stops over exactly those acts that are to stop it; then a
reason is published if and only if an activation has failed for a stale interface, and every command
that waited behind is refused. Once it has stopped it stays so. Nothing is asked of the system or
told to anyone any more, later commands are refused, and every message is still answered: an
activation by one loss, of the hop that it is about; a deactivation by nothing; a query for the
state by the state without a tunnel; all else as ever. -/
theorem fails_stop (engine : Engine σ) (start : CommandQueue (Transcript σ) τ)
    (hrunning : start.core.isRunning = true) (hfatal : start.core.fatal = none)
    (acts : List (Act σ τ)) :
    let queue := start.run engine acts
    (queue.core.isRunning = true → queue.core.fatal = none ∧ ∀ act,
      ((queue.step engine act).core.isRunning = false ↔
        ∃ given reason, queue.Stops engine act given reason) ∧
      ∀ given reason, queue.Stops engine act given reason →
        (queue.step engine act).answers = queue.answers ++ given ∧
          (queue.step engine act).core.fatal = reason) ∧
    (queue.core.isRunning = false → queue.StopsForGood engine) := by
  intro queue
  have hsound : queue.IsSound := by
    refine IsSound.run ⟨fun _ => hfatal, fun hstopped => ?_⟩ engine acts
    rw [hrunning] at hstopped
    cases hstopped
  refine ⟨fun hstill => ?_, fun hstopped => stopsForGood ⟨hstopped, hsound.2 hstopped⟩ engine⟩
  have hnone := hsound.1 hstill
  refine ⟨hnone, fun act => ⟨⟨fun hstopped => ?_, ?_⟩, fun given reason hstops => ?_⟩⟩
  · by_contra hnever
    simp only [not_exists] at hnever
    obtain ⟨hstays, -⟩ := step_of_not_stops hstill hnever
    rw [hstays] at hstopped
    cases hstopped
  · rintro ⟨given, reason, hstops⟩
    exact (step_of_stops hstill hnone hstops).1.1
  · obtain ⟨-, hreason, hanswers⟩ := step_of_stops hstill hnone hstops
    exact ⟨hanswers, hreason⟩

/-- A core beside an interface that has the exit hop's name and cannot be removed. -/
def besideStale : CommandQueue (Transcript Memory) Nat :=
  let memory := (Memory.fresh.happen (.addStale "hl")).happen (.failOn .deleteInterface)
  ⟨⟨.fresh (.blank memory), true, none⟩, [], []⟩

/-- An activation of the exit hop stops it; the query that waits behind is refused, and so is
everything later. -/
theorem fails_stop_besideStale :
    besideStale.core.isRunning = true ∧ besideStale.core.fatal = none ∧
      let sent : List (Act Memory Nat) :=
        [.send 1 (.activate (plainTunnel ⟨"hl"⟩ 0 "AA==")), .send 2 .status]
      ((besideStale.run Memory.engine sent).step Memory.engine (.take "now")).answers =
          [(1, .error (.staleInterface "hl" (Memory.injected .deleteInterface))),
            (2, .error .coreStopped)] ∧
        ((besideStale.run Memory.engine sent).step Memory.engine (.take "now")).core.fatal =
          some "Stale interface hl could not be removed: deleteInterface failed: injected failure" ∧
        (besideStale.run Memory.engine (sent ++ [.take "now"])).StopsForGood Memory.engine := by
  refine ⟨rfl, rfl, ?_⟩
  intro sent
  have hstale : ((besideStale.run Memory.engine sent).core.controller.activate
      Memory.engine.transcribed "now" (plainTunnel ⟨"hl"⟩ 0 "AA==")).1 =
        .error (.staleInterface "hl" (Memory.injected .deleteInterface)) := by decide +kernel
  obtain ⟨hstill, -⟩ := fails_stop Memory.engine besideStale rfl rfl sent
  obtain ⟨-, hacts⟩ := hstill rfl
  obtain ⟨hiff, hgiven⟩ := hacts (.take "now")
  obtain ⟨hanswers, hfatal⟩ := hgiven _ _ (.stale rfl hstale)
  obtain ⟨-, hdown⟩ := fails_stop Memory.engine besideStale rfl rfl (sent ++ [.take "now"])
  refine ⟨hanswers, ?_, hdown ?_⟩
  · rw [hfatal]
    decide +kernel
  · rw [run_concat]
    exact hiff.mpr ⟨_, _, .stale rfl hstale⟩

end CommandQueue

end TunnelChain
