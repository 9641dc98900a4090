import TunnelChain.Proofs.Scene

/-!
# The first view of the exit hop

A client that has just connected asks once for the state and then follows the events. The core
answers at its own time, and the connection writes the answer after the events that have been raised
meanwhile; a session that still waits for the answer ignores them.
-/

namespace TunnelChain

variable {σ : Type}

/-- What is known of the exit hop after an event that a session surfaces. -/
def learn (up : Bool) : SessionEvent → Bool
  | .initialized _ connected _ => connected
  | .connected => true
  | .disconnected => false
  | _ => up

/-- What is believed about the exit hop; nothing is believed before the first report. -/
def believe : Option Bool → SessionEvent → Option Bool
  | some up, event => some (learn up event)
  | none, .initialized _ connected _ => some connected
  | none, _ => none

def belief (surfaced : List SessionEvent) : Option Bool :=
  surfaced.foldl believe none

theorem foldl_believe_some (up : Bool) (events : List SessionEvent) :
    events.foldl believe (some up) = some (events.foldl learn up) := by
  induction events generalizing up with
  | nil => rfl
  | cons event rest ih => exact ih _

theorem HopEvent.not_initialized_of_mem_surfaced {events : List HopEvent} {ok connected : Bool}
    {since : Option Instant} :
    SessionEvent.initialized ok connected since ∉ events.flatMap HopEvent.surfaced := by
  intro hmem
  obtain ⟨event, -, hsurfaced⟩ := List.mem_flatMap.mp hmem
  cases event with
  | connected hop => simp [surfaced] at hsurfaced
  | disconnected hop => simp [surfaced] at hsurfaced
  | backendFailure => simp [surfaced] at hsurfaced

/-- Two who know differently of the exit hop agree once they have heard of it. -/
theorem foldl_learn_eq_iff {later : List SessionEvent}
    (hlater : ∀ ok connected since, .initialized ok connected since ∉ later) (left right : Bool) :
    later.foldl learn left = later.foldl learn right ↔
      left = right ∨ .connected ∈ later ∨ .disconnected ∈ later := by
  induction later generalizing left right with
  | nil => simp
  | cons event rest ih =>
    have hrest (ok connected : Bool) (since : Option Instant) :
        SessionEvent.initialized ok connected since ∉ rest :=
      fun hmem => hlater ok connected since (List.mem_cons_of_mem _ hmem)
    rw [List.foldl_cons, List.foldl_cons, ih hrest]
    cases event with
    | initialized ok connected since => exact absurd List.mem_cons_self (hlater ok connected since)
    | connected => simp [learn]
    | disconnected => simp [learn]
    | _ => simp [learn]

/-- Hearing of the hops that are up, one knows of the exit hop what the session surfaces. -/
theorem foldl_learn_surfaced (said : List HopEvent) (known : Finset HopIndex) :
    (said.flatMap HopEvent.surfaced).foldl learn (decide (0 ∈ known)) =
      decide (0 ∈ said.foldl hear known) := by
  induction said generalizing known with
  | nil => rfl
  | cons event rest ih =>
    rw [List.flatMap_cons, List.foldl_append, List.foldl_cons, ← ih]
    congr 1
    cases event with
    | connected hop =>
      by_cases hexit : hop = 0
      · simp [HopEvent.surfaced, hexit, learn, hear]
      · simp [HopEvent.surfaced, hexit, hear, Ne.symm hexit]
    | disconnected hop =>
      by_cases hexit : hop = 0
      · simp [HopEvent.surfaced, hexit, learn, hear]
      · simp [HopEvent.surfaced, hexit, hear, Ne.symm hexit]
    | backendFailure => rfl

namespace Scene

/-- What the client has asked when it has connected. -/
def firstRequest : Sender × Parcel :=
  (.observer, (Message.client .status).parcel)

/-- How far the one request of the client has come: it has not been read, it waits for the core, its
answer waits for the connection's task, or its answer has been written. Only in the last case will
the client hear what the service raises. -/
inductive Progress (engine : Engine σ) (first : Scene (Transcript σ)) (acts : List Act)
    (scene : Scene (Transcript σ)) : Prop where
  | unread (hstage : scene.stage = .listening) (hrequests : scene.requests = [.status])
      (hasked : scene.asked = []) (hforetells : scene.Foretells [] .initializing)
  | waiting (parcel : Parcel) (hstage : scene.stage = .waiting parcel)
      (hrequests : scene.requests = []) (hasked : scene.asked = [firstRequest])
      (hforetells : scene.Foretells [] .initializing)
  | answering (report : StatusReport) (hstage : scene.stage = .answering [.status report])
      (hrequests : scene.requests = []) (hasked : scene.asked = [])
      (hforetells : scene.Foretells [] .initializing)
  | answered (before after : List Act) (report : StatusReport) (since : Option Instant)
      (said : List HopEvent) (hacts : acts = before ++ .reply :: after)
      (hbefore : (first.play engine.transcribed before).stage = .answering [.status report])
      (hstage : scene.stage = .listening) (hrequests : scene.requests = [])
      (hasked : scene.asked = [])
      (hforetells : scene.Foretells
        (.initialized true report.connected since :: said.flatMap HopEvent.surfaced) .ready)
      (hhops : said.foldl TunnelChain.hear (first.play engine.transcribed before).hops = scene.hops)

namespace Progress

variable {engine : Engine σ} {first scene next : Scene (Transcript σ)} {acts : List Act}

theorem continues {said : List HopEvent} (h : Progress engine first acts scene)
    (hcontinues : Continues scene next said) (act : Act) :
    Progress engine first (acts ++ [act]) next := by
  cases h with
  | unread hstage hrequests hasked hforetells =>
    exact .unread (hcontinues.stage.trans hstage) (hcontinues.requests.trans hrequests)
      (hcontinues.asked.trans hasked) (hcontinues.initializing hforetells)
  | waiting parcel hstage hrequests hasked hforetells =>
    exact .waiting parcel (hcontinues.stage.trans hstage) (hcontinues.requests.trans hrequests)
      (hcontinues.asked.trans hasked) (hcontinues.initializing hforetells)
  | answering report hstage hrequests hasked hforetells =>
    exact .answering report (hcontinues.stage.trans hstage) (hcontinues.requests.trans hrequests)
      (hcontinues.asked.trans hasked) (hcontinues.initializing hforetells)
  | answered before after report since told hacts hbefore hstage hrequests hasked
      hforetells hhops =>
    have hlonger : acts ++ [act] = before ++ .reply :: (after ++ [act]) := by
      rw [hacts, List.append_assoc, List.cons_append]
    have hmore := hcontinues.ready _ hforetells
    rw [List.cons_append, ← List.flatMap_append] at hmore
    refine .answered before (after ++ [act]) report since (told ++ said) hlonger hbefore
      (hcontinues.stage.trans hstage) (hcontinues.requests.trans hrequests)
      (hcontinues.asked.trans hasked) hmore ?_
    rw [List.foldl_append, hhops, hcontinues.hops]

theorem idle (h : Progress engine first acts scene) (act : Act) :
    Progress engine first (acts ++ [act]) scene :=
  h.continues (.refl scene) act

theorem execute {now : String} (h : Progress engine first acts scene) (hsteady : scene.Steady)
    (hclean : Clean (scene.execute engine.transcribed now).exchanges)
    (hmissed : (scene.execute engine.transcribed now).connection.missed = 0) :
    Progress engine first (acts ++ [.execute now]) (scene.execute engine.transcribed now) := by
  cases hqueue : scene.queue with
  | nil =>
    rw [execute_nil hqueue]
    exact h.idle _
  | cons head rest =>
    obtain ⟨sender, parcel⟩ := head
    cases sender with
    | other =>
      obtain ⟨said, hcontinues⟩ := Continues.execute_other hqueue hsteady hclean hmissed
      exact h.continues hcontinues _
    | observer =>
      have hhead := asked_observer hqueue
      have hnone : scene.asked ≠ [] := by
        rw [hhead]
        exact List.cons_ne_nil _ _
      -- Only one request is ever made, so the core answers it here.
      cases h with
      | unread _ _ hasked _ => exact absurd hasked hnone
      | answering _ _ _ hasked _ => exact absurd hasked hnone
      | answered _ _ _ _ _ _ _ _ _ hasked _ _ => exact absurd hasked hnone
      | waiting _ _ hrequests hasked hforetells =>
        rw [hhead] at hasked
        injection hasked with hrequest hrest
        injection hrequest with _ hparcel
        have hkind : parcel.kind = "status" := by
          rw [hparcel]
          rfl
        obtain ⟨⟨report, hreplies⟩, hannounces⟩ :=
          Service.react_status engine now hkind hsteady.taken
        have hnothing : (Service.react engine.transcribed now parcel scene.service).events = [] :=
          hannounces.events
        rw [execute_observer hqueue]
        refine .answering report (congrArg Stage.answering hreplies) hrequests hrest
          (hforetells.of_upcoming rfl rfl ?_)
        dsimp only [Desk.takeUp, Desk.carryOut]
        rw [hnothing, Connection.notify_nil]

theorem read (h : Progress engine first acts scene) (hsteady : scene.Steady) :
    Progress engine first (acts ++ [.read]) scene.read := by
  cases id h with
  | unread hstage hrequests hasked hforetells =>
    rw [read_cons hstage hrequests hsteady.read]
    refine .waiting _ rfl rfl ?_ (hforetells.of_upcoming rfl rfl rfl)
    unfold asked at hasked ⊢
    rw [List.filter_append, hasked]
    rfl
  | waiting _ hstage _ _ _ =>
    rw [read_idle fun hlistening => Stage.noConfusion (hstage.symm.trans hlistening)]
    exact h.idle _
  | answering report hstage _ _ _ =>
    rw [read_idle fun hlistening => Stage.noConfusion (hstage.symm.trans hlistening)]
    exact h.idle _
  | answered _ _ _ _ _ _ _ _ hrequests _ _ _ =>
    rw [read_idle fun _ => hrequests]
    exact h.idle _

theorem reply (h : Progress engine first acts (first.play engine.transcribed acts))
    (hsteady : (first.play engine.transcribed acts).Steady) :
    Progress engine first (acts ++ [.reply]) (first.play engine.transcribed acts).reply := by
  generalize hscene : first.play engine.transcribed acts = scene at h hsteady ⊢
  cases id h with
  | unread hstage _ _ _ =>
    rw [reply_idle fun _ hanswering => Stage.noConfusion (hstage.symm.trans hanswering)]
    exact h.idle _
  | waiting _ hstage _ _ _ =>
    rw [reply_idle fun _ hanswering => Stage.noConfusion (hstage.symm.trans hanswering)]
    exact h.idle _
  | answering report hstage hrequests hasked hforetells =>
    obtain ⟨hupcoming, -, -⟩ := Connection.reply_law hsteady.subscribed [.status report]
    obtain ⟨since, hheard⟩ := Client.hearAll_report hforetells.phase report
    rw [reply_answering hstage]
    refine .answered acts [] report since [] rfl (hscene ▸ hstage) rfl hrequests hasked ?_ ?_
    · exact hforetells.append rfl rfl hupcoming hheard rfl
    · rw [hscene]
      rfl
  | answered _ _ _ _ _ _ _ hstage _ _ _ _ =>
    rw [reply_idle fun _ hanswering => Stage.noConfusion (hstage.symm.trans hanswering)]
    exact h.idle _

theorem hear (h : Progress engine first acts scene) (hsteady : scene.Steady) :
    Progress engine first (acts ++ [.hear]) scene.hear := by
  cases hwritten : scene.connection.written with
  | nil =>
    rw [hear_nil hwritten]
    exact h.idle _
  | cons message rest =>
    rw [hear_cons hwritten]
    have hcontinues {events : List SessionEvent} {phase : Phase}
        (hforetells : scene.Foretells events phase) :
        Continues scene (scene.heardNext message rest) [] :=
      .heardNext hforetells hsteady hwritten
    cases id h with
    | unread _ _ _ hforetells => exact h.continues (hcontinues hforetells) _
    | waiting _ _ _ _ hforetells => exact h.continues (hcontinues hforetells) _
    | answering _ _ _ _ hforetells => exact h.continues (hcontinues hforetells) _
    | answered _ _ _ _ _ _ _ _ _ _ hforetells _ => exact h.continues (hcontinues hforetells) _

end Progress

theorem steady_start {service : Service (Transcript σ)}
    (hevents : service.core.controller.events = []) : (start service).Steady :=
  ⟨Desk.steady_start hevents _, rfl, rfl⟩

/-- Until an event is missed or a call fails, the request of the client gets on. -/
theorem progress (engine : Engine σ) {service : Service (Transcript σ)} {acts : List Act}
    (hevents : service.core.controller.events = [])
    (hlag : ∀ played, played <+: acts →
      ((start service).play engine.transcribed played).connection.missed = 0)
    (hclean : Clean ((start service).play engine.transcribed acts).exchanges) :
    Progress engine (start service) acts ((start service).play engine.transcribed acts) := by
  -- Failed calls stay in the transcript, so a run that ends without any had none at any time.
  induction acts using List.reverseRecOn with
  | nil => exact .unread rfl rfl rfl ⟨rfl, rfl, rfl⟩
  | append_singleton acts last ih =>
    have hsteady := (steady_start hevents).play engine.transcribed acts
    have hmissed := hlag _ List.prefix_rfl
    rw [play_append_singleton] at hclean hmissed ⊢
    have h := ih (fun played hplayed => hlag played (hplayed.trans (List.prefix_append _ _)))
      (hclean.of_initial (exchanges_act hsteady engine last))
    cases last with
    | send parcel => exact h.continues (.send parcel) _
    | execute now => exact h.execute hsteady hclean hmissed
    | poll =>
      obtain ⟨said, hcontinues⟩ := Continues.poll hsteady hclean hmissed
      exact h.continues hcontinues _
    | read => exact h.read hsteady
    | pass => exact h.continues (.pass _) _
    | reply => exact h.reply hsteady
    | hear => exact h.hear hsteady

theorem isUp_eq (scene : Scene (Transcript σ)) : scene.isUp = decide (0 ∈ scene.hops) := by
  rw [isUp, Bool.eq_iff_iff, Table.contains_iff, decide_eq_true_iff, hops, Chain.mem_hops]

/-- **First view.** Once nothing is under way any more, a client that had just connected is right
about the exit hop if and only if the report that it got was still true when it was written, or an
event about the exit hop came after it. -/
theorem belief_eq_isUp_iff (engine : Engine σ) {service : Service (Transcript σ)} {acts : List Act}
    (hevents : service.core.controller.events = [])
    (hlag : ∀ played, played <+: acts →
      ((start service).play engine.transcribed played).connection.missed = 0)
    (hclean : Clean ((start service).play engine.transcribed acts).exchanges)
    (hsettled : ((start service).play engine.transcribed acts).Settled) :
    ∃ before after report, acts = before ++ .reply :: after ∧
      ((start service).play engine.transcribed before).stage = .answering [.status report] ∧
      (belief ((start service).play engine.transcribed acts).surfaced =
          some ((start service).play engine.transcribed acts).isUp ↔
        report.connected = ((start service).play engine.transcribed before).isUp ∨
          .connected ∈ ((start service).play engine.transcribed acts).surfaced ∨
          .disconnected ∈ ((start service).play engine.transcribed acts).surfaced) := by
  cases progress engine hevents hlag hclean with
  | unread _ hrequests _ _ =>
    rw [hsettled.requests] at hrequests
    cases hrequests
  | waiting _ hstage _ _ _ =>
    rw [hsettled.stage] at hstage
    cases hstage
  | answering _ hstage _ _ _ =>
    rw [hsettled.stage] at hstage
    cases hstage
  | answered before after report since said hacts hbefore _ _ _ hforetells hhops =>
    refine ⟨before, after, report, hacts, hbefore, ?_⟩
    have hupcoming : ((start service).play engine.transcribed acts).connection.upcoming = [] := by
      unfold Connection.upcoming
      rw [hsettled.written, hsettled.backlog]
      rfl
    -- Nothing is under way, so what was foretold has been surfaced.
    have hsurfaced : ((start service).play engine.transcribed acts).surfaced =
        .initialized true report.connected since :: said.flatMap HopEvent.surfaced := by
      rw [← hforetells.events, prospect, hupcoming]
      exact (List.append_nil _).symm
    have hbelief : belief ((start service).play engine.transcribed acts).surfaced =
        some ((said.flatMap HopEvent.surfaced).foldl learn report.connected) := by
      rw [hsurfaced]
      exact foldl_believe_some _ _
    have htrue : ((start service).play engine.transcribed acts).isUp =
        (said.flatMap HopEvent.surfaced).foldl learn
          ((start service).play engine.transcribed before).isUp := by
      rw [isUp_eq, isUp_eq, foldl_learn_surfaced, hhops]
    rw [hbelief, htrue, Option.some.injEq,
      foldl_learn_eq_iff fun _ _ _ => HopEvent.not_initialized_of_mem_surfaced, hsurfaced]
    simp only [List.mem_cons, reduceCtorEq, false_or]

/-- A client has just connected to a service with no hop up. -/
def newcomer : Scene (Transcript Memory) :=
  start (Service.start Memory.engine.transcribed ⟨"hl"⟩ 10 (.blank .fresh)).2

/-- The exit hop comes up when the client has its answer. -/
def promptReport : List Act :=
  [.read, .execute "then", .reply, .send ⟨"activate", plainBody 0 "AA=="⟩, .hear,
    .execute "now", .pass, .hear]

theorem belief_promptReport :
    (∀ played, played <+: promptReport →
        (newcomer.play Memory.engine.transcribed played).connection.missed = 0) ∧
      Clean (newcomer.play Memory.engine.transcribed promptReport).exchanges ∧
      (newcomer.play Memory.engine.transcribed promptReport).Settled ∧
      (newcomer.play Memory.engine.transcribed promptReport).isUp = true ∧
      belief (newcomer.play Memory.engine.transcribed promptReport).surfaced =
        some (newcomer.play Memory.engine.transcribed promptReport).isUp := by
  have hlag : ∀ played, played <+: promptReport →
      (newcomer.play Memory.engine.transcribed played).connection.missed = 0 := by
    simp only [← List.mem_inits]
    decide +kernel
  obtain ⟨hclean, hsettled, hup, hconnected⟩ :
      Clean (newcomer.play Memory.engine.transcribed promptReport).exchanges ∧
        (newcomer.play Memory.engine.transcribed promptReport).Settled ∧
        (newcomer.play Memory.engine.transcribed promptReport).isUp = true ∧
        .connected ∈ (newcomer.play Memory.engine.transcribed promptReport).surfaced := by
    decide +kernel
  obtain ⟨before, after, report, -, -, hright⟩ :=
    belief_eq_isUp_iff Memory.engine rfl hlag hclean hsettled
  exact ⟨hlag, hclean, hsettled, hup, hright.mpr (.inr (.inl hconnected))⟩

/-- The exit hop comes up between the core's answer to the client and its way to the client. -/
def lateReport : List Act :=
  [.read, .send ⟨"activate", plainBody 0 "AA=="⟩, .execute "then", .execute "now", .reply, .hear,
    .hear]

/-- No event is missed, no call fails, and nothing is under way any more, but the client believes
that the exit hop is down. -/
theorem not_belief_lateReport :
    (∀ played, played <+: lateReport →
        (newcomer.play Memory.engine.transcribed played).connection.missed = 0) ∧
      Clean (newcomer.play Memory.engine.transcribed lateReport).exchanges ∧
      (newcomer.play Memory.engine.transcribed lateReport).Settled ∧
      belief (newcomer.play Memory.engine.transcribed lateReport).surfaced = some false ∧
      (newcomer.play Memory.engine.transcribed lateReport).isUp = true := by
  refine ⟨?_, by decide +kernel⟩
  simp only [← List.mem_inits]
  decide +kernel

end Scene

end TunnelChain
