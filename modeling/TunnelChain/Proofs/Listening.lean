import TunnelChain.Proofs.Reckoning
import TunnelChain.Proofs.Ordering

/-!
# What the only sender takes for up

A peer that is told of events from the start, misses none and is the only one to send messages never
takes a hop for up that is not, once what has been raised is written. The events of a message come
before its replies; what others raise in between only brings hops down, and so does a reply, so
their order does not matter.
-/

namespace TunnelChain

variable {σ : Type}

/-- How a service handles a message for a connection's task. -/
def Service.handling (engine : Engine σ) (now : String) (parcel : Parcel) : Handling (Service σ) :=
  .ofHandler (Service.react engine now) parcel

namespace Serving

/-- Whether a step is the task's own, or others only look after the service, change its system or
end it. -/
def Act.IsUpkeep (engine : Engine σ) (act : Act (Service σ)) : Prop :=
  ∀ change, act = .disturb change → Service.Upkeep engine change

/-- Whether whoever reads all that is written and will be takes only hops for up that are up, and
misses one only if it was among the first or was answered to be down. -/
structure Accurate (engine : Engine σ) (first : Finset HopIndex) (serving : Serving (Service σ)) :
    Prop where
  subscribed : serving.connection.backlog.isSome = true
  taken : serving.state.core.controller.events = []
  remaining : ∀ rest, serving.duty.remaining = some rest →
    ∃ now parcel, rest = Service.handling engine now parcel
  flushing : ∀ replies, serving.duty = .flushing replies → Wanes replies
  hops : reckoned serving.output ⊆ serving.state.hops
  missed : ∀ hop ∈ serving.state.hops, hop ∈ reckoned serving.output ∨ hop ∈ first ∨
    .disconnected hop ∈ serving.handled.flatMap Handled.replies

/-- Events that only bring hops down can as well be read last. -/
theorem reckoned_arrange {duty : Duty σ}
    (hflushing : ∀ replies, duty = .flushing replies → Wanes replies)
    (written events : List DaemonMessage) {more : List DaemonMessage} (hmore : Wanes more) :
    reckoned (written ++ duty.arrange (events ++ more)) =
      more.foldl reckon (reckoned (written ++ duty.arrange events)) := by
  cases hduty : duty with
  | flushing replies =>
    simp only [Duty.arrange, reckoned_append, List.foldl_append]
    exact (hflushing replies hduty).foldl_reckon_comm hmore _
  | handling parcel step next => simp only [Duty.arrange, reckoned_append, List.foldl_append]
  | writing replies => simp only [Duty.arrange, reckoned_append, List.foldl_append]

variable {engine : Engine σ} {first : Finset HopIndex} {serving next : Serving (Service σ)}
  {act : Act (Service σ)}

namespace Accurate

theorem of_quiet (h : serving.Accurate engine first) (hquiet : Quiet serving next) :
    next.Accurate engine first where
  subscribed := hquiet.subscribed.trans h.subscribed
  taken := by
    rw [hquiet.state]
    exact h.taken
  remaining rest hrest := h.remaining rest (hquiet.remaining.symm.trans hrest)
  flushing replies hduty := h.flushing replies (hquiet.flushing replies hduty)
  hops := by
    rw [hquiet.output, hquiet.state]
    exact h.hops
  missed := by
    rw [hquiet.output, hquiet.state, hquiet.handled]
    exact h.missed

/-- What accounts for all that has changed since keeps one accurate. -/
theorem mem_or_answered (h : serving.Accurate engine first) {after : Finset HopIndex}
    {events replies : List DaemonMessage}
    (haccounts : Accounts serving.state.hops after events replies) {hop : HopIndex}
    (hhop : hop ∈ after) :
    hop ∈ (events ++ replies).foldl reckon (reckoned serving.output) ∨ hop ∈ first ∨
      .disconnected hop ∈ serving.handled.flatMap Handled.replies ++ replies := by
  by_cases hexcused : hop ∈ first ∨ .disconnected hop ∈ serving.handled.flatMap Handled.replies
  · exact .inr (hexcused.imp_right (List.mem_append_left _))
  · have hknown : hop ∈ serving.state.hops → hop ∈ reckoned serving.output :=
      fun hup => (h.missed hop hup).resolve_right hexcused
    exact (haccounts.mem_or_answered hknown hhop).imp_right
      fun hanswered => .inr (List.mem_append_right _ hanswered)

theorem disturb (h : serving.Accurate engine first)
    {change : Service σ → List DaemonMessage × Service σ} (hupkeep : Service.Upkeep engine change)
    (hmissed : (serving.disturb change).connection.missed = 0) :
    (serving.disturb change).Accurate engine first := by
  obtain ⟨⟨htaken, haccounts, -⟩, hwanes⟩ := hupkeep.reckons h.taken
  have hreckoned : reckoned (serving.disturb change).output =
      (change serving.state).1.foldl reckon (reckoned serving.output) := by
    calc reckoned (serving.disturb change).output
        = reckoned (serving.connection.written ++
            serving.duty.arrange (serving.connection.unpassed ++ (change serving.state).1)) := by
          rw [output_disturb h.subscribed hmissed]
      _ = (change serving.state).1.foldl reckon (reckoned serving.output) :=
          reckoned_arrange h.flushing _ _ hwanes
  refine ⟨(Connection.isSome_notify _ _).trans h.subscribed, htaken, h.remaining, h.flushing, ?_,
    fun hop hhop => ?_⟩
  · have hsubset := haccounts.subset h.hops
    rw [List.append_nil] at hsubset
    rw [hreckoned]
    exact hsubset
  · have hmem := h.mem_or_answered haccounts hhop
    rw [List.append_nil, List.append_nil] at hmem
    rw [hreckoned]
    exact hmem

theorem take (h : serving.Accurate engine first) (hduty : serving.duty = .writing [])
    (parcel : Parcel) (now : String) :
    (serving.follow parcel (Service.handling engine now parcel)).Accurate engine first := by
  have houtput : (serving.follow parcel (Service.handling engine now parcel)).output =
      serving.output := by
    rw [output, output, hduty]
    rfl
  refine ⟨h.subscribed, h.taken, fun rest hrest => ?_, fun replies hflushing => ?_, ?_, ?_⟩
  · cases hrest
    exact ⟨now, parcel, rfl⟩
  · cases hflushing
  · rw [houtput]
    exact h.hops
  · rw [houtput]
    exact h.missed

theorem proceed (h : serving.Accurate engine first) {parcel : Parcel}
    {step : Service σ → List DaemonMessage × Service σ} {next : Service σ → Handling (Service σ)}
    (hduty : serving.duty = .handling parcel step next)
    (hmissed : (serving.disturb step).connection.missed = 0) :
    ((serving.disturb step).follow parcel (next serving.state)).Accurate engine first ∧
      Service.Rests serving.state (step serving.state).2 := by
  have harrange (events : List DaemonMessage) : serving.duty.arrange events = events := by
    rw [hduty]
    rfl
  have hdisturbed := output_disturb_eq_append harrange h.subscribed hmissed
  have hanswered (replies : List DaemonMessage) :
      reckoned ((serving.disturb step).follow parcel (.answer replies)).output =
        ((step serving.state).1 ++ replies).foldl reckon (reckoned serving.output) := by
    calc reckoned ((serving.disturb step).follow parcel (.answer replies)).output
        = reckoned ((serving.disturb step).output ++ replies) := by
          rw [output_follow_answer (serving.disturb step) harrange]
      _ = reckoned (serving.output ++ ((step serving.state).1 ++ replies)) := by
          rw [hdisturbed, List.append_assoc]
      _ = ((step serving.state).1 ++ replies).foldl reckon (reckoned serving.output) :=
          reckoned_append _ _
  obtain ⟨now, taken, hhandling⟩ := h.remaining (.proceed step next) (by rw [hduty]; rfl)
  obtain ⟨rfl, rfl⟩ := Handling.proceed.inj hhandling
  obtain ⟨htaken, haccounts, hrests⟩ := Service.react_reckons h.taken engine now taken
  refine ⟨⟨(Connection.isSome_notify _ _).trans h.subscribed, htaken, nofun, ?_, ?_, ?_⟩, hrests⟩
  · intro replies hflushing
    cases hflushing
    exact haccounts.wanes
  · rw [hanswered]
    exact haccounts.subset h.hops
  · intro hop hhop
    have hmem := h.mem_or_answered haccounts hhop
    rw [hanswered]
    simpa [Serving.follow, Serving.disturb, Serving.raise] using hmem

theorem step (h : serving.Accurate engine first)
    (hstep : Step (Service.handling engine) serving act next) (hupkeep : act.IsUpkeep engine)
    (hmissed : serving.connection.missed = 0) (hmissed' : next.connection.missed = 0) :
    next.Accurate engine first ∧ Service.Rests serving.state next.state := by
  cases hstep.change hmissed with
  | quiet hquiet =>
    refine ⟨h.of_quiet hquiet, ?_⟩
    rw [hquiet.state]
    exact .refl _
  | disturbed change =>
    have hchange := hupkeep change rfl
    exact ⟨h.disturb hchange hmissed', (hchange.reckons h.taken).1.rests⟩
  | taken parcel rest now hduty =>
    refine ⟨(h.of_quiet (quiet_waiting serving rest)).take hduty parcel now, ?_⟩
    rw [state_follow]
    exact .refl _
  | @proceeded parcel step next hduty =>
    rw [connection_follow] at hmissed'
    obtain ⟨haccurate, hrests⟩ := h.proceed hduty hmissed'
    refine ⟨haccurate, ?_⟩
    rw [state_follow]
    exact hrests

end Accurate

/-! ## Whole runs -/

variable {service : Service σ} {acts : List (Act (Service σ))}

theorem KeepsUp.accurate (h : KeepsUp (Service.handling engine) service acts)
    (hevents : service.core.controller.events = [])
    (hupkeep : ∀ act ∈ acts, act.IsUpkeep engine) :
    ((start service).play (Service.handling engine) acts).Accurate engine service.hops := by
  have hstart : (start service).Accurate engine service.hops :=
    ⟨rfl, hevents, nofun, nofun, Finset.empty_subset _, fun _ hhop => .inr (.inl hhop)⟩
  exact h.invariant hupkeep hstart fun haccurate hupkeep hstep hmissed hmissed' =>
    (haccurate.step hstep hupkeep hmissed hmissed').1

/-- Once the core has stopped, the rest of a run leaves the chain as it is. -/
theorem KeepsUp.rests (h : KeepsUp (Service.handling engine) service acts)
    (hevents : service.core.controller.events = [])
    (hupkeep : ∀ act ∈ acts, act.IsUpkeep engine) {played : List (Act (Service σ))}
    (hplayed : played <+: acts) :
    Service.Rests ((start service).play (Service.handling engine) played).state
      ((start service).play (Service.handling engine) acts).state := by
  have hbefore := h.of_initial hplayed
  obtain ⟨later, rfl⟩ := hplayed
  obtain ⟨hearlier, hlater⟩ := List.forall_mem_append.mp hupkeep
  have haccurate := hbefore.accurate hevents hearlier
  let before := ((start service).play (Service.handling engine) played).state
  refine (h.invariant_from
    (P := fun serving =>
      serving.Accurate engine service.hops ∧ Service.Rests before serving.state) hlater
    ⟨haccurate, .refl before⟩ ?_).2
  rintro serving next act ⟨haccurate, hrests⟩ hupkeep hstep hmissed hmissed'
  obtain ⟨haccurate', hrests'⟩ := haccurate.step hstep hupkeep hmissed hmissed'
  exact ⟨haccurate', hrests.trans hrests'⟩

/-- **No dead hop is taken for up.** Whatever the only sender sends, and whatever fails or changes
meanwhile, as long as it misses no event: going by all that is written and all that is raised or
answered and still to be written, it takes no hop for up that is not in the chain, and misses one
only that was up before it came or that it was answered to be down. So it takes no other hop for up
once everything is written; and when the core has stopped, the chain stays as it is. -/
theorem reckoned_subset_hops (hevents : service.core.controller.events = [])
    (hupkeep : ∀ act ∈ acts, act.IsUpkeep engine)
    (hkeeps : KeepsUp (Service.handling engine) service acts) :
    let run := (start service).play (Service.handling engine) acts
    reckoned run.output ⊆ run.state.hops ∧
      (∀ hop ∈ run.state.hops, hop ∈ reckoned run.output ∨ hop ∈ service.hops ∨
        .disconnected hop ∈ run.handled.flatMap Handled.replies) ∧
      (run.duty = .writing [] → run.connection.unpassed = [] →
        reckoned run.connection.written ⊆ run.state.hops) ∧
      ∀ played, played <+: acts →
        ((start service).play (Service.handling engine) played).state.core.isRunning = false →
        run.state.hops = ((start service).play (Service.handling engine) played).state.hops := by
  have haccurate := hkeeps.accurate hevents hupkeep
  have hhops := haccurate.hops
  refine ⟨hhops, haccurate.missed, fun hduty hunpassed => ?_, fun played hplayed hstopped => ?_⟩
  · rw [output, hduty, hunpassed] at hhops
    simpa [Duty.arrange] using hhops
  · obtain ⟨-, hchain⟩ := hkeeps.rests hevents hupkeep hplayed hstopped
    exact congrArg Chain.hops hchain

/-! ## A hop that is lost unheard -/

/-- A message arrives as a whole. -/
def hear (message : Message) (serving : Serving σ) : Serving σ :=
  { serving with
    connection :=
      { serving.connection with
        inbox := .empty
        log := serving.connection.log ++ (Inbox.empty.feed message.encode).1.flatMap (·.log) }
    waiting := [message.parcel]
    received := serving.received ++ message.encode }

theorem read_encode {serving : Serving σ} (hlistening : serving.isListening = true)
    (hinbox : serving.connection.inbox = .empty) (message : Message) :
    serving.read message.encode = serving.hear message := by
  obtain ⟨hparcels, hempty⟩ := message.feed_encode
  rw [read, if_pos hlistening, hear, hinbox]
  dsimp only
  rw [hparcels, hempty]

def newService : Service Memory :=
  (Service.start Memory.engine ⟨"hl"⟩ 1024 Memory.fresh).2

def exitRequest (privateKey : String) : Message :=
  .client (.activate (plainRequest 0 privateKey))

/-- The exit hop comes up, and then no interface can be added any more. -/
def rising : List (Act (Service Memory)) :=
  [.take "then", .proceed, .relay, .transmit 99, .turn,
    .disturb (Service.strike (·.happen (.failOn .addInterface)))]

/-- Another key is asked for: the interface is taken down, which raises no event, and no new one can
be added. -/
def losing : List (Act (Service Memory)) :=
  [.take "now", .proceed, .turn, .write, .transmit 99]

def lostRebuild : List (Act (Service Memory)) :=
  .read (exitRequest "AA==").encode :: rising ++ .read (exitRequest "ZZ==").encode :: losing

def afterRising : Serving (Service Memory) :=
  ((start newService).hear (exitRequest "AA==")).play (Service.handling Memory.engine) rising

theorem play_lostRebuild :
    (start newService).play (Service.handling Memory.engine) lostRebuild =
      (afterRising.hear (exitRequest "ZZ==")).play (Service.handling Memory.engine) losing := by
  have hfirst : (start newService).act (Service.handling Memory.engine)
      (.read (exitRequest "AA==").encode) = (start newService).hear (exitRequest "AA==") :=
    read_encode rfl rfl _
  have hready : afterRising.isListening = true ∧ afterRising.connection.inbox = .empty := by
    decide +kernel
  have hsecond : afterRising.act (Service.handling Memory.engine)
      (.read (exitRequest "ZZ==").encode) = afterRising.hear (exitRequest "ZZ==") :=
    read_encode hready.1 hready.2 _
  rw [lostRebuild, play, List.cons_append, List.foldl_cons, hfirst, List.foldl_append,
    List.foldl_cons, ← play, ← play, ← afterRising, hsecond]

theorem reckoned_lostRebuild :
    let run := (start newService).play (Service.handling Memory.engine) lostRebuild
    run.connection.written = [.connected 0, .disconnected 0] ∧ run.state.hops = ∅ ∧
      reckoned run.connection.written ⊆ run.state.hops := by
  have hupkeep : ∀ act ∈ lostRebuild, act.IsUpkeep Memory.engine := by
    rintro act hact change rfl
    simp only [lostRebuild, rising, losing, List.mem_append, List.mem_cons, reduceCtorEq,
      Act.disturb.injEq, List.not_mem_nil, false_or, or_false] at hact
    rw [hact]
    exact .strike _
  have hrun : let run := (start newService).play (Service.handling Memory.engine) lostRebuild
      run.connection.written = [.connected 0, .disconnected 0] ∧ run.state.hops = ∅ ∧
        run.duty.isFree = true ∧ run.connection.unpassed = [] ∧
        run.raised.length ≤ Backlog.capacity := by
    rw [play_lostRebuild]
    decide +kernel
  obtain ⟨hwritten, hhops, hfree, hunpassed, hfew⟩ := hrun
  obtain ⟨-, -, hknown, -⟩ := reckoned_subset_hops rfl hupkeep (keepsUp_of_few hfew)
  exact ⟨hwritten, hhops, hknown (Duty.eq_of_isFree hfree) hunpassed⟩

end Serving

end TunnelChain
