import TunnelChain.Proofs.Announcing
import TunnelChain.Proofs.Reporting

/-!
# What can be reckoned from messages

Whoever keeps a record of the hops that connect and disconnect, in events and replies alike, keeps
no hop in it that is not up. A hop that is lost is mostly an event; where an activation loses its
hop and raises nothing, it fails, and the reply says so.
-/

namespace TunnelChain

variable {σ : Type}

/-- The hops that one takes for up after a message, having taken these for up before. -/
def reckon (known : Finset HopIndex) : DaemonMessage → Finset HopIndex
  | .connected hop => insert hop known
  | .disconnected hop => known.erase hop
  | _ => known

/-- The hops that one takes for up after some messages. -/
def reckoned (messages : List DaemonMessage) : Finset HopIndex :=
  messages.foldl reckon ∅

theorem reckoned_append (messages more : List DaemonMessage) :
    reckoned (messages ++ more) = more.foldl reckon (reckoned messages) :=
  List.foldl_append

/-- Of events one reckons what one hears. -/
theorem foldl_reckon_toMessage (said : List HopEvent) (known : Finset HopIndex) :
    (said.map HopEvent.toMessage).foldl reckon known = said.foldl hear known := by
  induction said generalizing known with
  | nil => rfl
  | cons event rest ih =>
    have hevent : reckon known event.toMessage = hear known event := by cases event <;> rfl
    rw [List.map_cons, List.foldl_cons, List.foldl_cons, hevent, ih]

theorem foldl_reckon_of_silent {messages : List DaemonMessage}
    (h : ∀ message ∈ messages, ∀ known, reckon known message = known) (known : Finset HopIndex) :
    messages.foldl reckon known = known := by
  induction messages with
  | nil => rfl
  | cons message rest ih =>
    obtain ⟨hmessage, hrest⟩ := List.forall_mem_cons.mp h
    rw [List.foldl_cons, hmessage, ih hrest]

/-- What one reckons of a hop depends only on whether one took this hop for up before. -/
theorem mem_foldl_reckon_imp {known known' : Finset HopIndex} {hop : HopIndex}
    (h : hop ∈ known → hop ∈ known') (messages : List DaemonMessage)
    (hhop : hop ∈ messages.foldl reckon known) : hop ∈ messages.foldl reckon known' := by
  induction messages generalizing known known' with
  | nil => exact h hhop
  | cons message rest ih =>
    refine ih (fun hmem => ?_) hhop
    cases message with
    | connected other => exact Finset.mem_insert.mpr ((Finset.mem_insert.mp hmem).imp_right h)
    | disconnected other => exact Finset.mem_erase.mpr ((Finset.mem_erase.mp hmem).imp_right h)
    | _ => exact h hmem

/-- Whether no message says that a hop has come up. -/
def Wanes (messages : List DaemonMessage) : Prop :=
  ∀ hop, .connected hop ∉ messages

theorem wanes_nil : Wanes [] :=
  fun _ hmem => nomatch hmem

theorem Wanes.mem_foldl_reckon {messages : List DaemonMessage} (h : Wanes messages)
    (known : Finset HopIndex) (hop : HopIndex) :
    hop ∈ messages.foldl reckon known ↔ hop ∈ known ∧ .disconnected hop ∉ messages := by
  induction messages generalizing known with
  | nil => simp
  | cons message rest ih =>
    have hrest : Wanes rest := fun hop hmem => h hop (List.mem_cons_of_mem _ hmem)
    rw [List.foldl_cons, ih hrest]
    cases message with
    | connected other => exact absurd List.mem_cons_self (h other)
    | disconnected other =>
      simp only [reckon, Finset.mem_erase, List.mem_cons, DaemonMessage.disconnected.injEq]
      tauto
    | _ => simp [reckon]

/-- Messages by which hops are only lost can come in either order. -/
theorem Wanes.foldl_reckon_comm {left right : List DaemonMessage} (hleft : Wanes left)
    (hright : Wanes right) (known : Finset HopIndex) :
    left.foldl reckon (right.foldl reckon known) =
      right.foldl reckon (left.foldl reckon known) := by
  ext hop
  rw [hleft.mem_foldl_reckon, hright.mem_foldl_reckon, hright.mem_foldl_reckon,
    hleft.mem_foldl_reckon, and_right_comm]

theorem wanes_toMessage {said : List HopEvent} (h : ∀ hop, .connected hop ∉ said) :
    Wanes (said.map HopEvent.toMessage) := by
  intro hop hmem
  obtain ⟨event, hevent, heq⟩ := List.mem_map.mp hmem
  cases event with
  | connected other =>
    cases heq
    exact h hop hevent
  | disconnected other => cases heq
  | backendFailure => cases heq

/-- What can be reckoned from events and the replies after them: every hop that is lost over them is
told, and an up hop is missed only if it is answered to be down. -/
structure Accounts (before after : Finset HopIndex) (events replies : List DaemonMessage) :
    Prop where
  hops : (events ++ replies).foldl reckon before ⊆ after
  missed : ∀ hop ∈ after, hop ∈ (events ++ replies).foldl reckon before ∨
    .disconnected hop ∈ replies
  wanes : Wanes replies

namespace Accounts

variable {before after known : Finset HopIndex} {events replies : List DaemonMessage}

theorem of_eq (h : events.foldl reckon before = after) : Accounts before after events [] := by
  refine ⟨?_, fun hop hhop => .inl ?_, wanes_nil⟩
  · rw [List.append_nil]
    exact h.subset
  · rw [List.append_nil, h]
    exact hhop

/-- Who takes only hops for up that are up, still does so. -/
theorem subset (h : Accounts before after events replies) (hknown : known ⊆ before) :
    (events ++ replies).foldl reckon known ⊆ after :=
  fun _ hhop => h.hops (mem_foldl_reckon_imp (fun hmem => hknown hmem) _ hhop)

/-- Who misses no up hop misses one only if it is answered to be down. -/
theorem mem_or_answered (h : Accounts before after events replies) {hop : HopIndex}
    (hknown : hop ∈ before → hop ∈ known) (hhop : hop ∈ after) :
    hop ∈ (events ++ replies).foldl reckon known ∨ .disconnected hop ∈ replies :=
  (h.missed hop hhop).imp_left fun hreckoned => mem_foldl_reckon_imp hknown _ hreckoned

theorem of_upshot {hop : HopIndex} {said owed : List HopEvent}
    (h : Upshot hop before after said owed)
    (hgains : ∀ other ∈ after, other ∈ before ∨ .connected other ∈ said) :
    Accounts before after (said.map HopEvent.toMessage) (owed.map HopEvent.toMessage) := by
  cases h with
  | up hafter =>
    refine of_eq ?_
    rw [foldl_reckon_toMessage, hafter]
    rfl
  | down hafter =>
    refine ⟨hafter, fun other hother => ?_, wanes_toMessage fun other hmem => ?_⟩
    · have hbefore : other ∈ before := (hgains other hother).resolve_right List.not_mem_nil
      by_cases hsame : other = hop
      · subst hsame
        exact .inr (List.mem_singleton_self _)
      · exact .inl (Finset.mem_erase.mpr ⟨hsame, hbefore⟩)
    · cases List.mem_singleton.mp hmem

end Accounts

namespace Controller

/-- What becomes of a controller that only brings hops down while it raises these events: they tell
which. -/
structure Departs (before after : Controller σ) (said : List HopEvent) : Prop where
  events : after.events = before.events ++ said
  hops : said.foldl hear before.chain.hops = after.chain.hops
  wanes : ∀ hop, .connected hop ∉ said

namespace Departs

variable {before middle after : Controller σ} {said told : List HopEvent}

theorem refl (controller : Controller σ) : Departs controller controller [] :=
  ⟨(List.append_nil _).symm, rfl, fun _ hmem => nomatch hmem⟩

theorem note (h : Departs before after said) (level : Level) (text : String) :
    Departs before (after.note level text) said :=
  ⟨h.events, h.hops, h.wanes⟩

theorem trans (h : Departs before middle said) (h' : Departs middle after told) :
    Departs before after (said ++ told) where
  events := by rw [h'.events, h.events, List.append_assoc]
  hops := by rw [List.foldl_append, h.hops, h'.hops]
  wanes hop hmem := (List.mem_append.mp hmem).elim (h.wanes hop) (h'.wanes hop)

theorem deactivate (engine : Engine σ) (hop : HopIndex) (controller : Controller σ) :
    ∃ said, Departs controller (controller.deactivate engine hop true).2 said := by
  obtain ⟨xs, next, said, hteardown, hturns⟩ := deactivate_law engine hop true controller
  refine ⟨said, hturns.events, ?_, ?_⟩
  · rw [hturns.chain]
    exact (hteardown.foldl_hear subset_rfl).2 rfl
  · intro other hmem
    cases hgone : isGone (controller.deactivate engine hop true).1 with
    | true =>
      obtain ⟨-, rfl⟩ := hteardown.of_isGone hgone
      cases List.mem_singleton.mp hmem
    | false =>
      obtain ⟨-, rfl⟩ := hteardown.of_not_isGone hgone
      cases hmem

theorem exists_deactivate {controller : Controller σ} (engine : Engine σ)
    (h : ∃ said, Departs controller before said) (hop : HopIndex) :
    ∃ said, Departs controller (before.deactivate engine hop true).2 said := by
  obtain ⟨said, hsaid⟩ := h
  obtain ⟨told, htold⟩ := deactivate engine hop before
  exact ⟨said ++ told, hsaid.trans htold⟩

theorem exists_note {controller : Controller σ} (h : ∃ said, Departs controller before said)
    (level : Level) (text : String) : ∃ said, Departs controller (before.note level text) said := by
  obtain ⟨said, hsaid⟩ := h
  exact ⟨said, hsaid.note level text⟩

theorem deactivateAll (engine : Engine σ) (controller : Controller σ) :
    ∃ said, Departs controller (controller.deactivateAll engine true) said :=
  deactivateEach_induction (P := fun after => ∃ said, Departs controller after said)
    (fun _ level text h => exists_note h level text) (fun _ hop h => exists_deactivate engine h hop)
    ⟨[], refl controller⟩ _

theorem checkLiveness (engine : Engine σ) (controller : Controller σ) :
    ∃ said, Departs controller (controller.checkLiveness engine).2 said := by
  refine checkLiveness_induction (P := fun after => ∃ said, Departs controller after said)
    (fun _ level text h => exists_note h level text) ?_
      (fun _ hop h => exists_deactivate engine h hop)
    ⟨[], refl controller⟩
  rintro after ⟨said, h⟩
  have halarm : Departs after (after.emit .backendFailure) [.backendFailure] := by
    refine ⟨rfl, rfl, fun hop hmem => ?_⟩
    cases List.mem_singleton.mp hmem
  exact ⟨said ++ [.backendFailure], h.trans halarm⟩

end Departs

theorem ask_stays {α : Type} (controller : Controller σ) (question : σ → Outcome σ α) :
    (controller.ask question).2.chain = controller.chain ∧
      (controller.ask question).2.events = controller.events :=
  ⟨rfl, rfl⟩

theorem status_stays (engine : Engine σ) (controller : Controller σ) :
    (controller.status engine).2.chain = controller.chain ∧
      (controller.status engine).2.events = controller.events := by
  unfold status
  cases controller.chain.get? 0 with
  | none => exact ⟨rfl, rfl⟩
  | some active =>
    obtain ⟨hchain, hevents⟩ := controller.ask_stays (engine.hasInterface active.tunnel.name)
    dsimp only
    cases hlook : controller.ask (engine.hasInterface active.tunnel.name) with
    | mk found next =>
      rw [hlook] at hchain hevents
      cases found with
      | false => exact ⟨hchain, hevents⟩
      | true =>
        obtain ⟨hchain', hevents'⟩ := next.ask_stays (engine.throughput active.tunnel.name)
        dsimp only
        cases hread : next.ask (engine.throughput active.tunnel.name) with
        | mk answer last =>
          rw [hread] at hchain' hevents'
          cases answer <;> exact ⟨hchain'.trans hchain, hevents'.trans hevents⟩

end Controller

namespace Service

def hops (service : Service σ) : Finset HopIndex :=
  service.core.controller.chain.hops

/-! ## What a service lets one reckon -/

/-- Whether a core that has stopped keeps its chain, and does not run again. -/
def Rests (before after : Service σ) : Prop :=
  before.core.isRunning = false →
    after.core.isRunning = false ∧ after.core.controller.chain = before.core.controller.chain

theorem Rests.refl (service : Service σ) : Rests service service :=
  fun hstopped => ⟨hstopped, rfl⟩

theorem Rests.trans {before middle after : Service σ} (h : Rests before middle)
    (h' : Rests middle after) : Rests before after := by
  intro hstopped
  obtain ⟨hstopped', hchain⟩ := h hstopped
  obtain ⟨hstopped'', hchain'⟩ := h' hstopped'
  exact ⟨hstopped'', hchain'.trans hchain⟩

/-- What a service does that hands on its events and answers: these account for the hops, and a core
that has stopped keeps its chain. -/
structure Reckons (before after : Service σ) (events replies : List DaemonMessage) : Prop where
  taken : after.core.controller.events = []
  accounts : Accounts before.hops after.hops events replies
  rests : Rests before after

theorem Stays.rests {before after : Service σ} (h : Stays before after) : Rests before after :=
  fun hstopped => ⟨h.running.trans hstopped, h.chain⟩

theorem Stays.hops {before after : Service σ} (h : Stays before after) : after.hops = before.hops :=
  congrArg Chain.hops h.chain

theorem status_stays (engine : Engine σ) (now : String) (service : Service σ) :
    Stays service (service.status engine now).2 := by
  unfold status Service.request
  cases hrunning : service.core.isRunning with
  | false =>
    rw [Core.execute_of_stopped hrunning]
    exact ⟨rfl, rfl, rfl⟩
  | true =>
    obtain ⟨hchain, hevents⟩ := service.core.controller.status_stays engine
    rw [Core.execute, if_pos hrunning]
    exact ⟨hchain, hevents, rfl⟩

/-- Other messages than those that ask for a hop to come up or go down change no hops, and their
answers say nothing of hops. -/
theorem handle_stays (engine : Engine σ) (now : String) {parcel : Parcel}
    (hactivate : parcel.kind ≠ "activate") (hdeactivate : parcel.kind ≠ "deactivate")
    (service : Service σ) :
    Stays service (service.handle engine now parcel).2 ∧
      ∀ message ∈ (service.handle engine now parcel).1, ∀ known, reckon known message = known := by
  unfold handle
  dsimp only
  generalize hnoted : service.note .debug ("Handling message: " ++ parcel.kind) = noted
  have hstays : Stays service noted := by
    rw [← hnoted]
    exact ⟨rfl, rfl, rfl⟩
  split
  · rename_i hkind
    exact absurd hkind hactivate
  · rename_i hkind
    exact absurd hkind hdeactivate
  · exact ⟨hstays.trans (status_stays engine now noted), by simp [reckon]⟩
  · exact ⟨hstays, by simp [DaemonMessage.ofLog, reckon]⟩
  · exact ⟨hstays.trans ⟨rfl, rfl, rfl⟩, by simp⟩
  · exact ⟨hstays, by simp [reckon]⟩
  · exact ⟨hstays.trans ⟨rfl, rfl, rfl⟩, by simp⟩

theorem deactivate_of_stopped (service : Service σ) (hstopped : service.core.isRunning = false)
    (engine : Engine σ) (now : String) (hop : HopIndex) :
    Stays service (service.deactivate engine now hop) := by
  unfold deactivate Service.request
  rw [Core.execute_of_stopped hstopped]
  exact ⟨rfl, rfl, rfl⟩

/-- Once the core has stopped, no message changes any hops. -/
theorem handle_of_stopped {service : Service σ} (hstopped : service.core.isRunning = false)
    (engine : Engine σ) (now : String) (parcel : Parcel) :
    Stays service (service.handle engine now parcel).2 := by
  by_cases hactivate : parcel.kind = "activate"
  · rw [handle_eq_activate hactivate]
    obtain ⟨-, hstays⟩ := (service.note .debug "Handling message: activate").activate_refused
      (.inl hstopped) engine now
    exact ⟨hstays.chain, hstays.events, hstays.running⟩
  · by_cases hdeactivate : parcel.kind = "deactivate"
    · rw [handle_eq_deactivate hdeactivate]
      have hstays := (service.note .debug "Handling message: deactivate").deactivate_of_stopped
        hstopped engine now (hopHint parcel.body)
      exact ⟨hstays.chain, hstays.events, hstays.running⟩
    · exact (handle_stays engine now hactivate hdeactivate service).1

theorem handle_rests (engine : Engine σ) (now : String) (parcel : Parcel) (service : Service σ) :
    Rests service (service.handle engine now parcel).2 :=
  fun hstopped => (handle_of_stopped hstopped engine now parcel).rests hstopped

theorem react_of_stays {engine : Engine σ} {now : String} {parcel : Parcel} {service : Service σ}
    (hstays : Stays service (service.handle engine now parcel).2)
    (hevents : service.core.controller.events = []) :
    (react engine now parcel service).events = [] ∧
      (react engine now parcel service).state.hops = service.hops :=
  ⟨congrArg (List.map HopEvent.toMessage) (hstays.events.trans hevents), hstays.hops⟩

section React

variable {service : Service σ} {parcel : Parcel} (hevents : service.core.controller.events = [])
  (engine : Engine σ) (now : String)

include hevents

theorem accounts_activate (hkind : parcel.kind = "activate") :
    Accounts service.hops (react engine now parcel service).state.hops
      (react engine now parcel service).events (react engine now parcel service).replies := by
  obtain ⟨said, owed, reaction, rfl, hsaid, howed, hupshot, hgains⟩ :=
    react_activate parcel hkind hevents engine now
  rw [hsaid, howed]
  exact .of_upshot hupshot hgains

theorem accounts_deactivate (hkind : parcel.kind = "deactivate") :
    Accounts service.hops (react engine now parcel service).state.hops
      (react engine now parcel service).events (react engine now parcel service).replies := by
  have hreplies : (react engine now parcel service).replies = [] := by
    change (service.handle engine now parcel).1 = []
    rw [handle_eq_deactivate hkind]
  rw [hreplies]
  refine .of_eq ?_
  cases hrunning : service.core.isRunning with
  | false =>
    obtain ⟨hsilent, hhops⟩ := react_of_stays (handle_of_stopped hrunning engine now parcel) hevents
    rw [hsilent, hhops]
    rfl
  | true =>
    obtain ⟨result, xs, next, said, hteardown, hturns, -, -, hnaming⟩ :=
      handle_deactivation hrunning hkind engine now
    have hreacts := Reacts.of_handle hevents hturns hnaming
    rw [hreacts.events, foldl_reckon_toMessage, hops, hops, hreacts.chain]
    exact (hteardown.foldl_hear subset_rfl).2 rfl

theorem accounts_other (hactivate : parcel.kind ≠ "activate")
    (hdeactivate : parcel.kind ≠ "deactivate") :
    Accounts service.hops (react engine now parcel service).state.hops
      (react engine now parcel service).events (react engine now parcel service).replies := by
  obtain ⟨hstays, hothers⟩ := handle_stays engine now hactivate hdeactivate service
  obtain ⟨hsilent, hhops⟩ := react_of_stays hstays hevents
  have hsame : (react engine now parcel service).replies.foldl reckon service.hops = service.hops :=
    foldl_reckon_of_silent hothers _
  rw [hsilent, hhops]
  refine ⟨hsame.subset, fun hop hhop => .inl (hsame.symm.subset hhop), fun hop hmem => ?_⟩
  have hnone : insert hop (∅ : Finset HopIndex) = ∅ := hothers _ hmem ∅
  exact Finset.insert_ne_empty hop ∅ hnone

/-- **Every loss is told.** Whatever the message, its events and then its replies tell of every hop
that is lost over it; no reply makes one take a hop for up, and only a reply makes one miss a hop
that is up. -/
theorem react_reckons (parcel : Parcel) :
    Reckons service (react engine now parcel service).state
      (react engine now parcel service).events (react engine now parcel service).replies := by
  refine ⟨rfl, ?_, handle_rests engine now parcel service⟩
  by_cases hactivate : parcel.kind = "activate"
  · exact accounts_activate hevents engine now hactivate
  · by_cases hdeactivate : parcel.kind = "deactivate"
    · exact accounts_deactivate hevents engine now hdeactivate
    · exact accounts_other hevents engine now hactivate hdeactivate

end React

/-- The end of a service: every hop is brought down, and this is told. -/
def shutdown (engine : Engine σ) (now : String) (service : Service σ) :
    List DaemonMessage × Service σ :=
  (service.request engine now .shutdown).2.takeEvents

/-- Somebody else changes the system. -/
def strike (change : σ → σ) (service : Service σ) : List DaemonMessage × Service σ :=
  let controller := service.core.controller
  ([], { service with
    core := { service.core with
      controller := { controller with system := change controller.system } } })

/-- What can become of a service otherwise than by a message. -/
inductive Upkeep (engine : Engine σ) : (Service σ → List DaemonMessage × Service σ) → Prop where
  | poll : Upkeep engine (poll engine)
  | shutdown (now : String) : Upkeep engine (shutdown engine now)
  | strike (change : σ → σ) : Upkeep engine (strike change)

theorem reckons_takeEvents {before : Service σ} (after : Service σ) {said : List HopEvent}
    (hevents : before.core.controller.events = [])
    (h : before.core.controller.Departs after.core.controller said) (hrests : Rests before after) :
    Reckons before after.takeEvents.2 after.takeEvents.1 [] ∧ Wanes after.takeEvents.1 := by
  have hsaid : after.takeEvents.1 = said.map HopEvent.toMessage := by
    have hnew := h.events
    rw [hevents, List.nil_append] at hnew
    exact congrArg (List.map HopEvent.toMessage) hnew
  rw [hsaid]
  refine ⟨⟨rfl, .of_eq ?_, hrests⟩, wanes_toMessage h.wanes⟩
  rw [foldl_reckon_toMessage]
  exact h.hops

theorem Upkeep.reckons {engine : Engine σ} {change : Service σ → List DaemonMessage × Service σ}
    (h : Upkeep engine change) {service : Service σ}
    (hevents : service.core.controller.events = []) :
    Reckons service (change service).2 (change service).1 [] ∧ Wanes (change service).1 := by
  cases h with
  | poll =>
    obtain ⟨said, hdeparts⟩ : ∃ said,
        service.core.controller.Departs (service.core.poll engine).controller said := by
      unfold Core.poll
      split
      · exact Controller.Departs.checkLiveness engine _
      · exact ⟨[], .refl _⟩
    refine reckons_takeEvents { service with core := service.core.poll engine } hevents hdeparts
      fun hstopped => ?_
    rw [Core.poll, if_neg (ne_true_of_eq_false hstopped)]
    exact ⟨hstopped, rfl⟩
  | shutdown now =>
    obtain ⟨said, hdeparts⟩ : ∃ said, service.core.controller.Departs
        (service.core.execute engine now .shutdown).2.controller said := by
      unfold Core.execute
      split
      · obtain ⟨said, hdeparts⟩ := Controller.Departs.deactivateAll engine service.core.controller
        exact ⟨said, hdeparts.note _ _⟩
      · exact ⟨[], .refl _⟩
    refine reckons_takeEvents (service.request engine now .shutdown).2 hevents hdeparts
      fun hstopped => ?_
    rw [Service.request, Core.execute_of_stopped hstopped]
    exact ⟨hstopped, rfl⟩
  | strike change => exact ⟨⟨hevents, .of_eq rfl, .refl _⟩, wanes_nil⟩

end Service

end TunnelChain
