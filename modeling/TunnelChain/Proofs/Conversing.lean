import TunnelChain.Operator.Errand
import TunnelChain.Proofs.Hearing

/-!
# What an errand makes of what it hears

An errand opens with the first report, sends its messages, collects what its session surfaces, and
concludes with the answer to its version query. Between these it answers nothing.
-/

namespace TunnelChain

/-- A session that loses its connection surfaces this, and never that it is ready. -/
theorem Client.lose_law {τ : Type} {client : Client τ} (hopen : client.isOpen = true)
    (hphase : client.session.phase ≠ .disconnected) :
    ∃ first rest, client.lose.1.events = first :: rest ∧
      (∀ connected since, first ≠ .initialized true connected since) ∧
      client.lose.2.session.phase = .disconnected := by
  unfold lose take Session.fail
  rw [if_pos hopen]
  cases hcase : client.session.phase with
  | disconnected => exact absurd hcase hphase
  | _ => exact ⟨_, _, rfl, nofun, rfl⟩

namespace Errand

namespace Dialogue

/-- How far a dialogue has come: its errand, the phase of its session, its stage, and what it has
printed. Nothing is left of a line that it has read. -/
structure At (errand : Errand) (phase : Phase) (stage : Stage) (printed : String)
    (dialogue : Dialogue) : Prop where
  errand : dialogue.errand = errand
  phase : dialogue.client.session.phase = phase
  stage : dialogue.stage = stage
  printed : dialogue.printed = printed
  isOpen : dialogue.client.isOpen = true
  inbox : dialogue.client.inbox = .empty

variable {errand : Errand} {phase : Phase} {stage : Stage} {printed : String} {dialogue : Dialogue}

theorem heedReply_of_ne_reading (h : dialogue.stage ≠ .reading) (replies : List (Unit × String)) :
    replies.foldl heedReply dialogue = dialogue := by
  induction replies with
  | nil => rfl
  | cons reply rest ih =>
    have hkept : dialogue.heedReply reply = dialogue := by
      unfold heedReply
      split
      · rename_i hreading
        exact absurd hreading h
      · rfl
    rw [List.foldl_cons, hkept, ih]

/-- What a dialogue makes of a message depends on what its session surfaces. -/
theorem At.receive {session : Session Unit} {events : List SessionEvent}
    (h : dialogue.At errand phase stage printed) (message : Message)
    (hsurfaces : Surfaces (dialogue.client.session.handle message.parcel) events session) :
    ∃ heeding : Dialogue, heeding.At errand session.phase stage printed ∧
      ((heeding.heedAll events).2.stage ≠ .reading →
        dialogue.receive message.encode = heeding.heedAll events) := by
  obtain ⟨hevents, houtbound, hclient⟩ := Client.receive_encode h.isOpen h.inbox message
  obtain ⟨hstream, hinbox⟩ := dialogue.client.hearAll_stream [message.parcel]
  have hsession : (dialogue.client.hearAll [message.parcel]).2.session = session := hsurfaces.next
  have hsaid : (dialogue.client.hearAll [message.parcel]).1.events = events :=
    (List.append_nil _).trans hsurfaces.events
  have hquiet : (dialogue.client.hearAll [message.parcel]).1.outbound = [] :=
    (List.append_nil _).trans hsurfaces.outbound
  rw [← hclient] at hstream hinbox hsession
  rw [hsaid] at hevents
  rw [hquiet] at houtbound
  unfold Dialogue.receive follow
  cases hreceive : dialogue.client.receive message.encode with
  | mk transition client =>
    rw [hreceive] at hevents houtbound hstream hinbox hsession
    refine ⟨{ dialogue with client, log := dialogue.log ++ transition.log }, ?_, fun hreading => ?_⟩
    · exact ⟨h.errand, congrArg Session.phase hsession, h.stage, h.printed, hstream.trans h.isOpen,
        hinbox.trans h.inbox⟩
    · dsimp only at hevents houtbound ⊢
      rw [hevents, houtbound, heedReply_of_ne_reading hreading]
      rfl

/-- Before the report an event changes nothing. -/
theorem At.receive_early (h : dialogue.At errand .initializing stage printed)
    (hreading : stage ≠ .reading) (event : HopEvent) :
    ∃ next, dialogue.receive event.toMessage.encode = ([], next) ∧
      next.At errand .initializing stage printed := by
  have hsurfaces := Session.handle_initializing h.phase event
  obtain ⟨next, hnext, hreceive⟩ := h.receive (.daemon event.toMessage) hsurfaces
  rw [h.phase] at hnext
  exact ⟨next, hreceive (by rw [heedAll, hnext.stage]; exact hreading), hnext⟩

/-- A dialogue that has come to its end. -/
def IsOver (dialogue : Dialogue) : Prop :=
  ∃ result, dialogue.stage = .finished result

theorem heedAll_of_isOver (h : dialogue.IsOver) (events : List SessionEvent) :
    dialogue.heedAll events = ([], dialogue) := by
  obtain ⟨result, hresult⟩ := h
  induction events with
  | nil => rfl
  | cons event rest ih =>
    have hheed : dialogue.heed event = ([], dialogue) := by
      unfold heed
      rw [hresult]
    rw [heedAll, hheed]
    dsimp only
    rw [ih]
    rfl

theorem IsOver.ne_reading (h : dialogue.IsOver) : dialogue.stage ≠ .reading := by
  obtain ⟨result, hresult⟩ := h
  rw [hresult]
  exact nofun

/-- Whatever comes after its end, a dialogue takes no notice of it. -/
theorem IsOver.follow (h : dialogue.IsOver) (outcome : Transition Unit × Client Unit) :
    (dialogue.follow outcome).2.IsOver ∧
      (dialogue.follow outcome).2.printed = dialogue.printed := by
  obtain ⟨transition, client⟩ := outcome
  have hover : IsOver { dialogue with client, log := dialogue.log ++ transition.log } := h
  unfold Dialogue.follow
  dsimp only
  rw [heedAll_of_isOver hover]
  dsimp only
  rw [heedReply_of_ne_reading hover.ne_reading]
  exact ⟨hover, rfl⟩

theorem isOver_timeOut (dialogue : Dialogue) : dialogue.timeOut.IsOver := by
  unfold timeOut
  split
  · rename_i result hresult
    exact ⟨result, hresult⟩
  · exact ⟨_, rfl⟩
  · exact ⟨_, rfl⟩

theorem printed_timeOut (dialogue : Dialogue) : dialogue.timeOut.printed = dialogue.printed := by
  unfold timeOut
  split <;> rfl

/-- A dialogue that waits for something ends without a word at what its session makes of a loss. -/
theorem heed_lost {event : SessionEvent}
    (hstage : dialogue.stage = .opening ∨ ∃ seen, dialogue.stage = .settling seen)
    (hlost : dialogue.client.session.phase = .disconnected)
    (hevent : ∀ connected since, event ≠ .initialized true connected since) :
    ∃ next : Dialogue, dialogue.heed event = ([], next) ∧ next.IsOver ∧
      next.printed = dialogue.printed := by
  unfold heed
  obtain hopening | ⟨seen, hsettling⟩ := hstage
  · rw [hopening]
    cases event with
    | initialized ok connected since =>
      cases ok with
      | true => exact absurd rfl (hevent connected since)
      | false => exact ⟨_, rfl, ⟨_, rfl⟩, rfl⟩
    | _ => exact ⟨_, rfl, ⟨_, rfl⟩, rfl⟩
  · rw [hsettling]
    dsimp only
    rw [if_pos hlost]
    exact ⟨_, rfl, ⟨_, rfl⟩, rfl⟩

theorem At.lose (h : dialogue.At errand phase stage printed) (hphase : phase ≠ .disconnected)
    (hstage : stage = .opening ∨ ∃ seen, stage = .settling seen) :
    dialogue.lose.2.IsOver ∧ dialogue.lose.2.printed = printed := by
  obtain ⟨first, rest, hevents, hfirst, hlost⟩ := Client.lose_law h.isOpen (h.phase ▸ hphase)
  unfold Dialogue.lose
  generalize dialogue.client.lose = outcome at hevents hlost
  obtain ⟨transition, client⟩ := outcome
  obtain ⟨next, hheed, hover, hprinted⟩ : ∃ next : Dialogue,
      Dialogue.heed { dialogue with client, log := dialogue.log ++ transition.log } first =
        ([], next) ∧
        next.IsOver ∧ next.printed = dialogue.printed := by
    refine heed_lost ?_ hlost hfirst
    dsimp only
    rwa [h.stage]
  unfold follow
  dsimp only at hevents ⊢
  rw [hevents, heedAll, hheed]
  dsimp only
  rw [heedAll_of_isOver hover]
  dsimp only
  rw [heedReply_of_ne_reading hover.ne_reading]
  exact ⟨hover, hprinted.trans h.printed⟩

/-- The report makes a dialogue begin. -/
theorem At.receive_report (h : dialogue.At errand .initializing .opening printed)
    (report : StatusReport) :
    ∃ begun : Dialogue, ∃ since, begun.At errand .ready .opening printed ∧
      ((begun.begin report.connected since).2.stage ≠ .reading →
        dialogue.receive (DaemonMessage.status report).encode =
          begun.begin report.connected since) := by
  have hsurfaces := Session.handle_report h.phase report
  obtain ⟨begun, hbegun, hreceive⟩ := h.receive (.daemon (.status report)) hsurfaces
  have hheed : begun.heedAll [.initialized true report.connected report.since] =
      begun.begin report.connected report.since := by
    unfold heedAll heed
    rw [hbegun.stage]
    simp [heedAll]
  rw [hheed] at hreceive
  exact ⟨begun, report.since, hbegun, hreceive⟩

theorem At.heed_settling {seen : List SessionEvent}
    (h : dialogue.At errand .ready (.settling seen) printed) {event : SessionEvent}
    (hversion : ∀ number, event ≠ .version number) :
    ∃ next, dialogue.heed event = ([], next) ∧
      next.At errand .ready (.settling (seen ++ [event])) printed := by
  have hconnected : dialogue.client.session.phase ≠ .disconnected := by
    rw [h.phase]
    decide
  refine ⟨{ dialogue with
      stage := .settling (seen ++ [event])
      log := dialogue.log ++ [⟨.debug, "Event: " ++ event.summary⟩] }, ?_,
    ⟨h.errand, h.phase, rfl, h.printed, h.isOpen, h.inbox⟩⟩
  unfold heed
  rw [h.stage]
  dsimp only
  rw [if_neg hconnected]
  cases event with
  | version number => exact absurd rfl (hversion number)
  | _ => rfl

/-- What its session surfaces of an event is collected. -/
theorem At.receive_event {seen : List SessionEvent}
    (h : dialogue.At errand .ready (.settling seen) printed) (event : HopEvent) :
    ∃ next, dialogue.receive event.toMessage.encode = ([], next) ∧
      next.At errand .ready (.settling (seen ++ event.surfaced)) printed := by
  have hsurfaces := Session.handle_ready h.phase event
  obtain ⟨heeding, hheeding, hreceive⟩ := h.receive (.daemon event.toMessage) hsurfaces
  rw [h.phase] at hheeding
  obtain ⟨next, hheed, hnext⟩ : ∃ next, heeding.heedAll event.surfaced = ([], next) ∧
      next.At errand .ready (.settling (seen ++ event.surfaced)) printed := by
    have hone (surfaced : SessionEvent) (hversion : ∀ number, surfaced ≠ .version number) :
        ∃ next, heeding.heedAll [surfaced] = ([], next) ∧
          next.At errand .ready (.settling (seen ++ [surfaced])) printed := by
      obtain ⟨next, hheed, hnext⟩ := hheeding.heed_settling hversion
      exact ⟨next, by rw [heedAll, hheed]; rfl, hnext⟩
    have hnothing : ∃ next, heeding.heedAll [] = ([], next) ∧
        next.At errand .ready (.settling (seen ++ [])) printed :=
      ⟨heeding, rfl, by rwa [List.append_nil]⟩
    cases event with
    | connected hop =>
      by_cases hexit : hop = 0
      · rw [HopEvent.surfaced, if_pos hexit]
        exact hone _ nofun
      · rw [HopEvent.surfaced, if_neg hexit]
        exact hnothing
    | disconnected hop =>
      by_cases hexit : hop = 0
      · rw [HopEvent.surfaced, if_pos hexit]
        exact hone _ nofun
      · rw [HopEvent.surfaced, if_neg hexit]
        exact hnothing
    | backendFailure => exact hone _ nofun
  rw [hheed] at hreceive
  exact ⟨next, hreceive (by rw [hnext.stage]; exact nofun), hnext⟩

theorem isOver_conclude (dialogue : Dialogue) (seen : List SessionEvent) :
    (dialogue.conclude seen).IsOver := by
  unfold conclude
  split
  · exact ⟨_, rfl⟩
  · unfold concludeUp
    split
    · exact ⟨_, rfl⟩
    · split
      · exact ⟨_, rfl⟩
      · exact ⟨_, rfl⟩
  · exact ⟨_, rfl⟩
  · exact ⟨_, rfl⟩
  · exact ⟨_, rfl⟩

/-- The answer to the version query concludes a dialogue. -/
theorem At.receive_version {seen : List SessionEvent}
    (h : dialogue.At errand .ready (.settling seen) printed) (number : UInt32) :
    ∃ last : Dialogue, last.At errand .ready (.settling seen) printed ∧
      dialogue.receive (DaemonMessage.version number).encode = ([], last.conclude seen) := by
  have hsurfaces := dialogue.client.session.handle_version number
  obtain ⟨last, hlast, hreceive⟩ := h.receive (.daemon (.version number)) hsurfaces
  rw [h.phase] at hlast
  have hconnected : last.client.session.phase ≠ .disconnected := by
    rw [hlast.phase]
    decide
  have hheed : last.heedAll [.version number] = ([], last.conclude seen) := by
    unfold heedAll heed
    rw [hlast.stage]
    dsimp only
    rw [if_neg hconnected]
    rfl
  rw [hheed] at hreceive
  exact ⟨last, hlast, hreceive (last.isOver_conclude seen).ne_reading⟩

end Dialogue

end Errand

end TunnelChain
