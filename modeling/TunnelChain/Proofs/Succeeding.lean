import TunnelChain.Proofs.Accounting
import TunnelChain.Proofs.Releasing
import TunnelChain.Proofs.Surfacing

/-!
# When a command that brings hops down succeeds

Whatever it hears, and however its connection fares, a command that brings hops down sends its
deactivations and a version query when the daemon has reported, and nothing else. It succeeds over
the answer to a version query, and over nothing else.
-/

namespace TunnelChain

/-- A session surfaces a version only if it is told one. -/
theorem Session.kind_of_version {τ : Type} {session : Session τ} {parcel : Parcel} {number : UInt32}
    (h : .version number ∈ (session.handle parcel).1.events) : parcel.kind = "version" := by
  by_contra hkind
  unfold handle at h
  rw [if_neg hkind] at h
  split at h
  · simp [becomeReady, Transition.surface] at h
  split at h
  · have hhop {kind : String} {event : SessionEvent} {body : Json}
        (hmem : .version number ∈ (takeHopEvent kind event body : Transition τ).events) :
        event = .version number := by
      unfold takeHopEvent at hmem
      split at hmem
      · cases hmem
      · exact (List.mem_singleton.mp hmem).symm
      · cases hmem
    unfold handleReady at h
    split at h
    · unfold takeStatus at h
      split at h
      · cases List.mem_singleton.mp h
      · cases h
    · cases hhop h
    · cases hhop h
    · cases List.mem_singleton.mp h
    · cases h
    · cases h
  · cases h

/-- A client that hears a daemon's message sends nothing, and surfaces a version only if that is the
message. -/
theorem Client.receive_law {τ : Type} {client : Client τ} (hinbox : client.inbox = .empty)
    (message : DaemonMessage) :
    (client.receive message.encode).2.inbox = .empty ∧
      (client.receive message.encode).1.outbound = [] ∧
      ∀ number, .version number ∈ (client.receive message.encode).1.events →
        ∃ told, message = .version told := by
  by_cases hopen : client.isOpen = true
  · obtain ⟨hevents, houtbound, hclient⟩ := receive_encode hopen hinbox (.daemon message)
    obtain ⟨-, hempty⟩ := client.hearAll_stream [(Message.daemon message).parcel]
    refine ⟨?_, ?_, fun number hmem => ?_⟩
    · exact (congrArg Client.inbox hclient).trans (hempty.trans hinbox)
    · refine houtbound.trans ?_
      exact (List.append_nil _).trans (client.session.handle_law _).1
    · have hall : .version number ∈ (client.receive (Message.daemon message).encode).1.events :=
        hmem
      have hone : (client.hearAll [(Message.daemon message).parcel]).1.events =
          (client.session.handle (Message.daemon message).parcel).1.events := List.append_nil _
      rw [hevents, hone] at hall
      have hkind := Session.kind_of_version hall
      cases message with
      | version told => exact ⟨told, rfl⟩
      | _ => simp [Message.parcel, Message.kind, DaemonMessage.kind] at hkind
  · unfold receive
    rw [if_neg hopen]
    exact ⟨hinbox, rfl, fun number hmem => absurd hmem List.not_mem_nil⟩

/-- The deactivations of the first hops of a chain, from the exit on. -/
def deactivations (count : Nat) : List ClientMessage :=
  ((List.range count).map UInt32.ofNat).map fun hop => .deactivate (some hop)

theorem mem_deactivations {count : Nat} {message : ClientMessage} :
    message ∈ deactivations count ↔ ∃ hop ∈ firstHops count, message = .deactivate (some hop) := by
  simp only [deactivations, firstHops, List.map_map, List.mem_map, List.mem_range, Finset.mem_image,
    Finset.mem_range, Function.comp_apply]
  constructor
  · rintro ⟨index, hindex, rfl⟩
    exact ⟨_, ⟨index, hindex, rfl⟩, rfl⟩
  · rintro ⟨_, ⟨index, hindex, rfl⟩, rfl⟩
    exact ⟨index, hindex, rfl⟩

/-- A client that loses its connection surfaces no version. -/
theorem Client.lose_versionless {τ : Type} (client : Client τ) (number : UInt32) :
    .version number ∉ client.lose.1.events := by
  unfold lose take Session.fail
  split
  · cases client.session.phase <;>
      simp [Transition.none, Transition.surface, Transition.withReplies, Transition.logging]
  · exact List.not_mem_nil

theorem Client.inbox_lose {τ : Type} (client : Client τ) : client.lose.2.inbox = client.inbox := by
  unfold lose
  split <;> rfl

namespace Errand

theorem down_sends (count : Nat) : (Errand.down count).Sends (deactivations count) := by
  intro dialogue connected since h
  have hready : (dialogue.client.session.adopt count).phase = .ready := h.phase
  obtain ⟨houtbound, hsession⟩ := Session.deactivate_stop hready
  unfold Dialogue.begin
  rw [h.errand]
  dsimp only [Dialogue.askThenVersion, Dialogue.ask, Client.take, Client.deactivateHops]
  cases hdeactivate : (dialogue.client.session.adopt count).deactivate .stop with
  | mk transition session =>
    rw [hdeactivate] at houtbound hsession
    dsimp only at houtbound hsession ⊢
    have hphase : session.phase = .ready := by
      rw [hsession]
      exact hready
    have hquery : session.queryVersion = (.send [.version], session) := by
      unfold Session.queryVersion Session.isTalking
      rw [hphase]
      rfl
    rw [hquery, houtbound]
    exact ⟨_, rfl, ⟨h.errand, hphase, rfl, h.printed, h.isOpen, h.inbox⟩⟩

namespace Dialogue

variable {count : Nat} {dialogue : Dialogue}

/-- What a dialogue that brings hops down makes of events: it never waits for anything but the
version, sends nothing once it has begun, and succeeds only over a version. -/
structure Heeds (count : Nat) (dialogue : Dialogue) (events : List SessionEvent)
    (outcome : List ClientMessage × Dialogue) : Prop where
  errand : outcome.2.errand = .down count
  inbox : outcome.2.client.inbox = dialogue.client.inbox
  waits : outcome.2.stage ≠ .reading ∧ outcome.2.stage ≠ .inquiring
  opening : outcome.2.stage = .opening → dialogue.stage = .opening ∧ events = []
  silent : dialogue.stage ≠ .opening → outcome.1 = []
  succeeds : outcome.2.stage = .finished (.ok ()) →
    dialogue.stage = .finished (.ok ()) ∨ ∃ number, .version number ∈ events

theorem begin_down (herrand : dialogue.errand = .down count) (connected : Bool)
    (since : Option Instant) :
    (dialogue.begin connected since).2.errand = .down count ∧
      (dialogue.begin connected since).2.client.inbox = dialogue.client.inbox ∧
      (dialogue.begin connected since).2.stage = .settling [] := by
  unfold begin
  rw [herrand]
  exact ⟨herrand, rfl, rfl⟩

theorem heeds_heed (herrand : dialogue.errand = .down count)
    (hwaits : dialogue.stage ≠ .reading ∧ dialogue.stage ≠ .inquiring) (event : SessionEvent) :
    Heeds count dialogue [event] (dialogue.heed event) := by
  unfold heed
  cases hstage : dialogue.stage with
  | opening =>
    cases event with
    | initialized ok connected since =>
      cases ok with
      | true =>
        obtain ⟨herrand', hinbox, hsettling⟩ := begin_down herrand connected since
        dsimp only
        refine ⟨herrand', hinbox, ?_, ?_, fun hbegun => absurd hstage hbegun, ?_⟩
        · rw [hsettling]
          exact ⟨nofun, nofun⟩
        · rw [hsettling]
          exact nofun
        · rw [hsettling]
          exact nofun
      | false => exact ⟨herrand, rfl, ⟨nofun, nofun⟩, nofun, fun _ => rfl, nofun⟩
    | _ => exact ⟨herrand, rfl, ⟨nofun, nofun⟩, nofun, fun _ => rfl, nofun⟩
  | settling seen =>
    dsimp only
    split
    · exact ⟨herrand, rfl, ⟨nofun, nofun⟩, nofun, fun _ => rfl, nofun⟩
    · cases event with
      | version number =>
        dsimp only
        unfold conclude
        rw [herrand]
        exact ⟨herrand, rfl, ⟨nofun, nofun⟩, nofun, fun _ => rfl,
          fun _ => .inr ⟨number, List.mem_cons_self⟩⟩
      | _ => exact ⟨herrand, rfl, ⟨nofun, nofun⟩, nofun, fun _ => rfl, nofun⟩
  | inquiring => exact absurd hstage hwaits.2
  | reading => exact absurd hstage hwaits.1
  | finished result =>
    exact ⟨herrand, rfl, hwaits, fun hopening => absurd (hstage.symm.trans hopening) nofun,
      fun _ => rfl, .inl⟩

theorem heeds_heedAll (herrand : dialogue.errand = .down count)
    (hwaits : dialogue.stage ≠ .reading ∧ dialogue.stage ≠ .inquiring)
    (events : List SessionEvent) :
    Heeds count dialogue events (dialogue.heedAll events) := by
  induction events generalizing dialogue with
  | nil => exact ⟨herrand, rfl, hwaits, fun hopening => ⟨hopening, rfl⟩, fun _ => rfl, .inl⟩
  | cons event rest ih =>
    have hfirst := heeds_heed herrand hwaits event
    have hrest := ih hfirst.errand hfirst.waits
    have hleft : (dialogue.heed event).2.stage ≠ .opening := fun hopening =>
      List.cons_ne_nil _ _ (hfirst.opening hopening).2
    rw [heedAll]
    refine ⟨hrest.errand, hrest.inbox.trans hfirst.inbox, hrest.waits,
      fun hopening => absurd (hrest.opening hopening).1 hleft, fun hbegun => ?_, fun hsuccess => ?_⟩
    · dsimp only
      rw [hfirst.silent hbegun, hrest.silent hleft]
      rfl
    · obtain hearlier | ⟨number, hversion⟩ := hrest.succeeds hsuccess
      · refine (hfirst.succeeds hearlier).imp_right ?_
        rintro ⟨number, hversion⟩
        exact ⟨number, List.mem_cons.mpr (.inl (List.mem_singleton.mp hversion))⟩
      · exact .inr ⟨number, List.mem_cons_of_mem _ hversion⟩

/-- What follows on a step of its client is what a dialogue makes of the events. -/
theorem follow_eq (dialogue : Dialogue) (outcome : Transition Unit × Client Unit) :
    ∃ heeding : Dialogue, heeding.errand = dialogue.errand ∧ heeding.stage = dialogue.stage ∧
      heeding.client = outcome.2 ∧
      ((heeding.heedAll outcome.1.events).2.stage ≠ .reading →
        dialogue.follow outcome =
          (outcome.1.outbound ++ (heeding.heedAll outcome.1.events).1,
            (heeding.heedAll outcome.1.events).2)) := by
  obtain ⟨transition, client⟩ := outcome
  refine ⟨{ dialogue with client, log := dialogue.log ++ transition.log }, rfl, rfl, rfl,
    fun hreading => ?_⟩
  unfold follow
  dsimp only
  rw [heedReply_of_ne_reading hreading]

/-- What holds of a dialogue that brings hops down at any time. -/
structure Lowers (count : Nat) (dialogue : Dialogue) : Prop where
  errand : dialogue.errand = .down count
  inbox : dialogue.client.inbox = .empty
  waits : dialogue.stage ≠ .reading ∧ dialogue.stage ≠ .inquiring
  opening : dialogue.stage = .opening → dialogue.At (.down count) .initializing .opening ""

/-- A dialogue that fails has ended, and not in success. -/
theorem lowers_fail (herrand : dialogue.errand = .down count)
    (hinbox : dialogue.client.inbox = .empty) (reason : String) :
    (dialogue.fail reason).Lowers count ∧ (dialogue.fail reason).stage ≠ .opening ∧
      (dialogue.fail reason).stage ≠ .finished (.ok ()) :=
  ⟨⟨herrand, hinbox, ⟨nofun, nofun⟩, nofun⟩, nofun, nofun⟩

/-- What comes of a dialogue that has begun, or that begins or ends now. -/
theorem Lowers.follow (h : dialogue.Lowers count) (outcome : Transition Unit × Client Unit)
    (hinbox : outcome.2.inbox = .empty)
    (hleft : dialogue.stage = .opening → outcome.1.events ≠ []) :
    (dialogue.follow outcome).2.Lowers count ∧ (dialogue.follow outcome).2.stage ≠ .opening ∧
      (dialogue.stage ≠ .opening → (dialogue.follow outcome).1 = outcome.1.outbound) ∧
      ((dialogue.follow outcome).2.stage = .finished (.ok ()) →
        dialogue.stage = .finished (.ok ()) ∨ ∃ number, .version number ∈ outcome.1.events) := by
  obtain ⟨heeding, herrand, hstage, hclient, hfollow⟩ := dialogue.follow_eq outcome
  have hheeds : Heeds count heeding outcome.1.events (heeding.heedAll outcome.1.events) :=
    heeds_heedAll (herrand.trans h.errand) (hstage ▸ h.waits) _
  rw [hfollow hheeds.waits.1]
  have hempty : (heeding.heedAll outcome.1.events).2.client.inbox = .empty := by
    rw [hheeds.inbox, hclient, hinbox]
  have hbegun : (heeding.heedAll outcome.1.events).2.stage ≠ .opening := by
    intro hopening
    obtain ⟨hstill, hnothing⟩ := hheeds.opening hopening
    exact hleft (hstage.symm.trans hstill) hnothing
  refine ⟨⟨hheeds.errand, hempty, hheeds.waits, fun hopening => absurd hopening hbegun⟩, hbegun,
    fun hearlier => ?_, hstage ▸ hheeds.succeeds⟩
  dsimp only
  rw [hheeds.silent (hstage ▸ hearlier), List.append_nil]

/-- What a dialogue that brings hops down makes of a message. -/
structure Takes (count : Nat) (dialogue : Dialogue) (message : DaemonMessage)
    (outcome : List ClientMessage × Dialogue) : Prop where
  lowers : outcome.2.Lowers count
  sends : outcome.1 = [] ∧ (dialogue.stage ≠ .opening → outcome.2.stage ≠ .opening) ∨
    dialogue.stage = .opening ∧ outcome.1 = deactivations count ++ [.version] ∧
      outcome.2.stage ≠ .opening
  succeeds : outcome.2.stage = .finished (.ok ()) →
    dialogue.stage = .finished (.ok ()) ∨ ∃ number, message = .version number

/-- The report makes a dialogue send its messages. -/
theorem At.takes_report (h : dialogue.At (.down count) .initializing .opening "")
    (report : StatusReport) :
    Takes count dialogue (.status report)
      (dialogue.receive (DaemonMessage.status report).encode) := by
  obtain ⟨begun, since, hbegun, hreceive⟩ := h.receive_report report
  obtain ⟨next, hbegin, hnext⟩ := down_sends count begun report.connected since hbegun
  rw [hbegin] at hreceive
  rw [hreceive (by rw [hnext.stage]; exact nofun)]
  have hleft : next.stage ≠ .opening := by
    rw [hnext.stage]
    exact nofun
  refine ⟨⟨hnext.errand, hnext.inbox, ?_, fun hopening => absurd hopening hleft⟩,
    .inr ⟨h.stage, rfl, hleft⟩, fun hsuccess => ?_⟩
  · rw [hnext.stage]
    exact ⟨nofun, nofun⟩
  · cases hnext.stage.symm.trans hsuccess

/-- Before it has begun, a dialogue waits for the report, and gives up over a version. -/
theorem At.takes (h : dialogue.At (.down count) .initializing .opening "")
    (message : DaemonMessage) :
    Takes count dialogue message (dialogue.receive message.encode) := by
  have hsurfaces := Session.handle_initializing_message h.phase message
  obtain ⟨heeding, hheeding, hreceive⟩ := h.receive (.daemon message) hsurfaces
  have hwaits : heeding.stage ≠ .reading ∧ heeding.stage ≠ .inquiring := by
    constructor <;> simp [hheeding.stage]
  have hheeds := heeds_heedAll hheeding.errand hwaits message.surfacedEarly
  have hreceive : dialogue.receive message.encode = heeding.heedAll message.surfacedEarly :=
    hreceive hheeds.waits.1
  have hquiet (hsurfaced : message.surfacedEarly = [])
      (hphase : message.phaseAfter = .initializing) :
      Takes count dialogue message (dialogue.receive message.encode) := by
    rw [hreceive, hsurfaced]
    dsimp only at hheeding
    rw [hphase] at hheeding
    refine ⟨⟨hheeding.errand, hheeding.inbox, hwaits, fun _ => hheeding⟩,
      .inl ⟨rfl, fun hbegun => absurd h.stage hbegun⟩, fun hsuccess => ?_⟩
    cases hheeding.stage.symm.trans hsuccess
  cases message with
  | status report => exact h.takes_report report
  | version number =>
    have hgiven : heeding.heedAll [.version number] =
        ([],
          heeding.fail
            ("Unexpected event before initialization: " ++
              (SessionEvent.version number).summary)) := by
      unfold heedAll heed
      rw [hheeding.stage]
      rfl
    rw [hreceive, DaemonMessage.surfacedEarly, hgiven]
    obtain ⟨hlowers, hleft, hunfinished⟩ := lowers_fail hheeding.errand hheeding.inbox
      ("Unexpected event before initialization: " ++ (SessionEvent.version number).summary)
    exact ⟨hlowers, .inl ⟨rfl, fun _ => hleft⟩, fun hsuccess => absurd hsuccess hunfinished⟩
  | connected _ | disconnected _ | backendFailure | logs _ => exact hquiet rfl rfl

/-- Whatever a dialogue hears that brings hops down, it sends its messages when it begins and
nothing else, and it succeeds over a version. -/
theorem Lowers.takes (h : dialogue.Lowers count) (message : DaemonMessage) :
    Takes count dialogue message (dialogue.receive message.encode) := by
  by_cases hopening : dialogue.stage = .opening
  · exact (h.opening hopening).takes message
  · obtain ⟨hinbox, houtbound, hversion⟩ := Client.receive_law h.inbox message
    obtain ⟨hlowers, hbegun, hsent, hsuccess⟩ :=
      h.follow (dialogue.client.receive message.encode) hinbox fun hstill => absurd hstill hopening
    refine ⟨hlowers, .inl ⟨(hsent hopening).trans houtbound, fun _ => hbegun⟩, fun hok => ?_⟩
    exact (hsuccess hok).imp_right fun ⟨number, hmem⟩ => hversion number hmem

/-- Giving up is no success. -/
theorem Lowers.lose (h : dialogue.Lowers count) :
    dialogue.lose.2.Lowers count ∧ dialogue.lose.2.stage ≠ .opening ∧
      (dialogue.lose.2.stage = .finished (.ok ()) → dialogue.stage = .finished (.ok ())) := by
  have hleft (hopening : dialogue.stage = .opening) : dialogue.client.lose.1.events ≠ [] := by
    have hdialogue := h.opening hopening
    obtain ⟨first, rest, hevents, -⟩ :=
      Client.lose_law hdialogue.isOpen (by rw [hdialogue.phase]; exact nofun)
    rw [hevents]
    exact List.cons_ne_nil _ _
  obtain ⟨hlowers, hbegun, -, hsuccess⟩ :=
    h.follow dialogue.client.lose (dialogue.client.inbox_lose.trans h.inbox) hleft
  refine ⟨hlowers, hbegun, fun hok => (hsuccess hok).resolve_right ?_⟩
  rintro ⟨number, hmem⟩
  exact dialogue.client.lose_versionless number hmem

theorem Lowers.timeOut (h : dialogue.Lowers count) :
    dialogue.timeOut.Lowers count ∧ dialogue.timeOut.stage ≠ .opening ∧
      (dialogue.timeOut.stage = .finished (.ok ()) → dialogue.stage = .finished (.ok ())) := by
  unfold Dialogue.timeOut
  split
  · rename_i result hresult
    refine ⟨h, ?_, id⟩
    rw [hresult]
    exact nofun
  · rename_i hreading
    exact absurd hreading h.waits.1
  · obtain ⟨hlowers, hleft, hunfinished⟩ :=
      lowers_fail h.errand h.inbox "Timed out waiting for the daemon"
    exact ⟨hlowers, hleft, fun hsuccess => absurd hsuccess hunfinished⟩

end Dialogue

end Errand

end TunnelChain
