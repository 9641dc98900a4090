import Mathlib.Data.List.Flatten
import TunnelChain.Proofs.Serving

/-!
# The order of what is written

A connection's task handles the messages of all complete lines in turn. It writes every event once
and in the order raised, the replies to a message together, and before these all events that were
raised by then; and what it writes leaves line by line. All this holds however the bytes arrive and
leave and whatever others do meanwhile, as long as no event is missed.
-/

namespace TunnelChain

variable {σ : Type}

namespace Serving

variable {handler : String → Parcel → Handling σ} {serving next : Serving σ} {act : Act σ}

/-! ## What arrives -/

/-- Whether the messages of all complete lines that have arrived were handled in turn, are in hand,
or wait. -/
structure Framed (serving : Serving σ) : Prop where
  parcels : serving.handled.map Handled.parcel ++ serving.duty.parcels ++ serving.waiting =
    parcelsOf (completeLines serving.received)
  pending : serving.connection.inbox.pending = openLine serving.received

theorem Framed.follow (serving : Serving σ) {parcel : Parcel}
    (hparcels : serving.handled.map Handled.parcel ++ [parcel] ++ serving.waiting =
      parcelsOf (completeLines serving.received))
    (hpending : serving.connection.inbox.pending = openLine serving.received) (rest : Handling σ) :
    (serving.follow parcel rest).Framed := by
  cases rest with
  | answer replies =>
    refine ⟨?_, hpending⟩
    simpa [Serving.follow, Duty.parcels] using hparcels
  | proceed step next => exact ⟨hparcels, hpending⟩

theorem Framed.step (h : serving.Framed) (hstep : Step handler serving act next) : next.Framed := by
  obtain ⟨hparcels, hpending⟩ := h
  cases hstep with
  | idle _ => exact ⟨hparcels, hpending⟩
  | disturbed change => exact ⟨hparcels, hpending⟩
  | read chunk hduty hwaiting =>
    obtain ⟨completed, hlines, -, hreceipts, hpending'⟩ := Inbox.feed_law hpending chunk
    refine ⟨?_, hpending'⟩
    rw [hwaiting, List.append_nil] at hparcels
    have hnew : parcelsOf (completeLines serving.received ++ completed) =
        parcelsOf (completeLines serving.received) ++ parcelsOf completed := by
      simp [parcelsOf]
    rw [hlines, hnew, ← hparcels, hreceipts, parcels_map_receive]
  | @taken parcel rest now hduty hwaiting =>
    refine Framed.follow { serving with waiting := rest } ?_ hpending _
    rw [← hparcels, hduty, hwaiting]
    simp [Duty.parcels]
  | @proceeded parcel step next hduty =>
    rw [hduty] at hparcels
    exact Framed.follow (serving.disturb step) hparcels hpending _
  | @passed event connection _ _ hnext =>
    obtain ⟨-, hinbox, -⟩ := serving.connection.nextEvent_kept
    rw [hnext] at hinbox
    exact ⟨hparcels, (congrArg Inbox.pending hinbox).trans hpending⟩
  | @lagged connection hnext =>
    obtain ⟨-, hinbox, -⟩ := serving.connection.nextEvent_kept
    rw [hnext] at hinbox
    exact ⟨hparcels, (congrArg Inbox.pending hinbox).trans hpending⟩
  | turned hduty _ =>
    rw [hduty] at hparcels
    exact ⟨hparcels, hpending⟩
  | written hduty _ =>
    rw [hduty] at hparcels
    exact ⟨hparcels, hpending⟩
  | transmitted count => exact ⟨hparcels, hpending⟩

/-! ## What leaves -/

/-- The lines of some messages, one after another. -/
def wire (messages : List DaemonMessage) : Bytes :=
  (messages.map Message.daemon).flatMap Message.encode

theorem wire_append_singleton (messages : List DaemonMessage) (message : DaemonMessage) :
    wire (messages ++ [message]) = wire messages ++ message.encode := by
  simp [wire, Message.encode]

/-- Whether the bytes that have left, with the rest of the line being sent, are the lines of the
messages written. -/
def Wired (serving : Serving σ) : Prop :=
  serving.sent ++ serving.outgoing = wire serving.connection.written

theorem Wired.post (h : serving.Wired) (houtgoing : serving.outgoing = [])
    (message : DaemonMessage) : (serving.post message).Wired := by
  rw [Wired, houtgoing, List.append_nil] at h
  change serving.sent ++ message.encode = wire (serving.connection.written ++ [message])
  rw [wire_append_singleton, h]

theorem Wired.follow (h : serving.Wired) (parcel : Parcel) (rest : Handling σ) :
    (serving.follow parcel rest).Wired := by
  cases rest with
  | answer replies => exact h
  | proceed step next => exact h

theorem Wired.step (h : serving.Wired) (hstep : Step handler serving act next) : next.Wired := by
  cases hstep with
  | idle _ => exact h
  | disturbed change => exact h
  | read chunk _ _ => exact h
  | @taken parcel rest now _ _ =>
    have hleft : Wired { serving with waiting := rest } := h
    exact hleft.follow parcel _
  | @proceeded parcel step next _ =>
    have hstepped : (serving.disturb step).Wired := h
    exact hstepped.follow parcel _
  | @passed event connection houtgoing _ hnext =>
    obtain ⟨hwritten, -, -⟩ := serving.connection.nextEvent_kept
    rw [hnext] at hwritten
    have hpassed : Wired { serving with connection } := by
      rw [Wired, hwritten]
      exact h
    exact hpassed.post houtgoing event
  | @lagged connection hnext =>
    obtain ⟨hwritten, -, -⟩ := serving.connection.nextEvent_kept
    rw [hnext] at hwritten
    rw [Wired, hwritten]
    exact h
  | turned _ _ => exact h
  | @written reply rest hduty houtgoing =>
    have hleft : Wired { serving with duty := .writing rest } := h
    exact hleft.post houtgoing reply
  | transmitted count =>
    change serving.sent ++ serving.outgoing.take count ++ serving.outgoing.drop count = _
    rw [List.append_assoc, List.take_append_drop]
    exact h

/-! ## The order of what is written -/

/-- What is written for one message: the events that were passed on before the replies, and the
replies. -/
structure Block where
  events : List DaemonMessage
  replies : List DaemonMessage

def Block.output (block : Block) : List DaemonMessage :=
  block.events ++ block.replies

/-- How the output is laid out: a block for each message in turn, and the events since. No event is
left out or comes twice, and a block has all events that were raised before its message was
handled. -/
structure Arranged (serving : Serving σ) (blocks : List Block) (late : List DaemonMessage) :
    Prop where
  output : serving.output = blocks.flatMap Block.output ++ late
  replies : blocks.map Block.replies = serving.handled.map Handled.replies
  events : blocks.flatMap Block.events ++ late = serving.raised
  timely : ∀ index handled, serving.handled[index]? = some handled →
    handled.raised <+: (blocks.take (index + 1)).flatMap Block.events

/-- Whether the output is in order, and the events that are still raised will be, too. -/
structure InOrder (serving : Serving σ) : Prop where
  subscribed : serving.connection.backlog.isSome = true
  arranged : ∃ blocks late, serving.Arranged blocks late ∧
    ∀ replies, serving.duty = .flushing replies →
      late = [] ∧ ∃ earlier events, blocks = earlier ++ [⟨events, replies⟩]

/-- Whether a step may change what is raised or answered; all others only bring messages in or
out. -/
def Act.isQuiet : Act σ → Bool
  | .disturb _ => false
  | .take _ => false
  | .proceed => false
  | _ => true

/-- What stays as it is when messages only come in or go out. -/
structure Quiet (serving next : Serving σ) : Prop where
  state : next.state = serving.state
  output : next.output = serving.output
  handled : next.handled = serving.handled
  raised : next.raised = serving.raised
  remaining : next.duty.remaining = serving.duty.remaining
  flushing : ∀ replies, next.duty = .flushing replies → serving.duty = .flushing replies
  subscribed : next.connection.backlog.isSome = serving.connection.backlog.isSome

theorem Quiet.refl (serving : Serving σ) : Quiet serving serving :=
  ⟨rfl, rfl, rfl, rfl, rfl, fun _ hduty => hduty, rfl⟩

theorem Step.quiet (hstep : Step handler serving act next) (hquiet : act.isQuiet = true)
    (hmissed : serving.connection.missed = 0) : Quiet serving next := by
  have hevents := Connection.nextEvent_law hmissed
  obtain ⟨hwritten, -, hsubscribed⟩ := serving.connection.nextEvent_kept
  cases hstep with
  | idle _ => exact .refl serving
  | disturbed _ => cases hquiet
  | taken _ _ _ => cases hquiet
  | proceeded _ => cases hquiet
  | read chunk _ _ => exact ⟨rfl, rfl, rfl, rfl, rfl, fun _ hduty => hduty, rfl⟩
  | @passed event connection _ hduty hnext =>
    rw [hnext] at hevents hwritten hsubscribed
    refine ⟨rfl, ?_, rfl, rfl, rfl, fun _ hduty => hduty, hsubscribed⟩
    change connection.written ++ [event] ++ serving.duty.arrange connection.unpassed =
      serving.output
    rw [output, hevents, hwritten]
    obtain ⟨replies, hduty⟩ | hduty := hduty
    · simp [hduty, Duty.arrange]
    · simp [hduty, Duty.arrange]
  | @lagged connection hnext =>
    rw [hnext] at hevents hwritten hsubscribed
    refine ⟨rfl, ?_, rfl, rfl, rfl, fun _ hduty => hduty, hsubscribed⟩
    rw [output, output, hevents, hwritten]
    rfl
  | turned hduty hunpassed =>
    refine ⟨rfl, ?_, rfl, rfl, ?_, nofun, rfl⟩
    · simp [output, hduty, hunpassed, Duty.arrange]
    · rw [hduty]
      rfl
  | @written reply rest hduty _ =>
    refine ⟨rfl, ?_, rfl, rfl, ?_, nofun, rfl⟩
    · change serving.connection.written ++ [reply] ++ (rest ++ serving.connection.unpassed) = _
      simp [output, hduty, Duty.arrange]
    · rw [hduty]
      rfl
  | transmitted count => exact ⟨rfl, rfl, rfl, rfl, rfl, fun _ hduty => hduty, rfl⟩

theorem quiet_waiting (serving : Serving σ) (rest : List Parcel) :
    Quiet serving { serving with waiting := rest } :=
  ⟨rfl, rfl, rfl, rfl, rfl, fun _ hduty => hduty, rfl⟩

/-- What a step comes to: messages only come in or go out, or others do something, a message is
taken up, or its handling goes on. -/
inductive Change (handler : String → Parcel → Handling σ) (serving : Serving σ) :
    Act σ → Serving σ → Prop where
  | quiet {act : Act σ} {next : Serving σ} (hquiet : Quiet serving next) :
      Change handler serving act next
  | disturbed (change : σ → List DaemonMessage × σ) :
      Change handler serving (.disturb change) (serving.disturb change)
  | taken (parcel : Parcel) (rest : List Parcel) (now : String)
      (hduty : serving.duty = .writing []) :
      Change handler serving (.take now)
        ({ serving with waiting := rest }.follow parcel (handler now parcel))
  | proceeded {parcel : Parcel} {step : σ → List DaemonMessage × σ} {next : σ → Handling σ}
      (hduty : serving.duty = .handling parcel step next) :
      Change handler serving .proceed ((serving.disturb step).follow parcel (next serving.state))

theorem Step.change (hstep : Step handler serving act next)
    (hmissed : serving.connection.missed = 0) : Change handler serving act next := by
  cases hquiet : act.isQuiet with
  | true => exact .quiet (hstep.quiet hquiet hmissed)
  | false =>
    cases hstep with
    | idle _ => exact .quiet (.refl serving)
    | disturbed change => exact .disturbed change
    | @taken parcel rest now hduty _ => exact .taken parcel rest now hduty
    | proceeded hduty => exact .proceeded hduty
    | read _ _ _ => cases hquiet
    | passed _ _ _ => cases hquiet
    | lagged _ => cases hquiet
    | turned _ _ => cases hquiet
    | written _ _ => cases hquiet
    | transmitted _ => cases hquiet

section Order

variable {blocks : List Block} {late : List DaemonMessage}

theorem Arranged.of_same (h : serving.Arranged blocks late) (houtput : next.output = serving.output)
    (hhandled : next.handled = serving.handled) (hraised : next.raised = serving.raised) :
    next.Arranged blocks late where
  output := houtput.trans h.output
  replies := by
    rw [hhandled]
    exact h.replies
  events := by
    rw [hraised]
    exact h.events
  timely := by
    rw [hhandled]
    exact h.timely

theorem InOrder.of_quiet (h : serving.InOrder) (hquiet : Quiet serving next) : next.InOrder := by
  obtain ⟨blocks, late, harranged, hopen⟩ := h.arranged
  refine ⟨hquiet.subscribed.trans h.subscribed, blocks, late,
    harranged.of_same hquiet.output hquiet.handled hquiet.raised, fun replies hflushing => ?_⟩
  exact hopen replies (hquiet.flushing replies hflushing)

theorem Arranged.length_blocks (h : serving.Arranged blocks late) :
    blocks.length = serving.handled.length := by
  simpa using congrArg List.length h.replies

/-- A block takes up the events that are raised before its replies are written. -/
theorem take_extend (earlier : List Block) {events more : List DaemonMessage}
    (replies : List DaemonMessage) (count : Nat) :
    ((earlier ++ [Block.mk events replies]).take count).flatMap Block.events <+:
      ((earlier ++ [Block.mk (events ++ more) replies]).take count).flatMap Block.events := by
  by_cases hcount : count ≤ earlier.length
  · simp only [List.take_append_of_le_length hcount, List.prefix_rfl]
  · have hlength (block : Block) : (earlier ++ [block]).length ≤ count := by
      rw [List.length_append, List.length_singleton]
      omega
    rw [List.take_of_length_le (hlength _), List.take_of_length_le (hlength _)]
    simp [← List.append_assoc]

theorem output_disturb {change : σ → List DaemonMessage × σ}
    (hsubscribed : serving.connection.backlog.isSome = true)
    (hmissed : (serving.disturb change).connection.missed = 0) :
    (serving.disturb change).output = serving.connection.written ++
      serving.duty.arrange (serving.connection.unpassed ++ (change serving.state).1) := by
  rw [← Connection.unpassed_notify hsubscribed hmissed]
  rfl

/-- While a message is handled, or nothing is to be written, what is raised is written last. -/
theorem output_disturb_eq_append {change : σ → List DaemonMessage × σ}
    (hduty : ∀ events, serving.duty.arrange events = events)
    (hsubscribed : serving.connection.backlog.isSome = true)
    (hmissed : (serving.disturb change).connection.missed = 0) :
    (serving.disturb change).output = serving.output ++ (change serving.state).1 := by
  rw [output_disturb hsubscribed hmissed, output, hduty, hduty, List.append_assoc]

theorem output_follow_answer (serving : Serving σ)
    (hduty : ∀ events, serving.duty.arrange events = events) (parcel : Parcel)
    (replies : List DaemonMessage) :
    (serving.follow parcel (.answer replies)).output = serving.output ++ replies := by
  rw [output, output, hduty, List.append_assoc]
  rfl

theorem InOrder.disturb (h : serving.InOrder) (change : σ → List DaemonMessage × σ)
    (hmissed : (serving.disturb change).connection.missed = 0) :
    (serving.disturb change).InOrder := by
  obtain ⟨blocks, late, harranged, hopen⟩ := h.arranged
  have houtput := output_disturb h.subscribed hmissed
  have hbefore := harranged.output
  refine ⟨(Connection.isSome_notify _ _).trans h.subscribed, ?_⟩
  cases hduty : serving.duty with
  | flushing replies =>
    obtain ⟨rfl, earlier, events, rfl⟩ := hopen replies hduty
    refine ⟨earlier ++ [⟨events ++ (change serving.state).1, replies⟩], [], ?_, ?_⟩
    · refine ⟨?_, ?_, ?_, fun index handled hhandled => ?_⟩
      · rw [output, hduty] at hbefore
        rw [houtput, hduty]
        simp only [Duty.arrange, Block.output, List.flatMap_append, List.flatMap_singleton,
          List.append_nil, ← List.append_assoc, List.append_cancel_right_eq] at hbefore ⊢
        rw [hbefore]
      · have hreplies := harranged.replies
        rw [List.map_append] at hreplies ⊢
        exact hreplies
      · have hevents := harranged.events
        change _ = serving.raised ++ (change serving.state).1
        rw [← hevents]
        simp
      · exact (harranged.timely index handled hhandled).trans (take_extend earlier replies _)
    · intro others hothers
      cases hduty.symm.trans hothers
      exact ⟨rfl, _, _, rfl⟩
  | handling parcel step next =>
    refine ⟨blocks, late ++ (change serving.state).1, ⟨?_, harranged.replies, ?_, harranged.timely⟩,
      fun replies hflushing => by cases hduty.symm.trans hflushing⟩
    · rw [output, hduty] at hbefore
      rw [houtput, hduty, ← List.append_assoc, ← hbefore]
      simp [Duty.arrange]
    · rw [← List.append_assoc, harranged.events]
      rfl
  | writing replies =>
    refine ⟨blocks, late ++ (change serving.state).1, ⟨?_, harranged.replies, ?_, harranged.timely⟩,
      fun replies hflushing => by cases hduty.symm.trans hflushing⟩
    · rw [output, hduty] at hbefore
      rw [houtput, hduty, ← List.append_assoc, ← hbefore]
      simp [Duty.arrange]
    · rw [← List.append_assoc, harranged.events]
      rfl

/-- The replies to a message come after all that has been raised. -/
theorem InOrder.follow (h : serving.InOrder)
    (hduty : serving.duty = .writing [] ∨
      ∃ parcel step next, serving.duty = .handling parcel step next)
    (parcel : Parcel) (rest : Handling σ) : (serving.follow parcel rest).InOrder := by
  have harrange (events : List DaemonMessage) : serving.duty.arrange events = events := by
    obtain hfree | ⟨parcel, step, next, hhandling⟩ := hduty
    · rw [hfree]
      rfl
    · rw [hhandling]
      rfl
  obtain ⟨blocks, late, harranged, -⟩ := h.arranged
  have hbefore := harranged.output
  rw [output, harrange] at hbefore
  have hsubscribed : (serving.follow parcel rest).connection.backlog.isSome = true := by
    rw [connection_follow]
    exact h.subscribed
  refine ⟨hsubscribed, ?_⟩
  cases rest with
  | proceed step next =>
    refine ⟨blocks, late, harranged.of_same ?_ rfl rfl, fun replies hflushing => by cases hflushing⟩
    rw [output, output, harrange]
    rfl
  | answer replies =>
    refine ⟨blocks ++ [⟨late, replies⟩], [], ⟨?_, ?_, ?_, fun index handled hhandled => ?_⟩,
      fun others hflushing => ?_⟩
    · change serving.connection.written ++ (serving.connection.unpassed ++ replies) = _
      rw [← List.append_assoc, hbefore]
      simp [Block.output]
    · simp [Serving.follow, harranged.replies]
    · change _ = serving.raised
      rw [← harranged.events]
      simp
    · change (serving.handled ++ [⟨parcel, replies, serving.raised⟩])[index]? =
        some handled at hhandled
      by_cases hindex : index < serving.handled.length
      · rw [List.getElem?_append_left hindex] at hhandled
        have hcount : index + 1 ≤ blocks.length := by
          rw [harranged.length_blocks]
          exact hindex
        rw [List.take_append_of_le_length hcount]
        exact harranged.timely index handled hhandled
      · have hlast : serving.handled.length ≤ index := Nat.le_of_not_lt hindex
        have hcount : (blocks ++ [Block.mk late replies]).length ≤ index + 1 := by
          rw [List.length_append, List.length_singleton, harranged.length_blocks]
          omega
        rw [List.getElem?_append_right hlast] at hhandled
        obtain rfl : Handled.mk parcel replies serving.raised = handled :=
          List.mem_singleton.mp (List.mem_of_getElem? hhandled) |>.symm
        rw [List.take_of_length_le hcount, ← harranged.events]
        simp
    · cases hflushing
      exact ⟨rfl, blocks, late, rfl⟩

theorem InOrder.step (h : serving.InOrder) (hstep : Step handler serving act next)
    (hmissed : serving.connection.missed = 0) (hmissed' : next.connection.missed = 0) :
    next.InOrder := by
  cases hstep.change hmissed with
  | quiet hquiet => exact h.of_quiet hquiet
  | disturbed change => exact h.disturb change hmissed'
  | taken parcel rest now hduty =>
    exact (h.of_quiet (quiet_waiting serving rest)).follow (.inl hduty) parcel _
  | @proceeded parcel step next hduty =>
    rw [connection_follow] at hmissed'
    exact (h.disturb step hmissed').follow (.inr ⟨parcel, step, next, hduty⟩) parcel _

/-- Whatever a message that was handled is answered comes after the replies to all earlier messages
and after all that had been raised by then. -/
theorem Arranged.split (h : serving.Arranged blocks late) {earlier later : List Handled}
    {handled : Handled} (hhandled : serving.handled = earlier ++ handled :: later) :
    ∃ before after, serving.output = before ++ handled.replies ++ after ∧
      (earlier.flatMap Handled.replies).Sublist before ∧ handled.raised.Sublist before := by
  have hreplies := h.replies
  rw [hhandled, List.map_append, List.map_cons] at hreplies
  obtain ⟨first, others, rfl, hfirst, hothers⟩ := List.map_eq_append_iff.mp hreplies
  obtain ⟨block, rest, rfl, hblock, -⟩ := List.map_eq_cons_iff.mp hothers
  have hlength : first.length = earlier.length := by simpa using congrArg List.length hfirst
  have htimely := h.timely earlier.length handled (by simp [hhandled])
  rw [← hlength, List.take_length_add_append, List.flatMap_append] at htimely
  have hevents (blocks : List Block) :
      (blocks.flatMap Block.events).Sublist (blocks.flatMap Block.output) := by
    refine List.Sublist.flatMap_right _ fun block _ => ?_
    exact List.sublist_append_left _ _
  have hanswers : earlier.flatMap Handled.replies = first.flatMap Block.replies := by
    rw [List.flatMap_def, ← hfirst, List.flatMap_def]
  have hbefore : (first.flatMap Block.replies).Sublist (first.flatMap Block.output) := by
    refine List.Sublist.flatMap_right _ fun block _ => ?_
    exact List.sublist_append_right _ _
  refine ⟨first.flatMap Block.output ++ block.events, rest.flatMap Block.output ++ late, ?_, ?_, ?_⟩
  · rw [h.output, ← hblock]
    simp [Block.output]
  · rw [hanswers]
    exact hbefore.trans (List.sublist_append_left _ _)
  · refine htimely.sublist.trans ?_
    simpa using (hevents first).append_right block.events

end Order

/-! ## Whole runs -/

variable {state : σ} {acts : List (Act σ)}

/-- Whether the connection is never so far behind that it misses an event. -/
def KeepsUp (handler : String → Parcel → Handling σ) (state : σ) (acts : List (Act σ)) : Prop :=
  ∀ played, played <+: acts → ((start state).play handler played).connection.missed = 0

/-- What every step keeps holds after a run. -/
theorem play_invariant {P : Serving σ → Prop} (hbase : P serving)
    (hstep : ∀ {serving next act}, P serving → Step handler serving act next → P next)
    (acts : List (Act σ)) : P (serving.play handler acts) := by
  induction acts using List.reverseRecOn with
  | nil => exact hbase
  | append_singleton acts last ih =>
    rw [play_append_singleton]
    exact hstep ih (step_act handler _ last)

theorem framed_play (handler : String → Parcel → Handling σ) (state : σ) (acts : List (Act σ)) :
    ((start state).play handler acts).Framed := by
  have hstart : (start state).Framed := ⟨rfl, rfl⟩
  exact play_invariant hstart (fun hframed hstep => hframed.step hstep) acts

theorem wired_play (handler : String → Parcel → Handling σ) (state : σ) (acts : List (Act σ)) :
    ((start state).play handler acts).Wired := by
  have hstart : (start state).Wired := rfl
  exact play_invariant hstart (fun hwired hstep => Wired.step hwired hstep) acts

theorem KeepsUp.of_initial {played : List (Act σ)} (h : KeepsUp handler state acts)
    (hplayed : played <+: acts) : KeepsUp handler state played :=
  fun earlier hearlier => h earlier (hearlier.trans hplayed)

/-- What the steps of a run keep from some moment on, as long as the connection keeps up, holds at
its end. -/
theorem KeepsUp.invariant_from {P : Serving σ → Prop} {Q : Act σ → Prop}
    {played later : List (Act σ)} (h : KeepsUp handler state (played ++ later))
    (hlater : ∀ act ∈ later, Q act) (hbase : P ((start state).play handler played))
    (hstep : ∀ {serving next act}, P serving → Q act → Step handler serving act next →
      serving.connection.missed = 0 → next.connection.missed = 0 → P next) :
    P ((start state).play handler (played ++ later)) := by
  induction later using List.reverseRecOn with
  | nil =>
    rw [List.append_nil]
    exact hbase
  | append_singleton later last ih =>
    obtain ⟨hearlier, hlast⟩ := List.forall_mem_append.mp hlater
    rw [← List.append_assoc] at h ⊢
    have hbefore := h.of_initial (List.prefix_append _ [last])
    have hmissed := h _ List.prefix_rfl
    rw [play_append_singleton] at hmissed ⊢
    exact hstep (ih hbefore hearlier) (hlast last (List.mem_singleton_self last))
      (step_act handler _ last) (hbefore _ List.prefix_rfl) hmissed

theorem KeepsUp.invariant {P : Serving σ → Prop} {Q : Act σ → Prop} (h : KeepsUp handler state acts)
    (hacts : ∀ act ∈ acts, Q act) (hstart : P (start state))
    (hstep : ∀ {serving next act}, P serving → Q act → Step handler serving act next →
      serving.connection.missed = 0 → next.connection.missed = 0 → P next) :
    P ((start state).play handler acts) := by
  have hall : KeepsUp handler state ([] ++ acts) := h
  exact hall.invariant_from hacts hstart hstep

theorem inOrder_start (state : σ) : (start state).InOrder := by
  refine ⟨rfl, [], [], ⟨rfl, rfl, rfl, fun index handled hhandled => ?_⟩, fun replies hduty => ?_⟩
  · cases hhandled
  · cases hduty

theorem KeepsUp.inOrder (h : KeepsUp handler state acts) :
    ((start state).play handler acts).InOrder :=
  h.invariant (Q := fun _ => True) (fun _ _ => trivial) (inOrder_start state)
    fun horder _ hstep hmissed hmissed' => horder.step hstep hmissed hmissed'

/-- Whether the connection has missed nothing, and is behind by no more than all that has been
raised. -/
structure IsClose (serving : Serving σ) : Prop where
  missed : serving.connection.missed = 0
  length_unpassed : serving.connection.unpassed.length ≤ serving.raised.length

theorem Step.raised (hstep : Step handler serving act next) : serving.raised <+: next.raised := by
  cases hstep with
  | disturbed change => exact List.prefix_append _ _
  | proceeded _ =>
    rw [raised_follow]
    exact List.prefix_append _ _
  | taken _ _ _ => simp only [raised_follow, List.prefix_rfl]
  | _ => exact List.prefix_rfl

theorem raised_play (handler : String → Parcel → Handling σ) (serving : Serving σ)
    (acts : List (Act σ)) : serving.raised <+: (serving.play handler acts).raised :=
  play_invariant (P := fun next => serving.raised <+: next.raised) List.prefix_rfl
    (fun hraised hstep => hraised.trans hstep.raised) acts

theorem IsClose.follow (h : serving.IsClose) (parcel : Parcel) (rest : Handling σ) :
    (serving.follow parcel rest).IsClose where
  missed := by
    rw [connection_follow]
    exact h.missed
  length_unpassed := by
    rw [connection_follow, raised_follow]
    exact h.length_unpassed

theorem IsClose.disturb (h : serving.IsClose) {change : σ → List DaemonMessage × σ}
    (hfew : (serving.disturb change).raised.length ≤ Backlog.capacity) :
    (serving.disturb change).IsClose := by
  have hraised : (serving.disturb change).raised.length =
      serving.raised.length + (change serving.state).1.length := List.length_append
  have hclose := h.length_unpassed
  have hroom : serving.connection.unpassed.length + (change serving.state).1.length ≤
      Backlog.capacity := by omega
  obtain ⟨hmissed, hlength⟩ := Connection.notify_of_room _ hroom
  refine ⟨hmissed.trans h.missed, ?_⟩
  rw [hraised]
  exact hlength.trans (Nat.add_le_add_right hclose _)

theorem IsClose.step (h : serving.IsClose) (hstep : Step handler serving act next)
    (hfew : next.raised.length ≤ Backlog.capacity) : next.IsClose := by
  have hevents := Connection.nextEvent_law h.missed
  have hmissed := serving.connection.missed_nextEvent
  have hclose := h.length_unpassed
  rw [hevents, List.length_append] at hclose
  cases hstep with
  | disturbed change => exact h.disturb hfew
  | @proceeded parcel step next _ =>
    rw [raised_follow] at hfew
    exact (h.disturb hfew).follow parcel _
  | @taken parcel rest now _ _ =>
    have hleft : IsClose { serving with waiting := rest } := ⟨h.missed, h.length_unpassed⟩
    exact hleft.follow parcel _
  | @passed event connection _ _ hnext =>
    rw [hnext] at hmissed hclose
    exact ⟨hmissed, (Nat.le_add_left _ _).trans hclose⟩
  | @lagged connection hnext =>
    rw [hnext] at hmissed hclose
    exact ⟨hmissed, (Nat.le_add_left _ _).trans hclose⟩
  | _ => exact ⟨h.missed, h.length_unpassed⟩

theorem isClose_play
    (hfew : ((start state).play handler acts).raised.length ≤ Backlog.capacity) :
    ((start state).play handler acts).IsClose := by
  induction acts using List.reverseRecOn with
  | nil => exact ⟨rfl, le_rfl⟩
  | append_singleton acts last ih =>
    rw [play_append_singleton] at hfew ⊢
    have hstep := step_act handler ((start state).play handler acts) last
    exact (ih (hstep.raised.length_le.trans hfew)).step hstep hfew

/-- A connection keeps up where no more events are raised in all than it may be behind. -/
theorem keepsUp_of_few
    (hfew : ((start state).play handler acts).raised.length ≤ Backlog.capacity) :
    KeepsUp handler state acts := by
  rintro played ⟨later, rfl⟩
  refine (isClose_play (LE.le.trans ?_ hfew)).missed
  rw [play, play, List.foldl_append]
  exact (raised_play handler _ later).length_le

theorem Wired.completeLines_sent (h : serving.Wired) :
    completeLines serving.sent <+:
      serving.connection.written.map fun message => (Message.daemon message).line := by
  have hlines : completeLines (wire serving.connection.written) =
      serving.connection.written.map fun message => (Message.daemon message).line := by
    rw [wire, Message.completeLines_flatMap_encode, List.map_map]
    rfl
  rw [← hlines, ← h]
  exact Inbox.completeLines_prefix _ _

end Serving

end TunnelChain
