import TunnelChain.Proofs.Visit

/-!
# What a command can rely on

An account relates the messages of a command that have been handled, what the daemon has said since
its first report, and the hops that are up. One that every message keeps is true of what the command
has heard when the answer to its version query comes, at the moment when the daemon took the query
up.
-/

namespace TunnelChain

variable {σ : Type}

/-- What may be asserted of the messages that have been handled, of what has been said of hops, and
of the hops that are up. -/
abbrev Account := List ClientMessage → List HopEvent → Finset HopIndex → Prop

namespace Account

variable {account : Account} {done : List ClientMessage} {told said left right : List HopEvent}
  {hops hops' : Finset HopIndex}

/-- Whether an account is true, or an alarm has been raised, after which nothing is asserted. -/
def Stands (account : Account) (done : List ClientMessage) (told : List HopEvent)
    (hops : Finset HopIndex) : Prop :=
  .backendFailure ∈ told ∨ account done told hops

/-- Whether nothing has happened, or an alarm has been raised. -/
def IsCalm (said : List HopEvent) (hops hops' : Finset HopIndex) : Prop :=
  said = [] ∧ hops' = hops ∨ .backendFailure ∈ said

/-- What is said between the messages of a command does not make an account wrong. -/
theorem Stands.insert (h : account.Stands done (left ++ right) hops)
    (hsaid : IsCalm said hops hops') :
    account.Stands done (left ++ said ++ right) hops' := by
  obtain ⟨rfl, rfl⟩ | halarm := hsaid
  · rwa [List.append_nil]
  · exact .inl (List.mem_append_left _ (List.mem_append_right _ halarm))

theorem Stands.append (h : account.Stands done told hops) (hsaid : IsCalm said hops hops') :
    account.Stands done (told ++ said) hops' := by
  rw [← List.append_nil (told ++ said)]
  exact Stands.insert (by rwa [List.append_nil]) hsaid

/-- Whether an account is true at the beginning, and stays so when a daemon handles any of these
messages and tells of it. -/
structure Keeps (engine : Engine σ) (messages : List ClientMessage) (account : Account) : Prop where
  fresh : ∀ hops, account [] [] hops
  handled : ∀ message ∈ messages, ∀ (now : String) (service : Service σ),
    service.core.controller.events = [] →
    ∃ said owed : List HopEvent,
      (Service.react engine now (Message.client message).parcel service).events =
        said.map HopEvent.toMessage ∧
      (Service.react engine now (Message.client message).parcel service).replies =
        owed.map HopEvent.toMessage ∧
      ∀ done told, account done told service.core.controller.chain.hops →
        account (done ++ [message]) (told ++ said ++ owed)
          (Service.react engine now (Message.client message).parcel
            service).state.core.controller.chain.hops

end Account

/-- Whether an errand, once the daemon has reported, sends these messages and then asks for the
version. -/
def Errand.Sends (errand : Errand) (messages : List ClientMessage) : Prop :=
  ∀ (dialogue : Dialogue) (connected : Bool) (since : Option Instant),
    dialogue.At errand .ready .opening "" →
    ∃ next : Dialogue, dialogue.begin connected since = (messages ++ [.version], next) ∧
      next.At errand .ready (.settling []) ""

namespace Visit

/-- How far the first request of a command has come. -/
inductive Opens : Stage → List ClientMessage → Prop
  | unread : Opens .listening [.status]
  | asked : Opens (.waiting (Message.client .status).parcel) []
  | answered (report : StatusReport) : Opens (.answering [.status report]) []

/-- How far the messages of a command have come: which are done, and which answers are still
owed. -/
inductive Works (messages : List ClientMessage) :
    Stage → List ClientMessage → List ClientMessage → List HopEvent → Prop
  | idle (done todo : List ClientMessage) (hall : messages = done ++ todo) :
    Works messages .listening (todo ++ [.version]) done []
  | asked (message : ClientMessage) (done todo : List ClientMessage)
    (hall : messages = done ++ message :: todo) :
    Works messages (.waiting (Message.client message).parcel) (todo ++ [.version]) done []
  | answered (done todo : List ClientMessage) (owed : List HopEvent)
      (hall : messages = done ++ todo) :
    Works messages (.answering (owed.map HopEvent.toMessage)) (todo ++ [.version]) done owed

/-- Whether a command has begun, and has heard this since the report. -/
structure Knows (errand : Errand) (known : List HopEvent) (heard : List DaemonMessage)
    (dialogue : Errand.Dialogue) : Prop where
  heard : ∃ early report, heard = early ++ .status report :: known.map HopEvent.toMessage
  dialogue : dialogue.At errand .ready (.settling (known.flatMap HopEvent.surfaced)) ""

section Run

variable (engine : Engine σ) (first : Visit σ) (errand : Errand) (messages : List ClientMessage)
  (account : Account)

/-- Whether the account of all that has been told was true when the version query was taken up. -/
def Moment (acts : List (Act σ)) (told : List HopEvent) : Prop :=
  ∃ before now after, acts = before ++ .execute now :: after ∧
    (first.play engine before).isInquiring = true ∧
    account.Stands messages told (first.play engine before).hops

/-- What has come of a visit: the command has printed nothing, or it has concluded from what it was
told. -/
def Outcome (acts : List (Act σ)) (visit : Visit σ) : Prop :=
  visit.dialogue.printed = "" ∨
    ∃ early report told late, visit.heard =
      early ++ .status report :: told.map HopEvent.toMessage ++ late ∧
      (∃ last : Errand.Dialogue,
        last.At errand .ready (.settling (told.flatMap HopEvent.surfaced)) "" ∧
        visit.dialogue.printed = (last.conclude (told.flatMap HopEvent.surfaced)).printed) ∧
      Moment engine first messages account acts told

/-- How far a visit has come: the report has not been written, or not been heard; the messages are
being handled; the version query waits, is answered, or its answer has been written; or the command
is done. -/
inductive Progress (acts : List (Act σ)) (visit : Visit σ) : Prop
  | opening (said : List HopEvent) (hopens : Opens visit.stage visit.requests)
      (hupcoming : visit.connection.upcoming = said.map HopEvent.toMessage)
      (hdialogue : visit.dialogue.At errand .initializing .opening "")
  | reported (said told : List HopEvent) (report : StatusReport) (hstage : visit.stage = .listening)
      (hrequests : visit.requests = [])
      (hupcoming : visit.connection.upcoming =
        said.map HopEvent.toMessage ++ .status report :: told.map HopEvent.toMessage)
      (hdialogue : visit.dialogue.At errand .initializing .opening "")
      (hstands : account.Stands [] told visit.hops)
  | serving (known told owed : List HopEvent) (done : List ClientMessage)
      (hworks : Works messages visit.stage visit.requests done owed)
      (hupcoming : visit.connection.upcoming = told.map HopEvent.toMessage)
      (hknows : Knows errand known visit.heard visit.dialogue)
      (hstands : account.Stands done (known ++ told ++ owed) visit.hops)
  | inquiring (known told : List HopEvent)
      (hstage : visit.stage = .waiting (Message.client .version).parcel)
      (hrequests : visit.requests = [])
      (hupcoming : visit.connection.upcoming = told.map HopEvent.toMessage)
      (hknows : Knows errand known visit.heard visit.dialogue)
      (hstands : account.Stands messages (known ++ told) visit.hops)
  | informed (known told : List HopEvent) (number : UInt32)
      (hstage : visit.stage = .answering [.version number]) (hrequests : visit.requests = [])
      (hupcoming : visit.connection.upcoming = told.map HopEvent.toMessage)
      (hknows : Knows errand known visit.heard visit.dialogue)
      (hmoment : Moment engine first messages account acts (known ++ told))
  | closing (known told late : List HopEvent) (number : UInt32) (hstage : visit.stage = .listening)
      (hrequests : visit.requests = [])
      (hupcoming : visit.connection.upcoming =
        told.map HopEvent.toMessage ++ .version number :: late.map HopEvent.toMessage)
      (hknows : Knows errand known visit.heard visit.dialogue)
      (hmoment : Moment engine first messages account acts (known ++ told))
  | finished (hover : visit.dialogue.IsOver)
      (houtcome : Outcome engine first errand messages account acts visit)

end Run

variable {engine : Engine σ} {first visit next : Visit σ} {errand : Errand}
  {messages : List ClientMessage} {account : Account} {acts : List (Act σ)}

theorem Moment.longer {told : List HopEvent} (h : Moment engine first messages account acts told)
    (act : Act σ) : Moment engine first messages account (acts ++ [act]) told := by
  obtain ⟨before, now, after, rfl, hstage, hstands⟩ := h
  exact ⟨before, now, after ++ [act], by rw [List.append_assoc, List.cons_append], hstage, hstands⟩

theorem Moment.append {told said : List HopEvent}
    (h : Moment engine first messages account acts told)
    (hsaid : said = [] ∨ .backendFailure ∈ said) :
    Moment engine first messages account acts (told ++ said) := by
  obtain ⟨before, now, after, hacts, hstage, hstands⟩ := h
  refine ⟨before, now, after, hacts, hstage, hstands.append ?_⟩
  exact hsaid.imp_left fun hnothing => ⟨hnothing, rfl⟩

/-- A step over which only the service may say something, and if so, raises an alarm. -/
structure Calm (visit next : Visit σ) (said : List HopEvent) : Prop where
  stage : next.stage = visit.stage
  requests : next.requests = visit.requests
  dialogue : next.dialogue = visit.dialogue
  heard : next.heard = visit.heard
  upcoming : next.connection.upcoming = visit.connection.upcoming ++ said.map HopEvent.toMessage
  said : Account.IsCalm said visit.hops next.hops

theorem Calm.refl (visit : Visit σ) : Calm visit visit [] :=
  ⟨rfl, rfl, rfl, rfl, (List.append_nil _).symm, .inl ⟨rfl, rfl⟩⟩

theorem Calm.knows {said known : List HopEvent} (h : Calm visit next said)
    (hknows : Knows errand known visit.heard visit.dialogue) :
    Knows errand known next.heard next.dialogue := by
  rwa [h.heard, h.dialogue]

theorem Calm.strike (change : σ → σ) (visit : Visit σ) : Calm visit (visit.strike change) [] :=
  ⟨rfl, rfl, rfl, rfl, (List.append_nil _).symm, .inl ⟨rfl, rfl⟩⟩

theorem Calm.pass (visit : Visit σ) : Calm visit visit.pass [] := by
  refine ⟨visit.toDesk.stage_pass, visit.toDesk.requests_pass, rfl, rfl, ?_, .inl ⟨rfl, ?_⟩⟩
  · exact visit.toDesk.upcoming_pass.trans (List.append_nil _).symm
  · exact visit.hops_pass

theorem Calm.poll (hsteady : visit.Steady) (engine : Engine σ)
    (hmissed : (visit.poll engine).connection.missed = 0) :
    ∃ said, Calm visit (visit.poll engine) said := by
  obtain ⟨said, hevents, hsaid⟩ := Service.poll_law hsteady.taken engine
  have hcalm :=
    hsaid.imp_left fun ⟨hnothing, hchain⟩ => And.intro hnothing (congrArg Chain.hops hchain)
  refine ⟨said, rfl, rfl, rfl, rfl, ?_, hcalm⟩
  rw [← hevents]
  exact Connection.upcoming_notify hsteady.subscribed hmissed

theorem Knows.heardNext {known : List HopEvent} (h : Knows errand known visit.heard visit.dialogue)
    (event : HopEvent) (rest : List DaemonMessage) :
    Knows errand (known ++ [event]) (visit.heardNext event.toMessage rest).heard
        (visit.heardNext event.toMessage rest).dialogue ∧
      (visit.heardNext event.toMessage rest).requests = visit.requests := by
  obtain ⟨early, report, hheard⟩ := h.heard
  obtain ⟨dialogue, hreceive, hdialogue⟩ := h.dialogue.receive_event event
  unfold Visit.heardNext
  rw [hreceive]
  refine ⟨⟨⟨early, report, ?_⟩, ?_⟩, List.append_nil _⟩
  · dsimp only
    rw [hheard]
    simp
  · rw [List.flatMap_append, List.flatMap_singleton]
    exact hdialogue

namespace Progress

/-- Once a command is done, it prints nothing more. -/
theorem later (hover : next.dialogue.IsOver)
    (hprinted : next.dialogue.printed = visit.dialogue.printed)
    (hheard : ∃ more, next.heard = visit.heard ++ more)
    (houtcome : Outcome engine first errand messages account acts visit) (act : Act σ) :
    Progress engine first errand messages account (acts ++ [act]) next := by
  obtain ⟨more, hmore⟩ := hheard
  refine .finished hover ?_
  unfold Outcome at houtcome ⊢
  rw [hprinted]
  refine houtcome.imp_right ?_
  rintro ⟨early, report, told, late, hheard, hlast, hmoment⟩
  refine ⟨early, report, told, late ++ more, ?_, hlast, hmoment.longer act⟩
  rw [hmore, hheard]
  simp

/-- A step that leaves a command alone that is done. -/
theorem later_of_same (hsame : next.dialogue = visit.dialogue ∧ next.heard = visit.heard)
    (hover : visit.dialogue.IsOver)
    (houtcome : Outcome engine first errand messages account acts visit)
    (act : Act σ) : Progress engine first errand messages account (acts ++ [act]) next :=
  later (hsame.1 ▸ hover) (congrArg _ hsame.1) ⟨[], hsame.2.trans (List.append_nil _).symm⟩
    houtcome act

theorem calm {said : List HopEvent} (h : Progress engine first errand messages account acts visit)
    (hcalm : Calm visit next said) (act : Act σ) :
    Progress engine first errand messages account (acts ++ [act]) next := by
  obtain ⟨hstage', hrequests', hdialogue', hheard', hupcoming', hsaid⟩ := id hcalm
  cases h with
  | opening early hopens hupcoming hdialogue =>
    refine .opening (early ++ said) (by rwa [hstage', hrequests']) ?_ (hdialogue' ▸ hdialogue)
    rw [hupcoming', hupcoming, List.map_append]
  | reported early told report hstage hrequests hupcoming hdialogue hstands =>
    refine .reported early (told ++ said) report (hstage'.trans hstage)
      (hrequests'.trans hrequests) ?_
      (hdialogue' ▸ hdialogue) (hstands.append hsaid)
    rw [hupcoming', hupcoming, List.map_append, List.append_assoc, List.cons_append]
  | serving known told owed done hworks hupcoming hknows hstands =>
    refine .serving known (told ++ said) owed done (by rwa [hstage', hrequests']) ?_
      (hcalm.knows hknows) ?_
    · rw [hupcoming', hupcoming, List.map_append]
    · rw [← List.append_assoc]
      exact hstands.insert hsaid
  | inquiring known told hstage hrequests hupcoming hknows hstands =>
    refine .inquiring known (told ++ said) (hstage'.trans hstage) (hrequests'.trans hrequests) ?_
      (hcalm.knows hknows) ?_
    · rw [hupcoming', hupcoming, List.map_append]
    · rw [← List.append_assoc]
      exact hstands.append hsaid
  | informed known told number hstage hrequests hupcoming hknows hmoment =>
    refine .informed known (told ++ said) number (hstage'.trans hstage)
      (hrequests'.trans hrequests) ?_
      (hcalm.knows hknows) ?_
    · rw [hupcoming', hupcoming, List.map_append]
    -- The moment is past, so what is said now cannot be accounted for unless it is an alarm.
    · rw [← List.append_assoc]
      exact (hmoment.append (hsaid.imp_left And.left)).longer act
  | closing known told late number hstage hrequests hupcoming hknows hmoment =>
    refine .closing known told (late ++ said) number (hstage'.trans hstage)
      (hrequests'.trans hrequests) ?_
      (hcalm.knows hknows) (hmoment.longer act)
    rw [hupcoming', hupcoming, List.map_append, List.append_assoc, List.cons_append]
  | finished hover houtcome =>
    exact later_of_same ⟨hdialogue', hheard'⟩ hover houtcome act

theorem idle (h : Progress engine first errand messages account acts visit) (act : Act σ) :
    Progress engine first errand messages account (acts ++ [act]) visit :=
  h.calm (.refl visit) act

/-- The account is kept over a message of the command that is handled. -/
theorem execute_message {now : String} {message : ClientMessage} {known told : List HopEvent}
    {done todo : List ClientMessage} (hkeeps : account.Keeps engine messages)
    (hsteady : visit.Steady) (hmissed : (visit.execute engine now).connection.missed = 0)
    (hall : messages = done ++ message :: todo)
    (hstage : visit.stage = .waiting (Message.client message).parcel)
    (hrequests : visit.requests = todo ++ [.version])
    (hupcoming : visit.connection.upcoming = told.map HopEvent.toMessage)
    (hknows : Knows errand known visit.heard visit.dialogue)
    (hstands : account.Stands done (known ++ told) visit.hops) :
    Progress engine first errand messages account acts (visit.execute engine now) := by
  obtain ⟨said, owed, hevents, hreplies, hkept⟩ :=
    hkeeps.handled message (by simp [hall]) now visit.service hsteady.taken
  rw [execute_waiting hstage] at hmissed ⊢
  have hnotify := Connection.upcoming_notify hsteady.subscribed hmissed
  refine .serving known (told ++ said) owed (done ++ [message]) ?_ ?_ hknows ?_
  · dsimp only [Desk.takeUp, Desk.carryOut]
    rw [hreplies, hrequests]
    exact .answered _ todo owed (by simp [hall])
  · exact hnotify.trans (by rw [hupcoming, hevents, List.map_append])
  · rw [← List.append_assoc]
    refine hstands.imp (fun halarm => ?_) (hkept done _)
    exact List.mem_append_left _ (List.mem_append_left _ halarm)

/-- When the version query is taken up, the account is true of all that is under way. -/
theorem execute_version {now : String} {known told : List HopEvent}
    (hvisit : first.play engine acts = visit) (hsteady : visit.Steady)
    (hmissed : (visit.execute engine now).connection.missed = 0)
    (hstage : visit.stage = .waiting (Message.client .version).parcel)
    (hrequests : visit.requests = [])
    (hupcoming : visit.connection.upcoming = told.map HopEvent.toMessage)
    (hknows : Knows errand known visit.heard visit.dialogue)
    (hstands : account.Stands messages (known ++ told) visit.hops) :
    Progress engine first errand messages account (acts ++ [.execute now])
      (visit.execute engine now) := by
  have hinquiring : visit.isInquiring = true := by
    unfold isInquiring
    rw [hstage]
    rfl
  obtain ⟨hreplies, hevents⟩ := Service.react_version hsteady.taken engine now
  rw [execute_waiting hstage] at hmissed ⊢
  have hnotify := Connection.upcoming_notify hsteady.subscribed hmissed
  refine .informed known told protocolVersion (congrArg Stage.answering hreplies) hrequests
    ?_ hknows ?_
  · exact hnotify.trans (by rw [hupcoming, hevents, List.append_nil])
  · exact ⟨acts, now, [], rfl, hvisit ▸ hinquiring, hvisit ▸ hstands⟩

theorem execute {now : String}
    (h : Progress engine first errand messages account acts (first.play engine acts))
    (hsteady : (first.play engine acts).Steady) (hkeeps : account.Keeps engine messages)
    (hmissed : ((first.play engine acts).execute engine now).connection.missed = 0) :
    Progress engine first errand messages account (acts ++ [.execute now])
      ((first.play engine acts).execute engine now) := by
  generalize hvisit : first.play engine acts = visit at h hsteady hmissed ⊢
  cases hstage : visit.stage with
  | listening =>
    rw [execute_idle fun _ hwaiting => Stage.noConfusion (hstage.symm.trans hwaiting)]
    exact h.idle _
  | answering replies =>
    rw [execute_idle fun _ hwaiting => Stage.noConfusion (hstage.symm.trans hwaiting)]
    exact h.idle _
  | waiting parcel =>
    cases h with
    | opening said hopens hupcoming hdialogue =>
      rw [hstage] at hopens
      rw [execute_waiting hstage] at hmissed ⊢
      have hnotify := Connection.upcoming_notify hsteady.subscribed hmissed
      generalize hrequests : visit.requests = requests at hopens
      cases hopens with
      | asked =>
        obtain ⟨report, hreplies⟩ := Service.react_report engine now visit.service
        obtain ⟨more, hevents⟩ :=
          Service.exists_said engine now (Message.client .status).parcel visit.service
        refine .opening (said ++ more) ?_ ?_ hdialogue
        · dsimp only [Desk.takeUp, Desk.carryOut]
          rw [hreplies, hrequests]
          exact .answered report
        · exact hnotify.trans (by rw [hupcoming, hevents, List.map_append])
    | reported _ _ _ hlistening _ _ _ _ => cases hstage.symm.trans hlistening
    | serving known told owed done hworks hupcoming hknows hstands =>
      rw [hstage] at hworks
      generalize hrequests : visit.requests = requests at hworks
      cases hworks with
      | asked message done todo hall =>
        rw [List.append_nil] at hstands
        exact execute_message hkeeps hsteady hmissed hall hstage hrequests hupcoming hknows hstands
    | inquiring known told hinquiring hrequests hupcoming hknows hstands =>
      exact execute_version hvisit hsteady hmissed hinquiring hrequests hupcoming hknows hstands
    | informed _ _ _ hanswering _ _ _ _ => cases hstage.symm.trans hanswering
    | closing _ _ _ _ hlistening _ _ _ _ => cases hstage.symm.trans hlistening
    | finished hover houtcome =>
      rw [execute_waiting hstage]
      refine later_of_same ?_ hover houtcome _
      exact ⟨rfl, rfl⟩

theorem read (h : Progress engine first errand messages account acts visit)
    (hsteady : visit.Steady) :
    Progress engine first errand messages account (acts ++ [.read]) visit.read := by
  by_cases hidle : visit.stage = .listening → visit.requests = []
  · rw [read_idle hidle]
    exact h.idle _
  obtain ⟨hstage, hsome⟩ := Classical.not_imp.mp hidle
  obtain ⟨request, rest, hcons⟩ := List.exists_cons_of_ne_nil hsome
  rw [read_cons hstage hcons hsteady.read]
  cases h with
  | opening said hopens hupcoming hdialogue =>
    rw [hstage, hcons] at hopens
    cases hopens
    exact .opening said .asked hupcoming hdialogue
  | reported _ _ _ _ hrequests _ _ _ => exact absurd hrequests hsome
  | serving known told owed done hworks hupcoming hknows hstands =>
    rw [hstage] at hworks
    generalize hrequests : visit.requests = requests at hworks
    rw [hcons] at hrequests
    cases hworks with
    | idle done todo hall =>
      cases todo with
      | nil =>
        cases hrequests
        rw [List.append_nil] at hall hstands
        exact .inquiring known told rfl rfl hupcoming hknows (hall ▸ hstands)
      | cons message todo =>
        cases hrequests
        exact .serving known told [] done (.asked request done todo hall) hupcoming
          hknows hstands
  | inquiring _ _ _ hrequests _ _ _ => exact absurd hrequests hsome
  | informed _ _ _ _ hrequests _ _ _ => exact absurd hrequests hsome
  | closing _ _ _ _ _ hrequests _ _ _ => exact absurd hrequests hsome
  | finished hover houtcome =>
    refine later_of_same ?_ hover houtcome _
    exact ⟨rfl, rfl⟩

theorem reply (h : Progress engine first errand messages account acts visit)
    (hsteady : visit.Steady) (hkeeps : account.Keeps engine messages) :
    Progress engine first errand messages account (acts ++ [.reply]) visit.reply := by
  cases hstage : visit.stage with
  | listening =>
    rw [reply_idle fun _ hanswering => Stage.noConfusion (hstage.symm.trans hanswering)]
    exact h.idle _
  | waiting parcel =>
    rw [reply_idle fun _ hanswering => Stage.noConfusion (hstage.symm.trans hanswering)]
    exact h.idle _
  | answering replies =>
    rw [reply_answering hstage]
    obtain ⟨hreplied, -, -⟩ := Connection.reply_law hsteady.subscribed replies
    cases h with
    | opening said hopens hupcoming hdialogue =>
      rw [hstage] at hopens
      generalize hrequests : visit.requests = requests at hopens
      cases hopens with
      | answered report =>
        refine .reported said [] report rfl rfl ?_ hdialogue (.inr (hkeeps.fresh _))
        exact hreplied.trans (by rw [hupcoming]; rfl)
    | reported _ _ _ hlistening _ _ _ _ => cases hstage.symm.trans hlistening
    | serving known told owed done hworks hupcoming hknows hstands =>
      rw [hstage] at hworks
      generalize hrequests : visit.requests = requests at hworks
      cases hworks with
      | answered done todo owed hall =>
        refine .serving known (told ++ owed) [] done ?_ ?_ hknows ?_
        · exact .idle done todo hall
        · exact hreplied.trans (by rw [hupcoming, List.map_append])
        · rwa [List.append_nil, ← List.append_assoc]
    | inquiring _ _ hwaiting _ _ _ _ => cases hstage.symm.trans hwaiting
    | informed known told number hanswering hrequests hupcoming hknows hmoment =>
      rw [hstage] at hanswering
      cases hanswering
      refine .closing known told [] number rfl hrequests ?_ hknows (hmoment.longer _)
      exact hreplied.trans (by rw [hupcoming]; rfl)
    | closing _ _ _ _ hlistening _ _ _ _ => cases hstage.symm.trans hlistening
    | finished hover houtcome =>
      refine later_of_same ?_ hover houtcome _
      exact ⟨rfl, rfl⟩

/-- The report makes the command send its messages. -/
theorem hear_report {report : StatusReport} {told : List HopEvent} {rest : List DaemonMessage}
    (hsends : errand.Sends messages) (hstage : visit.stage = .listening)
    (hrequests : visit.requests = [])
    (hupcoming : (visit.heardNext (.status report) rest).connection.upcoming =
      told.map HopEvent.toMessage)
    (hdialogue : visit.dialogue.At errand .initializing .opening "")
    (hstands : account.Stands [] told visit.hops) :
    Progress engine first errand messages account acts (visit.heardNext (.status report) rest) := by
  obtain ⟨begun, since, hbegun, hreceive⟩ := hdialogue.receive_report report
  obtain ⟨dialogue, hbegin, hdialogue'⟩ := hsends begun report.connected since hbegun
  rw [hbegin] at hreceive
  have hreceive := hreceive (by rw [hdialogue'.stage]; exact nofun)
  refine .serving [] told [] [] ?_ hupcoming ⟨⟨visit.heard, report, rfl⟩, ?_⟩ ?_
  · rw [stage_heardNext, requests_heardNext, hreceive, hrequests, hstage]
    exact .idle [] messages rfl
  · rwa [dialogue_heardNext, hreceive]
  · rwa [List.nil_append, List.append_nil]

/-- The answer to its version query makes the command conclude. -/
theorem hear_version {number : UInt32} {known : List HopEvent} {rest : List DaemonMessage}
    (hknows : Knows errand known visit.heard visit.dialogue)
    (hmoment : Moment engine first messages account acts known) :
    Progress engine first errand messages account acts
      (visit.heardNext (.version number) rest) := by
  obtain ⟨early, report, hheard⟩ := hknows.heard
  obtain ⟨last, hlast, hreceive⟩ := hknows.dialogue.receive_version number
  refine .finished ?_
    (.inr ⟨early, report, known, [.version number], ?_, ⟨last, hlast, ?_⟩, hmoment⟩)
  · unfold heardNext
    rw [hreceive]
    exact last.isOver_conclude _
  · exact congrArg (· ++ [DaemonMessage.version number]) hheard
  · unfold heardNext
    rw [hreceive]

theorem hear (h : Progress engine first errand messages account acts visit)
    (hsends : errand.Sends messages) :
    Progress engine first errand messages account (acts ++ [.hear]) visit.hear := by
  cases hwritten : visit.connection.written with
  | nil =>
    rw [hear_nil hwritten]
    exact h.idle _
  | cons message rest =>
    rw [hear_cons hwritten]
    have hnext := upcoming_eq_cons hwritten
    cases h with
    | opening said hopens hupcoming hdialogue =>
      rw [hupcoming] at hnext
      cases said with
      | nil => cases hnext
      | cons event said =>
        obtain ⟨rfl, hrest⟩ := List.cons.inj hnext
        obtain ⟨dialogue, hreceive, hdialogue'⟩ := hdialogue.receive_early nofun event
        refine .opening said ?_ hrest.symm ?_
        · rwa [requests_heardNext, hreceive, List.append_nil]
        · rwa [dialogue_heardNext, hreceive]
    | reported said told report hstage hrequests hupcoming hdialogue hstands =>
      rw [hupcoming] at hnext
      cases said with
      | nil =>
        obtain ⟨rfl, hrest⟩ := List.cons.inj hnext
        exact hear_report hsends hstage hrequests hrest.symm hdialogue hstands
      | cons event said =>
        obtain ⟨rfl, hrest⟩ := List.cons.inj hnext
        obtain ⟨dialogue, hreceive, hdialogue'⟩ := hdialogue.receive_early nofun event
        refine .reported said told report hstage ?_ hrest.symm ?_ hstands
        · rwa [requests_heardNext, hreceive, List.append_nil]
        · rwa [dialogue_heardNext, hreceive]
    | serving known told owed done hworks hupcoming hknows hstands =>
      rw [hupcoming] at hnext
      cases told with
      | nil => cases hnext
      | cons event told =>
        obtain ⟨rfl, hrest⟩ := List.cons.inj hnext
        obtain ⟨hknows', hrequests'⟩ := hknows.heardNext event rest
        refine .serving (known ++ [event]) told owed done ?_ hrest.symm hknows' ?_
        · rwa [hrequests']
        · rwa [List.append_assoc known]
    | inquiring known told hstage hrequests hupcoming hknows hstands =>
      rw [hupcoming] at hnext
      cases told with
      | nil => cases hnext
      | cons event told =>
        obtain ⟨rfl, hrest⟩ := List.cons.inj hnext
        obtain ⟨hknows', hrequests'⟩ := hknows.heardNext event rest
        refine .inquiring (known ++ [event]) told hstage (hrequests'.trans hrequests) hrest.symm
          hknows' ?_
        rwa [List.append_assoc]
    | informed known told number hstage hrequests hupcoming hknows hmoment =>
      rw [hupcoming] at hnext
      cases told with
      | nil => cases hnext
      | cons event told =>
        obtain ⟨rfl, hrest⟩ := List.cons.inj hnext
        obtain ⟨hknows', hrequests'⟩ := hknows.heardNext event rest
        refine .informed (known ++ [event]) told number hstage (hrequests'.trans hrequests)
          hrest.symm hknows' ?_
        rw [List.append_assoc]
        exact hmoment.longer _
    | closing known told late number hstage hrequests hupcoming hknows hmoment =>
      rw [hupcoming] at hnext
      cases told with
      | nil =>
        obtain ⟨rfl, -⟩ := List.cons.inj hnext
        rw [List.append_nil] at hmoment
        exact hear_version hknows (hmoment.longer _)
      | cons event told =>
        obtain ⟨rfl, hrest⟩ := List.cons.inj hnext
        obtain ⟨hknows', hrequests'⟩ := hknows.heardNext event rest
        refine .closing (known ++ [event]) told late number hstage (hrequests'.trans hrequests)
          hrest.symm
          hknows' ?_
        rw [List.append_assoc]
        exact hmoment.longer _
    | finished hover houtcome =>
      obtain ⟨hstill, hprinted⟩ := hover.follow (visit.dialogue.client.receive message.encode)
      exact later hstill hprinted ⟨[message], rfl⟩ houtcome _

/-- Before its end a command prints nothing. -/
theorem outcome (h : Progress engine first errand messages account acts visit) :
    Outcome engine first errand messages account acts visit := by
  cases h with
  | opening _ _ _ hdialogue => exact .inl hdialogue.printed
  | reported _ _ _ _ _ _ hdialogue _ => exact .inl hdialogue.printed
  | serving _ _ _ _ _ _ hknows _ => exact .inl hknows.dialogue.printed
  | inquiring _ _ _ _ _ hknows _ => exact .inl hknows.dialogue.printed
  | informed _ _ _ _ _ _ hknows _ => exact .inl hknows.dialogue.printed
  | closing _ _ _ _ _ _ _ hknows _ => exact .inl hknows.dialogue.printed
  | finished _ houtcome => exact houtcome

/-- A command that gives up has nothing to say. -/
theorem quit (h : Progress engine first errand messages account acts visit)
    (hover : next.dialogue.IsOver) (hprinted : next.dialogue.printed = visit.dialogue.printed)
    (hheard : next.heard = visit.heard)
    (act : Act σ) : Progress engine first errand messages account (acts ++ [act]) next :=
  later hover hprinted ⟨[], hheard.trans (List.append_nil _).symm⟩ h.outcome act

theorem lose (h : Progress engine first errand messages account acts visit) :
    visit.dialogue.lose.2.IsOver ∧ visit.dialogue.lose.2.printed = visit.dialogue.printed := by
  have hopening (hdialogue : visit.dialogue.At errand .initializing .opening "") :
      visit.dialogue.lose.2.IsOver ∧ visit.dialogue.lose.2.printed = visit.dialogue.printed := by
    rw [hdialogue.printed]
    exact hdialogue.lose nofun (.inl rfl)
  have hsettling {known : List HopEvent} (hknows : Knows errand known visit.heard visit.dialogue) :
      visit.dialogue.lose.2.IsOver ∧ visit.dialogue.lose.2.printed = visit.dialogue.printed := by
    rw [hknows.dialogue.printed]
    exact hknows.dialogue.lose nofun (.inr ⟨_, rfl⟩)
  cases h with
  | opening _ _ _ hdialogue => exact hopening hdialogue
  | reported _ _ _ _ _ _ hdialogue _ => exact hopening hdialogue
  | serving _ _ _ _ _ _ hknows _ => exact hsettling hknows
  | inquiring _ _ _ _ _ hknows _ => exact hsettling hknows
  | informed _ _ _ _ _ _ hknows _ => exact hsettling hknows
  | closing _ _ _ _ _ _ _ hknows _ => exact hsettling hknows
  | finished hover _ => exact hover.follow visit.dialogue.client.lose

end Progress

/-- As long as no event is missed, every visit gets on. -/
theorem progress (hkeeps : account.Keeps engine messages) (hsends : errand.Sends messages)
    {service : Service σ} (hevents : service.core.controller.events = [])
    (hlag : ∀ played, played <+: acts →
      ((start errand service).play engine played).connection.missed = 0) :
    Progress engine (start errand service) errand messages account acts
      ((start errand service).play engine acts) := by
  -- The steps before the last one have missed nothing either, so the induction is on the end of the
  -- run.
  induction acts using List.reverseRecOn with
  | nil => exact .opening [] .unread rfl ⟨rfl, rfl, rfl, rfl, rfl, rfl⟩
  | append_singleton acts last ih =>
    have hsteady := (steady_start errand hevents).play engine acts
    have hmissed := hlag _ List.prefix_rfl
    have h := ih fun played hplayed => hlag played (hplayed.trans (List.prefix_append _ _))
    rw [play_append_singleton] at hmissed ⊢
    cases last with
    | execute now => exact h.execute hsteady hkeeps hmissed
    | poll =>
      obtain ⟨said, hcalm⟩ := Calm.poll hsteady engine hmissed
      exact h.calm hcalm _
    | strike change => exact h.calm (.strike change _) _
    | read => exact h.read hsteady
    | pass => exact h.calm (.pass _) _
    | reply => exact h.reply hsteady hkeeps
    | hear => exact h.hear hsends
    | expire =>
      refine h.quit ?_ ?_ ?_ .expire
      · exact Errand.Dialogue.isOver_timeOut _
      · exact Errand.Dialogue.printed_timeOut _
      · rfl
    | lose =>
      refine h.quit ?_ ?_ ?_ .lose
      · exact h.lose.1
      · exact h.lose.2
      · rfl

/-- A command that has printed something concluded it from what it was told, of which the account
was true when the daemon took up the version query. -/
theorem outcome_of_printed (hkeeps : account.Keeps engine messages) (hsends : errand.Sends messages)
    {service : Service σ} (hevents : service.core.controller.events = [])
    (hlag : ∀ played, played <+: acts →
      ((start errand service).play engine played).connection.missed = 0)
    (hprinted : ((start errand service).play engine acts).dialogue.printed ≠ "") :
    ∃ (early : List DaemonMessage) (report : StatusReport) (told : List HopEvent)
      (late : List DaemonMessage) (last : Errand.Dialogue),
      ((start errand service).play engine acts).heard =
        early ++ .status report :: told.map HopEvent.toMessage ++ late ∧
      last.At errand .ready (.settling (told.flatMap HopEvent.surfaced)) "" ∧
      ((start errand service).play engine acts).dialogue.printed =
        (last.conclude (told.flatMap HopEvent.surfaced)).printed ∧
      Moment engine (start errand service) messages account acts told := by
  obtain ⟨early, report, told, late, hheard, ⟨last, hlast, hconclude⟩, hmoment⟩ :=
    (progress hkeeps hsends hevents hlag).outcome.resolve_left hprinted
  exact ⟨early, report, told, late, last, hheard, hlast, hconclude, hmoment⟩

end Visit

end TunnelChain
