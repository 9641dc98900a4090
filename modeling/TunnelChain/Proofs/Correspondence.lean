import TunnelChain.Proofs.LogDelivery

/-!
# Which query a log answers

Queries for the log and the answers to them carry no number, and a session keeps only the request
that came last. Of the queries under way, the oldest is answered first: so its answer goes to the
request that waits, whichever query that one sent.
-/

namespace TunnelChain

/-- What has been given to whoever made a request for the log: the call with the request, the call
whose query it answers, and the text. -/
structure Gift where
  callback : Nat
  origin : Nat
  text : String
deriving DecidableEq, Repr

/-- A session and a daemon that talk about the log, and what is under way between them. Every
message goes by the number of the call that it was sent by or that it answers; `handled` keeps the
log as it was when the message of a call was handled. -/
structure Talk (σ : Type) where
  session : Session Nat
  service : Service σ
  calls : Nat
  upward : List (Nat × ClientMessage)
  handled : List (Nat × LogBuffer)
  downward : List (Nat × DaemonMessage)
  given : List Gift

namespace Talk

variable {σ : Type}

def start (session : Session Nat) (service : Service σ) : Talk σ :=
  ⟨session, service, 0, [], [], [], []⟩

/-- A call that is made to the session; what it drops gets no log. -/
def call (make : Nat → Session Nat → Transition Nat × Session Nat) (talk : Talk σ) : Talk σ :=
  let (transition, session) := make talk.calls talk.session
  { talk with
    session
    calls := talk.calls + 1
    upward := talk.upward ++ transition.outbound.map fun message => (talk.calls, message) }

def handle (engine : Engine σ) (now : String) (talk : Talk σ) : Talk σ :=
  match talk.upward with
  | [] => talk
  | (number, message) :: rest =>
    let (replies, service) := talk.service.handle engine now (Message.client message).parcel
    { talk with
      service
      upward := rest
      handled := talk.handled ++ [(number, talk.service.logs)]
      downward := talk.downward ++ replies.map fun reply => (number, reply) }

def deliver (talk : Talk σ) : Talk σ :=
  match talk.downward with
  | [] => talk
  | (origin, message) :: rest =>
    let (transition, session) := talk.session.handle (Message.daemon message).parcel
    { talk with
      session
      downward := rest
      given := talk.given ++ transition.replies.map fun reply => ⟨reply.1, origin, reply.2⟩ }

/-- What can happen next; whatever else the daemon does may change it in any way. -/
inductive Act (σ : Type) where
  | request
  | clear
  | handle (now : String)
  | deliver
  | disturb (change : Service σ → Service σ)

def step (engine : Engine σ) (talk : Talk σ) : Act σ → Talk σ
  | .request => talk.call fun number session => session.requestLogs number
  | .clear => talk.call fun _ session => session.clearLogs
  | .handle now => talk.handle engine now
  | .deliver => talk.deliver
  | .disturb change => { talk with service := change talk.service }

def play (engine : Engine σ) (talk : Talk σ) (acts : List (Act σ)) : Talk σ :=
  acts.foldl (step engine) talk

/-- The calls whose queries have not been answered to the session, the oldest first. -/
def unanswered (talk : Talk σ) : List Nat :=
  talk.downward.map Prod.fst ++ (talk.upward.filter (·.2 = .logs)).map Prod.fst

/-- What the daemon answers to a query that it handles while the log is this. -/
def reply (query : Nat × LogBuffer) : Nat × DaemonMessage :=
  (query.1, .ofLog query.2.contents)

/-- What holds at any time: the messages of all calls are handled in their order, and answered in
it. -/
structure Orderly (talk : Talk σ) : Prop where
  ready : talk.session.phase = .ready
  inOrder : talk.handled.map Prod.fst ++ talk.upward.map Prod.fst = List.range talk.calls
  asked : ∀ query ∈ talk.upward, query.2 = .logs ∨ query.2 = .cleanLogs
  answered : talk.downward.Sublist (talk.handled.map reply)
  given : ∀ gift ∈ talk.given, gift.callback < talk.calls ∧
    ∃ logs, (gift.origin, logs) ∈ talk.handled ∧ gift.text = unbarred logs.contents
  waiting : ∀ callback ∈ talk.session.waiting, callback < talk.calls

variable {engine : Engine σ} {talk next : Talk σ}

/-! ## What a step can do -/

inductive Moves (talk : Talk σ) : Talk σ → Prop where
  | idle (service : Service σ) : Moves talk { talk with service }
  | request : Moves talk
      { talk with
        session := { talk.session with waiting := some talk.calls }
        calls := talk.calls + 1
        upward := talk.upward ++ [(talk.calls, .logs)] }
  | clear : Moves talk
      { talk with
        session := { talk.session with waiting := none }
        calls := talk.calls + 1
        upward := talk.upward ++ [(talk.calls, .cleanLogs)] }
  | answer {number : Nat} {rest : List (Nat × ClientMessage)} (service : Service σ)
      (hupward : talk.upward = (number, .logs) :: rest) : Moves talk
      { talk with
        service
        upward := rest
        handled := talk.handled ++ [(number, talk.service.logs)]
        downward := talk.downward ++ [(number, .ofLog talk.service.logs.contents)] }
  | clean {number : Nat} {rest : List (Nat × ClientMessage)} (service : Service σ)
      (hupward : talk.upward = (number, .cleanLogs) :: rest) : Moves talk
      { talk with
        service
        upward := rest
        handled := talk.handled ++ [(number, talk.service.logs)] }
  | deliver {query : Nat × LogBuffer} {rest : List (Nat × DaemonMessage)}
      (hquery : query ∈ talk.handled) (hdownward : talk.downward = reply query :: rest) : Moves talk
      { talk with
        session := { talk.session with waiting := none }
        downward := rest
        given := talk.given ++ talk.session.waiting.toList.map fun callback =>
          ⟨callback, query.1, unbarred query.2.contents⟩ }

theorem moves_handle (h : talk.Orderly) (now : String) : Moves talk (talk.handle engine now) := by
  unfold handle
  cases hupward : talk.upward with
  | nil => exact .idle talk.service
  | cons query rest =>
    obtain ⟨number, message⟩ := query
    obtain rfl | rfl : message = .logs ∨ message = .cleanLogs :=
      h.asked _ (hupward ▸ List.mem_cons_self)
    · exact .answer _ hupward
    · have hnone : (talk.service.handle engine now (Message.client .cleanLogs).parcel).1 = [] := rfl
      dsimp only
      rw [hnone, List.map_nil, List.append_nil]
      exact .clean _ hupward

theorem moves_deliver (h : talk.Orderly) : Moves talk talk.deliver := by
  unfold deliver
  cases hdownward : talk.downward with
  | nil => exact .idle talk.service
  | cons first rest =>
    have hfirst : first ∈ talk.handled.map reply :=
      h.answered.subset (hdownward ▸ List.mem_cons_self)
    obtain ⟨query, hquery, rfl⟩ := List.mem_map.mp hfirst
    have hmove := Moves.deliver hquery hdownward
    dsimp only [reply]
    rw [Session.handle_logs h.ready]
    cases hwaiting : talk.session.waiting
    all_goals
      rw [hwaiting] at hmove
      exact hmove

theorem moves_step (h : talk.Orderly) (act : Act σ) : Moves talk (talk.step engine act) := by
  cases act with
  | request =>
    simp only [step, call, Session.requestLogs, if_pos h.ready]
    exact .request
  | clear =>
    simp only [step, call, Session.clearLogs, if_pos h.ready]
    exact .clear
  | handle now => exact moves_handle h now
  | deliver => exact moves_deliver h
  | disturb change => exact .idle _

/-! ## What every step keeps -/

theorem orderly_start {session : Session Nat} (hready : session.phase = .ready)
    (hwaiting : session.waiting = none) (service : Service σ) :
    (start session service).Orderly where
  ready := hready
  inOrder := rfl
  asked := List.forall_mem_nil _
  answered := .slnil
  given := List.forall_mem_nil _
  waiting callback hcallback := by
    change callback ∈ session.waiting at hcallback
    rw [hwaiting] at hcallback
    cases hcallback

theorem Orderly.handle (h : talk.Orderly) {number : Nat} {message : ClientMessage}
    {rest : List (Nat × ClientMessage)} (hupward : talk.upward = (number, message) :: rest)
    (service : Service σ) (logs : LogBuffer) {downward : List (Nat × DaemonMessage)}
    (hdownward : downward.Sublist ((talk.handled ++ [(number, logs)]).map reply)) :
    Orderly { talk with
      service, upward := rest, handled := talk.handled ++ [(number, logs)], downward } where
  ready := h.ready
  inOrder := by
    rw [← h.inOrder, hupward, List.map_append, List.append_assoc]
    rfl
  asked query hquery := h.asked query (hupward ▸ List.mem_cons_of_mem _ hquery)
  answered := hdownward
  given gift hgift := by
    obtain ⟨hcallback, logs, hlogs, htext⟩ := h.given gift hgift
    exact ⟨hcallback, logs, List.mem_append_left _ hlogs, htext⟩
  waiting := h.waiting

theorem Orderly.call (h : talk.Orderly) {message : ClientMessage}
    (hmessage : message = .logs ∨ message = .cleanLogs) {waiting : Option Nat}
    (hwaiting : ∀ callback ∈ waiting, callback < talk.calls + 1) :
    Orderly { talk with
      session := { talk.session with waiting }
      calls := talk.calls + 1
      upward := talk.upward ++ [(talk.calls, message)] } where
  ready := h.ready
  inOrder := by
    rw [List.map_append, ← List.append_assoc, h.inOrder]
    exact List.range_succ.symm
  asked := List.forall_mem_append.mpr ⟨h.asked, List.forall_mem_singleton.mpr hmessage⟩
  answered := h.answered
  given gift hgift := (h.given gift hgift).imp_left Nat.lt_succ_of_lt
  waiting := hwaiting

theorem orderly_of_moves (h : talk.Orderly) (hmoves : Moves talk next) : next.Orderly := by
  cases hmoves with
  | idle service => exact { h with }
  | request =>
    refine h.call (.inl rfl) ?_
    rintro callback ⟨⟩
    exact Nat.lt_succ_self _
  | clear => exact h.call (.inr rfl) nofun
  | answer service hupward =>
    refine h.handle hupward service _ ?_
    rw [List.map_append]
    exact h.answered.append (.refl _)
  | clean service hupward =>
    refine h.handle hupward service _ ?_
    rw [List.map_append]
    exact h.answered.trans (List.sublist_append_left _ _)
  | deliver hquery hdownward =>
    refine ⟨h.ready, h.inOrder, h.asked, ?_, ?_, nofun⟩
    · exact (List.sublist_cons_self _ _).trans (hdownward ▸ h.answered)
    · refine List.forall_mem_append.mpr
        ⟨h.given, List.forall_mem_map.mpr fun callback hcallback => ?_⟩
      exact ⟨h.waiting callback (Option.mem_toList.mp hcallback), _, hquery, rfl⟩

theorem orderly_play (h : talk.Orderly) (acts : List (Act σ)) :
    (talk.play engine acts).Orderly := by
  induction acts generalizing talk with
  | nil => exact h
  | cons act rest ih => exact ih (orderly_of_moves h (moves_step h act))

/-! ## The queries under way -/

/-- The queries under way are in the order of their calls. -/
theorem Orderly.unanswered_sublist (h : talk.Orderly) :
    talk.unanswered.Sublist (List.range talk.calls) := by
  have hdownward := h.answered.map Prod.fst
  rw [List.map_map] at hdownward
  rw [← h.inOrder]
  exact hdownward.append ((List.filter_sublist).map _)

/-- What is known of a request once it has been made, and these queries are under way. -/
structure Tracks (queue : List Nat) (callback : Nat) (talk : Talk σ) : Prop where
  called : callback < talk.calls
  awaited : talk.session.waiting = some callback → talk.unanswered = queue
  given : ∀ gift ∈ talk.given, gift.callback = callback → queue.head? = some gift.origin

theorem tracks_request (h : talk.Orderly) :
    Tracks (talk.unanswered ++ [talk.calls]) talk.calls (talk.step engine .request) := by
  simp only [step, call, Session.requestLogs, if_pos h.ready]
  refine ⟨Nat.lt_succ_self _, fun _ => ?_, fun gift hgift hcallback => ?_⟩
  · simp [unanswered, Transition.withReplies, Transition.send, List.filter_append]
  · exact absurd (hcallback ▸ (h.given gift hgift).1) (Nat.lt_irrefl _)

theorem tracks_of_moves {queue : List Nat} {callback : Nat} (h : Tracks queue callback talk)
    (hmoves : Moves talk next) : Tracks queue callback next := by
  cases hmoves with
  | idle service => exact { h with }
  | request =>
    refine ⟨Nat.lt_succ_of_lt h.called, fun hwaiting => ?_, h.given⟩
    exact absurd (Option.some.inj hwaiting) h.called.ne'
  | clear => exact ⟨Nat.lt_succ_of_lt h.called, nofun, h.given⟩
  | answer service hupward =>
    refine ⟨h.called, fun hwaiting => ?_, h.given⟩
    rw [← h.awaited hwaiting, unanswered, unanswered, hupward]
    simp
  | clean service hupward =>
    refine ⟨h.called, fun hwaiting => ?_, h.given⟩
    rw [← h.awaited hwaiting, unanswered, unanswered, hupward]
    simp
  | deliver hquery hdownward =>
    refine ⟨h.called, nofun, ?_⟩
    refine List.forall_mem_append.mpr
      ⟨h.given, List.forall_mem_map.mpr fun tag htag hcallback => ?_⟩
    subst hcallback
    rw [← h.awaited (Option.mem_toList.mp htag), unanswered, hdownward]
    rfl

theorem tracks_play {queue : List Nat} {callback : Nat} (h : Tracks queue callback talk)
    (horderly : talk.Orderly) (acts : List (Act σ)) :
    Tracks queue callback (talk.play engine acts) := by
  induction acts generalizing talk with
  | nil => exact h
  | cons act rest ih =>
    have hmoves : Moves talk (talk.step engine act) := moves_step horderly act
    exact ih (tracks_of_moves h hmoves) (orderly_of_moves horderly hmoves)

/-! ## The order of the calls -/

theorem Orderly.map_fst_handled (h : talk.Orderly) :
    talk.handled.map Prod.fst = List.range talk.handled.length := by
  have hprefix : talk.handled.map Prod.fst <+: List.range talk.calls := ⟨_, h.inOrder⟩
  rw [List.prefix_iff_eq_take.mp hprefix, List.take_range]
  have hlength := hprefix.length_le
  rw [List.length_map, List.length_range] at hlength
  rw [List.length_map, Nat.min_eq_left hlength]

theorem pair_sublist_range {first second count : Nat} :
    [first, second].Sublist (List.range count) ↔ first < second ∧ second < count := by
  constructor
  · intro hsublist
    have hordered := List.pairwise_lt_range.sublist hsublist
    have hmem := hsublist.subset (List.mem_cons_of_mem _ List.mem_cons_self)
    exact ⟨List.rel_of_pairwise_cons hordered List.mem_cons_self, List.mem_range.mp hmem⟩
  · rintro ⟨hfirst, hsecond⟩
    have hpair : [first, second].Sublist (List.range (second + 1)) := by
      rw [List.range_succ]
      exact (List.singleton_sublist.mpr (List.mem_range.mpr hfirst)).append (.refl [second])
    exact hpair.trans (List.range_sublist.mpr hsecond)

theorem calls_le_of_moves (h : Moves talk next) : talk.calls ≤ next.calls := by
  cases h with
  | request => exact Nat.le_succ _
  | clear => exact Nat.le_succ _
  | _ => exact Nat.le_refl _

theorem calls_le_play (h : talk.Orderly) (acts : List (Act σ)) :
    talk.calls ≤ (talk.play engine acts).calls := by
  induction acts generalizing talk with
  | nil => exact Nat.le_refl _
  | cons act rest ih =>
    have hmoves : Moves talk (talk.step engine act) := moves_step h act
    exact (calls_le_of_moves hmoves).trans (ih (orderly_of_moves h hmoves))

theorem play_append (talk : Talk σ) (acts more : List (Act σ)) :
    talk.play engine (acts ++ more) = (talk.play engine acts).play engine more :=
  List.foldl_append

theorem calls_lt_play_clear (h : talk.Orderly) (first second : List (Act σ)) :
    (talk.play engine first).calls < (talk.play engine (first ++ .clear :: second)).calls := by
  have hclear : ((talk.play engine first).step engine .clear).Orderly :=
    orderly_of_moves (orderly_play h first) (moves_step (orderly_play h first) .clear)
  rw [play_append]
  exact calls_le_play hclear second

section Oldest

variable {queue : List Nat} {callback origin : Nat}

theorem origin_eq_iff (hbelow : ∀ number ∈ queue, number < callback)
    (hhead : (queue ++ [callback]).head? = some origin) : origin = callback ↔ queue = [] := by
  cases queue with
  | nil => exact iff_of_true (Option.some.inj hhead).symm rfl
  | cons oldest rest =>
    obtain rfl : oldest = origin := Option.some.inj hhead
    exact iff_of_false (hbelow oldest List.mem_cons_self).ne (List.cons_ne_nil _ _)

theorem lt_origin_iff (hordered : queue.Pairwise (· < ·)) {number : Nat}
    (hnumber : number < callback) (hhead : (queue ++ [callback]).head? = some origin) :
    number < origin ↔ ∀ other ∈ queue, number < other := by
  cases queue with
  | nil => exact iff_of_true (Option.some.inj hhead ▸ hnumber) (List.forall_mem_nil _)
  | cons oldest rest =>
    obtain rfl : oldest = origin := Option.some.inj hhead
    refine ⟨fun h => List.forall_mem_cons.mpr ⟨h, fun other hother => ?_⟩,
      fun h => h oldest List.mem_cons_self⟩
    exact h.trans (List.rel_of_pairwise_cons hordered hother)

end Oldest

/-- **The oldest query is answered first.** A request for the log is given the answer to the oldest
query that is under way when it is made, its own query included: the log as it is when that query is
handled. So it is given the answer to its own query exactly if no other is under way, and what it is
given is read after the log was cleared by an earlier call exactly if every query under way was sent
after that call. -/
theorem given_oldest (engine : Engine σ) (service : Service σ) {session : Session Nat}
    (hready : session.phase = .ready) (hwaiting : session.waiting = none)
    (before after : List (Act σ)) :
    let talk := start session service
    let asking := talk.play engine before
    let last := talk.play engine (before ++ .request :: after)
    ∀ gift ∈ last.given, gift.callback = asking.calls →
      (asking.unanswered ++ [gift.callback]).head? = some gift.origin ∧
      (∃ logs, (gift.origin, logs) ∈ last.handled ∧ gift.text = unbarred logs.contents) ∧
      (gift.origin = gift.callback ↔ asking.unanswered = []) ∧
      ∀ first second, before = first ++ .clear :: second →
        ([(talk.play engine first).calls, gift.origin].Sublist (last.handled.map Prod.fst) ↔
          ∀ number ∈ asking.unanswered, (talk.play engine first).calls < number) := by
  intro talk asking last gift hgift hcallback
  have hstart : talk.Orderly := orderly_start hready hwaiting service
  have hasking : asking.Orderly := orderly_play hstart before
  have hlast : last.Orderly := orderly_play hstart _
  have hnext : (asking.step engine .request).Orderly :=
    orderly_of_moves hasking (moves_step hasking .request)
  have hplay : last = (asking.step engine .request).play engine after := play_append _ _ _
  have htracks : Tracks (asking.unanswered ++ [asking.calls]) asking.calls last := by
    rw [hplay]
    exact tracks_play (tracks_request hasking) hnext after
  have hhead := htracks.given gift hgift hcallback
  have hsublist := hasking.unanswered_sublist
  obtain ⟨-, logs, hlogs, htext⟩ := hlast.given gift hgift
  rw [hcallback]
  refine ⟨hhead, ⟨logs, hlogs, htext⟩, ?_, ?_⟩
  · exact origin_eq_iff (fun number hnumber => List.mem_range.mp (hsublist.subset hnumber)) hhead
  · intro first second hbefore
    have hfirst : (talk.play engine first).calls < asking.calls := by
      change _ < (talk.play engine before).calls
      rw [hbefore]
      exact calls_lt_play_clear hstart first second
    have horigin : gift.origin ∈ last.handled.map Prod.fst := List.mem_map.mpr ⟨_, hlogs, rfl⟩
    rw [hlast.map_fst_handled] at horigin ⊢
    rw [pair_sublist_range, and_iff_left (List.mem_range.mp horigin)]
    exact lt_origin_iff (List.pairwise_lt_range.sublist hsublist) hfirst hhead

def oddTalk : Talk Memory :=
  start ⟨.ready, 0, none⟩ withOddLog

/-- The log is cleared between two requests for it; whether the query of the first one is answered
before the second one is left open. -/
def twoRequests (meanwhile after : List (Act Memory)) : List (Act Memory) :=
  .request :: .clear :: meanwhile ++ .request :: after

/-- The query of the first request is answered late: the second one is given the log as it was
before it was cleared. -/
theorem given_late :
    let last := oddTalk.play Memory.engine
      (twoRequests [] [.handle "now", .deliver, .handle "now", .handle "now", .deliver])
    ∃ gift ∈ last.given,
      gift.callback = (oddTalk.play Memory.engine [.request, .clear]).calls ∧
        gift.origin ≠ gift.callback ∧ gift.text ≠ "" ∧
        ¬ [(oddTalk.play Memory.engine [.request]).calls, gift.origin].Sublist
          (last.handled.map Prod.fst) := by
  refine ⟨⟨2, 0, unbarred withOddLog.logs.contents⟩, ?_⟩
  decide +kernel

/-- The query of the first request is answered in time: the second one is given the log as it is
after it was cleared. -/
theorem given_in_time :
    let last := oddTalk.play Memory.engine
      (twoRequests [.handle "now", .deliver] [.handle "now", .handle "now", .deliver])
    ⟨2, 2, ""⟩ ∈ last.given ∧ [1, 2].Sublist (last.handled.map Prod.fst) := by
  have hgift : ⟨2, 2, ""⟩ ∈ (oddTalk.play Memory.engine
      (twoRequests [.handle "now", .deliver] [.handle "now", .handle "now", .deliver])).given := by
    decide +kernel
  have hanswered : (oddTalk.play Memory.engine
      [.request, .clear, .handle "now", .deliver]).unanswered = [] := by
    decide +kernel
  obtain ⟨-, -, -, hcleared⟩ := given_oldest Memory.engine withOddLog rfl rfl
    [.request, .clear, .handle "now", .deliver] _ _ hgift rfl
  refine ⟨hgift, (hcleared [.request] [.handle "now", .deliver] rfl).mpr ?_⟩
  change ∀ number ∈ (oddTalk.play _ _).unanswered, _
  rw [hanswered]
  exact List.forall_mem_nil _

end Talk

end TunnelChain
