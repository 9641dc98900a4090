import TunnelChain.Proofs.Visit

/-!
# What the core takes up

The requests of a command go to the core one at a time and in the order in which they were sent. At
any time of a visit, those that the core has taken up and those that it has yet to take up are those
that were sent.
-/

namespace TunnelChain

variable {σ : Type}

namespace Visit

/-- What the core takes up in a step. -/
def takes (visit : Visit σ) : Act σ → List Parcel
  | .execute _ => visit.stage.inHand
  | _ => []

/-- What the command sends in a step. -/
def sends (visit : Visit σ) : Act σ → List ClientMessage
  | .hear =>
    match visit.connection.written with
    | [] => []
    | message :: _ => (visit.dialogue.receive message.encode).1
  | _ => []

/-- What the core takes up over these steps, in this order. -/
def takenUp (engine : Engine σ) (visit : Visit σ) : List (Act σ) → List Parcel
  | [] => []
  | act :: rest => visit.takes act ++ (visit.act engine act).takenUp engine rest

/-- What the command sends over these steps, in this order. -/
def sentOver (engine : Engine σ) (visit : Visit σ) : List (Act σ) → List ClientMessage
  | [] => []
  | act :: rest => visit.sends act ++ (visit.act engine act).sentOver engine rest

/-- The parcel of a request. -/
def parcelOf (request : ClientMessage) : Parcel :=
  (Message.client request).parcel

/-- What the core has yet to take up. -/
def pending (visit : Visit σ) : List Parcel :=
  visit.stage.inHand ++ visit.requests.map parcelOf

/-- What a step comes to: nothing, or what its party does when there is something for it to do. -/
inductive Moves (engine : Engine σ) (visit : Visit σ) : Act σ → Visit σ → Prop
  | idle (act : Act σ) (htakes : visit.takes act = []) (hsends : visit.sends act = []) :
    Moves engine visit act visit
  | execute (now : String) (parcel : Parcel) (hstage : visit.stage = .waiting parcel) :
    Moves engine visit (.execute now)
      { visit with toDesk := visit.toDesk.takeUp engine now parcel }
  | poll : Moves engine visit .poll (visit.poll engine)
  | strike (change : σ → σ) : Moves engine visit (.strike change) (visit.strike change)
  | read (request : ClientMessage) (rest : List ClientMessage) (hstage : visit.stage = .listening)
    (hrequests : visit.requests = request :: rest) :
    Moves engine visit .read { visit with toDesk := visit.toDesk.taking request rest }
  | pass : Moves engine visit .pass visit.pass
  | reply (replies : List DaemonMessage) (hstage : visit.stage = .answering replies) :
    Moves engine visit .reply
      { visit with stage := .listening, connection := visit.connection.reply replies }
  | hear (message : DaemonMessage) (rest : List DaemonMessage)
    (hwritten : visit.connection.written = message :: rest) :
    Moves engine visit .hear (visit.heardNext message rest)
  | expire : Moves engine visit .expire { visit with dialogue := visit.dialogue.timeOut }
  | lose : Moves engine visit .lose { visit with dialogue := visit.dialogue.lose.2 }

variable {engine : Engine σ} {visit next : Visit σ} {act : Act σ} {acts : List (Act σ)}
  {parcel : Parcel}

theorem Steady.moves (h : visit.Steady) (engine : Engine σ) (act : Act σ) :
    Moves engine visit act (visit.act engine act) := by
  cases act with
  | execute now =>
    change Moves engine visit _ (visit.execute engine now)
    cases hstage : visit.stage with
    | waiting parcel =>
      rw [execute_waiting hstage]
      exact .execute now parcel hstage
    | listening =>
      rw [execute_idle fun _ hwaiting => Stage.noConfusion (hstage.symm.trans hwaiting)]
      exact .idle _ (by rw [takes, hstage]; rfl) rfl
    | answering replies =>
      rw [execute_idle fun _ hwaiting => Stage.noConfusion (hstage.symm.trans hwaiting)]
      exact .idle _ (by rw [takes, hstage]; rfl) rfl
  | poll => exact .poll
  | strike change => exact .strike change
  | read =>
    change Moves engine visit _ visit.read
    by_cases hnothing : visit.stage = .listening → visit.requests = []
    · rw [read_idle hnothing]
      exact .idle _ rfl rfl
    · obtain ⟨hstage, hsome⟩ := Classical.not_imp.mp hnothing
      obtain ⟨request, rest, hcons⟩ := List.exists_cons_of_ne_nil hsome
      rw [read_cons hstage hcons h.read]
      exact .read request rest hstage hcons
  | pass => exact .pass
  | reply =>
    change Moves engine visit _ visit.reply
    cases hstage : visit.stage with
    | answering replies =>
      rw [reply_answering hstage]
      exact .reply replies hstage
    | listening =>
      rw [reply_idle fun _ hanswering => Stage.noConfusion (hstage.symm.trans hanswering)]
      exact .idle _ rfl rfl
    | waiting parcel =>
      rw [reply_idle fun _ hanswering => Stage.noConfusion (hstage.symm.trans hanswering)]
      exact .idle _ rfl rfl
  | hear =>
    change Moves engine visit _ visit.hear
    cases hwritten : visit.connection.written with
    | nil =>
      rw [hear_nil hwritten]
      exact .idle _ rfl (by rw [sends, hwritten])
    | cons message rest =>
      rw [hear_cons hwritten]
      exact .hear message rest hwritten
  | expire => exact .expire
  | lose => exact .lose

/-- No step loses a request. -/
theorem Moves.conserves (h : Moves engine visit act next) :
    visit.takes act ++ next.pending = visit.pending ++ (visit.sends act).map parcelOf := by
  cases h with
  | idle _ htakes hsends => rw [htakes, hsends, List.map_nil, List.append_nil, List.nil_append]
  | execute now parcel hstage => exact (List.append_nil _).symm
  | read request rest hstage hrequests =>
    have hpending : visit.pending = parcelOf request :: rest.map parcelOf := by
      rw [pending, hstage, hrequests]
      rfl
    rw [hpending]
    exact (List.append_nil _).symm
  | reply replies hstage =>
    have hpending : visit.pending = visit.requests.map parcelOf := by
      rw [pending, hstage]
      rfl
    rw [hpending]
    exact (List.append_nil _).symm
  | hear message rest hwritten =>
    have hsends : visit.sends (.hear : Act σ) = (visit.dialogue.receive message.encode).1 := by
      rw [sends, hwritten]
    rw [hsends, pending, pending, List.append_assoc, ← List.map_append]
    rfl
  | pass =>
    have hpending : visit.pass.pending = visit.pending := by
      unfold pending Visit.pass
      rw [Desk.stage_pass, Desk.requests_pass]
    rw [hpending]
    exact (List.append_nil _).symm
  | poll | strike | expire | lose => exact (List.append_nil _).symm

/-- **No request is lost.** What has been taken up over some steps, and what is left then to be
taken up, is what was left at first, and after it what has been sent. -/
theorem takenUp_append_pending (h : visit.Steady) (engine : Engine σ) (acts : List (Act σ)) :
    visit.takenUp engine acts ++ (visit.play engine acts).pending =
      visit.pending ++ (visit.sentOver engine acts).map parcelOf := by
  induction acts generalizing visit with
  | nil => exact (List.append_nil _).symm
  | cons act rest ih =>
    have hfirst := (h.moves engine act).conserves
    have hrest := ih (h.act engine act)
    calc visit.takenUp engine (act :: rest) ++ (visit.play engine (act :: rest)).pending
      _ = visit.takes act ++ ((visit.act engine act).takenUp engine rest ++
            ((visit.act engine act).play engine rest).pending) := List.append_assoc _ _ _
      _ = (visit.takes act ++ (visit.act engine act).pending) ++
            ((visit.act engine act).sentOver engine rest).map parcelOf := by
          rw [hrest, List.append_assoc]
      _ = visit.pending ++ ((visit.sends act).map parcelOf ++
            ((visit.act engine act).sentOver engine rest).map parcelOf) := by
          rw [hfirst, List.append_assoc]
      _ = visit.pending ++ (visit.sentOver engine (act :: rest)).map parcelOf := by
          rw [sentOver, List.map_append]

theorem takenUp_append (engine : Engine σ) (visit : Visit σ) (played rest : List (Act σ)) :
    visit.takenUp engine (played ++ rest) =
      visit.takenUp engine played ++ (visit.play engine played).takenUp engine rest := by
  induction played generalizing visit with
  | nil => rfl
  | cons act played ih =>
    rw [List.cons_append, takenUp, takenUp, ih, List.append_assoc]
    rfl

theorem sentOver_append_singleton (engine : Engine σ) (visit : Visit σ) (played : List (Act σ))
    (last : Act σ) :
    visit.sentOver engine (played ++ [last]) =
      visit.sentOver engine played ++ (visit.play engine played).sends last := by
  induction played generalizing visit with
  | nil => exact List.append_nil _
  | cons act played ih =>
    rw [List.cons_append, sentOver, sentOver, ih, List.append_assoc]
    rfl

/-- What has been taken up was taken up for the last time at some step. -/
theorem exists_last_of_mem_takenUp (h : parcel ∈ visit.takenUp engine acts) :
    ∃ earlier now later, acts = earlier ++ .execute now :: later ∧
      (visit.play engine earlier).stage = .waiting parcel ∧
      parcel ∉ ((visit.play engine earlier).execute engine now).takenUp engine later := by
  induction acts generalizing visit with
  | nil => cases h
  | cons act rest ih =>
    by_cases hlater : parcel ∈ (visit.act engine act).takenUp engine rest
    · obtain ⟨earlier, now, later, rfl, hstage, hlast⟩ := ih hlater
      exact ⟨act :: earlier, now, later, rfl, hstage, hlast⟩
    · have hnow : parcel ∈ visit.takes act := (List.mem_append.mp h).resolve_right hlater
      cases act with
      | execute now => exact ⟨[], now, rest, rfl, Stage.eq_waiting_of_mem_inHand hnow, hlater⟩
      | _ => cases hnow

theorem exists_of_isInquiring (h : visit.isInquiring = true) :
    ∃ parcel, visit.stage = .waiting parcel ∧ parcel.kind = "version" := by
  unfold isInquiring at h
  split at h
  · rename_i parcel hstage
    exact ⟨parcel, hstage, of_decide_eq_true h⟩
  · cases h

/-- When a version query is to be taken up that was sent after these requests, they have been taken
up, and nothing else. -/
theorem takenUp_of_isInquiring (h : visit.Steady)
    (hinquiring : (visit.play engine acts).isInquiring = true) {requests : List ClientMessage}
    (hrequests : ∀ request ∈ requests, request.kind ≠ "version")
    (hsent : visit.pending ++ (visit.sentOver engine acts).map parcelOf =
      requests.map parcelOf ++ [parcelOf .version]) :
    visit.takenUp engine acts = requests.map parcelOf := by
  obtain ⟨parcel, hstage, hkind⟩ := exists_of_isInquiring hinquiring
  have hother : parcel ∉ requests.map parcelOf := by
    intro hmem
    obtain ⟨request, hrequest, rfl⟩ := List.mem_map.mp hmem
    exact hrequests request hrequest hkind
  have htaken := takenUp_append_pending h engine acts
  rw [hsent, pending, hstage] at htaken
  -- The query is the last of what was sent, and the parcel in hand is a query.
  obtain ⟨between, hcut, hrest⟩ | ⟨between, hcut, hrest⟩ := List.append_eq_append_iff.mp htaken
  · cases between with
    | nil => rw [hcut, List.append_nil]
    | cons next between =>
      obtain ⟨rfl, -⟩ := List.cons.inj hrest
      rw [hcut] at hother
      exact absurd (List.mem_append_right _ List.mem_cons_self) hother
  · cases between with
    | nil => rw [hcut, List.append_nil]
    | cons next between =>
      have hlength := congrArg List.length hrest
      simp [Stage.inHand] at hlength

end Visit

end TunnelChain
