import TunnelChain.Proofs.Course

/-!
# Log requests

Each step of a session hands back the request that waits, or keeps it; a new request takes its
place, or is handed back at once. So what has been asked for is what has been handed back, in this
order, and then what waits.
-/

namespace TunnelChain

variable {τ : Type}

/-- The log requests that a transition hands back. -/
def Transition.answered (transition : Transition τ) : List τ :=
  transition.replies.map Prod.fst

theorem Transition.answered_append (first second : Transition τ) :
    (first.append second).answered = first.answered ++ second.answered :=
  List.map_append

theorem Transition.IsSilent.answered {transition : Transition τ} (h : transition.IsSilent) :
    transition.answered = [] := by
  rw [Transition.answered, h.replies, List.map_nil]

namespace Session

/-- The log request that comes with an input. -/
def Input.request? : Input τ → Option τ
  | .requestLogs tag => some tag
  | _ => none

/-- The log requests that come over a course. -/
def requested (inputs : List (Input τ)) : List τ :=
  inputs.filterMap Input.request?

theorem requested_cons (input : Input τ) (rest : List (Input τ)) :
    requested (input :: rest) = input.request?.toList ++ requested rest := by
  cases hrequest : input.request? with
  | none => exact List.filterMap_cons_none hrequest
  | some tag => exact List.filterMap_cons_some hrequest

variable (session : Session τ)

theorem map_fst_dropped : session.dropped.map Prod.fst = session.waiting.toList := by
  rw [dropped, List.map_map]
  exact List.map_id _

/-! ## What a step keeps -/

theorem answered_fail :
    session.fail.1.answered ++ session.fail.2.waiting.toList = session.waiting.toList := by
  have hdropped := session.map_fst_dropped
  unfold fail
  cases session.phase with
  | disconnected => rfl
  | unknown => exact (List.append_nil _).trans hdropped
  | initializing => exact (List.append_nil _).trans hdropped
  | ready => exact (List.append_nil _).trans hdropped

theorem answered_requestLogs (tag : τ) :
    (session.requestLogs tag).1.answered ++ (session.requestLogs tag).2.waiting.toList =
      session.waiting.toList ++ [tag] := by
  unfold requestLogs
  by_cases hready : session.phase = .ready
  · rw [if_pos hready]
    exact congrArg (· ++ [tag]) session.map_fst_dropped
  · rw [if_neg hready]
    refine (List.append_nil _).trans ?_
    change (session.dropped ++ [(tag, "")]).map Prod.fst = _
    rw [List.map_append, map_fst_dropped]
    rfl

theorem answered_clearLogs :
    session.clearLogs.1.answered ++ session.clearLogs.2.waiting.toList =
      session.waiting.toList := by
  refine (List.append_nil _).trans ?_
  unfold clearLogs
  by_cases hready : session.phase = .ready
  · rw [if_pos hready]
    exact session.map_fst_dropped
  · rw [if_neg hready]
    exact session.map_fst_dropped

theorem answered_handleReady (parcel : Parcel) :
    (session.handleReady parcel).1.answered ++ (session.handleReady parcel).2.waiting.toList =
      session.waiting.toList := by
  unfold handleReady
  split
  · rw [(isSilent_takeStatus _).answered, List.nil_append]
  · rw [(isSilent_takeHopEvent _ _ _).answered, List.nil_append]
  · rw [(isSilent_takeHopEvent _ _ _).answered, List.nil_append]
  · rfl
  · -- The logs have come: the request that waits is answered.
    refine (List.append_nil _).trans ?_
    exact List.map_map.trans (List.map_id _)
  · rfl

/-- What a session hears can only answer the request that waits. -/
theorem answered_handle (parcel : Parcel) :
    (session.handle parcel).1.answered ++ (session.handle parcel).2.waiting.toList =
      session.waiting.toList := by
  unfold handle
  by_cases hversion : parcel.kind = "version"
  · rw [if_pos hversion, (isSilent_takeVersion _).answered, List.nil_append]
  rw [if_neg hversion]
  by_cases hreport : session.phase = .initializing ∧ parcel.kind = "status"
  · rw [if_pos hreport]
    rfl
  rw [if_neg hreport]
  by_cases hready : session.phase = .ready
  · rw [if_pos hready]
    exact session.answered_handleReady parcel
  · rw [if_neg hready]
    rfl

theorem answered_step (input : Input τ) :
    (session.step input).1.answered ++ (session.step input).2.waiting.toList =
      session.waiting.toList ++ input.request?.toList := by
  cases input with
  | requestLogs tag => exact session.answered_requestLogs tag
  | fail => exact session.answered_fail.trans (List.append_nil _).symm
  | clearLogs => exact session.answered_clearLogs.trans (List.append_nil _).symm
  | handle parcel => exact (session.answered_handle parcel).trans (List.append_nil _).symm
  | adopt hops => exact (List.append_nil _).symm
  | connect =>
    simp only [step, connect]
    split <;> exact (List.append_nil _).symm
  | activate plan =>
    simp only [step, activate]
    split
    · exact (List.append_nil _).symm
    · split <;> exact (List.append_nil _).symm
  | deactivate purpose =>
    simp only [step, deactivate]
    split
    · exact (List.append_nil _).symm
    · split <;> exact (List.append_nil _).symm
  | checkStatus =>
    simp only [step, checkStatus]
    split <;> exact (List.append_nil _).symm
  | queryVersion =>
    simp only [step, queryVersion]
    split <;> exact (List.append_nil _).symm

/-- What is asked for over a course is handed back in this order, after what waited before; what is
not handed back waits. -/
theorem answered_run (inputs : List (Input τ)) :
    (session.run inputs).1.answered ++ (session.run inputs).2.waiting.toList =
      session.waiting.toList ++ requested inputs := by
  induction inputs generalizing session with
  | nil => exact (List.append_nil _).symm
  | cons input rest ih =>
    simp only [run, Transition.answered_append]
    calc
      _ = (session.step input).1.answered ++
            ((session.step input).2.waiting.toList ++ requested rest) := by
        rw [List.append_assoc, ih]
      _ = session.waiting.toList ++ requested (input :: rest) := by
        rw [← List.append_assoc, answered_step, requested_cons, List.append_assoc]

/-! ## When a request waits -/

variable {session}

theorem phase_step_ready (h : session.phase = .ready) {input : Input τ} (hinput : input ≠ .fail) :
    (session.step input).2.phase = .ready := by
  cases input with
  | fail => exact absurd rfl hinput
  | adopt hops => exact h
  | activate plan =>
    simp only [step, activate]
    split
    · exact h
    · split <;> exact h
  | deactivate purpose =>
    simp only [step, deactivate]
    split
    · exact h
    · split <;> exact h
  | _ =>
    refine (step_aside ?_).2.2 h
    exact trivial

theorem waited_of_step {input : Input τ} (hinput : input.request? = none)
    (hwaits : (session.step input).2.waiting.isSome) : session.waiting.isSome := by
  have hkept := session.answered_step input
  cases hwaiting : session.waiting with
  | some tag => rfl
  | none =>
    rw [hwaiting, hinput, Option.toList_none, List.append_nil, List.append_eq_nil_iff,
      Option.toList_eq_nil_iff] at hkept
    rw [hkept.2] at hwaits
    cases hwaits

theorem waits_ready_step (h : session.waiting.isSome → session.phase = .ready) (input : Input τ) :
    (session.step input).2.waiting.isSome → (session.step input).2.phase = .ready := by
  intro hwaits
  cases input with
  | fail =>
    simp only [step, fail] at hwaits ⊢
    split at hwaits
    · exact h hwaits
    · cases hwaits
    · cases hwaits
  | requestLogs tag =>
    simp only [step, requestLogs] at hwaits ⊢
    split at hwaits
    · rwa [if_pos ‹session.phase = .ready›]
    · cases hwaits
  | _ => exact phase_step_ready (h (waited_of_step rfl hwaits)) (by simp)

theorem waits_ready_run (h : session.waiting.isSome → session.phase = .ready)
    (inputs : List (Input τ)) :
    (session.run inputs).2.waiting.isSome → (session.run inputs).2.phase = .ready := by
  induction inputs generalizing session with
  | nil => exact h
  | cons input rest ih => exact ih (waits_ready_step h input)

theorem phase_step_disconnected (h : session.phase = .disconnected) (input : Input τ) :
    (session.step input).2.phase = .disconnected := by
  cases input with
  | handle parcel =>
    simp only [step, handle]
    split
    · exact h
    · rw [if_neg (by simp [h]), if_neg (by simp [h])]
      exact h
  | _ =>
    simp [step, connect, fail, adopt, activate, deactivate, checkStatus, queryVersion, requestLogs,
      clearLogs, h]

theorem phase_run_disconnected (h : session.phase = .disconnected) (inputs : List (Input τ)) :
    (session.run inputs).2.phase = .disconnected := by
  induction inputs generalizing session with
  | nil => exact h
  | cons input rest ih => exact ih (phase_step_disconnected h input)

theorem phase_fail (session : Session τ) : session.fail.2.phase = .disconnected := by
  unfold fail
  cases hphase : session.phase with
  | disconnected => exact hphase
  | _ => rfl

theorem phase_run_of_fail {inputs : List (Input τ)} (h : .fail ∈ inputs) (session : Session τ) :
    (session.run inputs).2.phase = .disconnected := by
  obtain ⟨before, after, rfl⟩ := List.append_of_mem h
  rw [run_append]
  exact phase_run_disconnected (phase_fail _) after

/-! ## What becomes of a request -/

variable [DecidableEq τ]

/-- Whether exactly one step of a course hands a request back, and hands it back once. -/
def HandsBackOnce (session : Session τ) (inputs : List (Input τ)) (tag : τ) : Prop :=
  ∃ before input after, inputs = before ++ input :: after ∧
    tag ∉ (session.run before).1.answered ∧
    ((session.run before).2.step input).1.answered.count tag = 1 ∧
    tag ∉ ((session.run (before ++ [input])).2.run after).1.answered

theorem handsBackOnce_of_count {inputs : List (Input τ)} {tag : τ}
    (h : (session.run inputs).1.answered.count tag = 1) : session.HandsBackOnce inputs tag := by
  induction inputs generalizing session with
  | nil => cases h
  | cons input rest ih =>
    simp only [run, Transition.answered_append, List.count_append] at h
    obtain hfirst | ⟨hfirst, hrest⟩ :
        (session.step input).1.answered.count tag = 1 ∧
            ((session.step input).2.run rest).1.answered.count tag = 0 ∨
          (session.step input).1.answered.count tag = 0 ∧
            ((session.step input).2.run rest).1.answered.count tag = 1 := by
      omega
    · exact ⟨[], input, rest, rfl, List.not_mem_nil, hfirst.1, List.count_eq_zero.mp hfirst.2⟩
    · obtain ⟨before, next, after, rfl, hbefore, hnext, hafter⟩ := ih hrest
      refine ⟨input :: before, next, after, rfl, ?_, hnext, hafter⟩
      simp only [run, Transition.answered_append, List.mem_append, not_or]
      exact ⟨List.count_eq_zero.mp hfirst, hbefore⟩

/-- **Every log request is handed back.** Over any course, log requests are handed back in the order
in which they come, and at most the last one still waits. So of a request that comes once it is true
either that it waits, and has not been handed back, or that it has been handed back, by one step and
once. A request waits only while the session is ready, and none waits once the transport has
failed. -/
theorem handed_back_or_waiting (inputs : List (Input τ)) :
    let (transition, last) := (fresh : Session τ).run inputs
    requested inputs = transition.answered ++ last.waiting.toList ∧
      (∀ tag, (requested inputs).count tag = 1 →
        (last.waiting = some tag ∧ tag ∉ transition.answered) ∨
          (last.waiting ≠ some tag ∧ fresh.HandsBackOnce inputs tag)) ∧
      (last.waiting.isSome → last.phase = .ready) ∧
      (.fail ∈ inputs → last.waiting = none) := by
  have hkept : (fresh.run inputs).1.answered ++ (fresh.run inputs).2.waiting.toList =
      requested inputs := fresh.answered_run inputs
  have hstart : (fresh : Session τ).waiting.isSome → (fresh : Session τ).phase = .ready := nofun
  have hready := waits_ready_run hstart inputs
  refine ⟨hkept.symm, fun tag hcount => ?_, hready, fun hfail => ?_⟩
  · rw [← hkept, List.count_append] at hcount
    by_cases hwaiting : (fresh.run inputs).2.waiting = some tag
    · rw [hwaiting, Option.toList_some, List.count_singleton_self] at hcount
      exact .inl ⟨hwaiting, List.count_eq_zero.mp (by omega)⟩
    · have hnone : (fresh.run inputs).2.waiting.toList.count tag = 0 :=
        List.count_eq_zero.mpr fun hmem => hwaiting (Option.mem_toList.mp hmem)
      exact .inr ⟨hwaiting, handsBackOnce_of_count (by omega)⟩
  · have hdisconnected := phase_run_of_fail hfail fresh
    cases hwaiting : (fresh.run inputs).2.waiting with
    | none => rfl
    | some tag =>
      have hphase := hready (Option.isSome_of_eq_some hwaiting)
      exact absurd (hphase.symm.trans hdisconnected) (by decide)

/-- A course in which a request is superseded, one is answered, one is dropped at the failure of the
transport, and one comes after that. -/
def fourRequests : List (Input Nat) :=
  [.connect, .handle (.mk "status" (.obj [("connected", .bool false)])), .requestLogs 1,
    .requestLogs 2, .handle (.mk "logs" (.obj [("logs", .str "up|down")])), .checkStatus,
    .requestLogs 3, .fail, .requestLogs 4]

theorem handed_back_or_waiting_fourRequests :
    (requested fourRequests).count 3 = 1 ∧ fresh.HandsBackOnce fourRequests 3 ∧
      .fail ∈ fourRequests ∧ (fresh.run fourRequests).2.waiting = none ∧
      (fresh.run fourRequests).1.replies = [(1, ""), (2, "up\ndown"), (3, ""), (4, "")] := by
  obtain ⟨-, hrequests, -, hfailed⟩ := handed_back_or_waiting fourRequests
  have hcount : (requested fourRequests).count 3 = 1 := by decide
  have hfail : .fail ∈ fourRequests := by simp [fourRequests]
  have hnone := hfailed hfail
  refine ⟨hcount, ?_, hfail, hnone, by rfl⟩
  obtain ⟨hwaiting, -⟩ | ⟨-, honce⟩ := hrequests 3 hcount
  · rw [hnone] at hwaiting
    cases hwaiting
  · exact honce

end Session

end TunnelChain
