import Mathlib.Data.Finset.Image
import Mathlib.Data.Finset.SDiff
import Mathlib.Data.List.Infix
import TunnelChain.Proofs.Course
import TunnelChain.Proofs.Planning

/-!
# What a stop leaves behind

A session that stops brings down as many hops as its last plan had. It leaves nothing of its own
behind if and only if the last of the plans since the stop before was no shorter than the others:
the switches in between bring nothing down, and the hops that only a longer plan used stay up.
-/

namespace TunnelChain

/-- Whether these messages bring the hop down. -/
def Revokes (messages : List ClientMessage) (hop : HopIndex) : Prop :=
  ∃ named, .deactivate named ∈ messages ∧ named.getD 0 = hop

/-- Whether each activation among these messages is followed by a deactivation of its hop. -/
def Released (messages : List ClientMessage) : Prop :=
  ∀ request after, .activate request :: after <:+ messages → Revokes after (request.hop.getD 0)

/-- The hops that are asked for once a message is sent, if these were before. -/
def claim (claimed : Finset HopIndex) : ClientMessage → Finset HopIndex
  | .activate request => insert (request.hop.getD 0) claimed
  | .deactivate hop => claimed.erase (hop.getD 0)
  | _ => claimed

/-- The hops whose last message is an activation. -/
def claimed (messages : List ClientMessage) : Finset HopIndex :=
  messages.foldl claim ∅

theorem claimed_append (messages more : List ClientMessage) :
    claimed (messages ++ more) = more.foldl claim (claimed messages) :=
  List.foldl_append

variable {message : ClientMessage} {messages : List ClientMessage} {hop : HopIndex}

theorem revokes_cons :
    Revokes (message :: messages) hop ↔
      (∃ named, message = .deactivate named ∧ named.getD 0 = hop) ∨ Revokes messages hop := by
  simp only [Revokes, List.mem_cons, or_and_right, exists_or, eq_comm (a := message)]

/-- Whether an activation of the hop is never taken back. -/
def Lasts (messages : List ClientMessage) (hop : HopIndex) : Prop :=
  ∃ request after, .activate request :: after <:+ messages ∧ request.hop.getD 0 = hop ∧
    ¬ Revokes after hop

theorem lasts_cons :
    Lasts (message :: messages) hop ↔
      (∃ request, message = .activate request ∧ request.hop.getD 0 = hop ∧
        ¬ Revokes messages hop) ∨ Lasts messages hop := by
  constructor
  · rintro ⟨request, after, hsuffix, hhop, hrevokes⟩
    obtain heq | hsuffix := List.suffix_cons_iff.mp hsuffix
    · obtain ⟨rfl, rfl⟩ := List.cons.inj heq
      exact .inl ⟨request, rfl, hhop, hrevokes⟩
    · exact .inr ⟨request, after, hsuffix, hhop, hrevokes⟩
  · rintro (⟨request, rfl, hhop, hrevokes⟩ | ⟨request, after, hsuffix, hhop, hrevokes⟩)
    · exact ⟨request, messages, List.suffix_rfl, hhop, hrevokes⟩
    · exact ⟨request, after, hsuffix.trans (List.suffix_cons _ _), hhop, hrevokes⟩

theorem mem_foldl_claim (messages : List ClientMessage) (held : Finset HopIndex) (hop : HopIndex) :
    hop ∈ messages.foldl claim held ↔
      Lasts messages hop ∨ (hop ∈ held ∧ ¬ Revokes messages hop) := by
  induction messages generalizing held with
  | nil => simp [Lasts, Revokes]
  | cons message rest ih =>
    rw [List.foldl_cons, ih, revokes_cons, lasts_cons]
    cases message with
    | activate request =>
      by_cases hhop : hop = request.hop.getD 0
      · simp [claim, hhop]
        tauto
      · simp [claim, hhop, Ne.symm hhop]
    | deactivate named =>
      by_cases hhop : hop = named.getD 0
      · simp [claim, hhop]
      · simp [claim, hhop, Ne.symm hhop]
    | status => simp [claim]
    | logs => simp [claim]
    | cleanLogs => simp [claim]
    | version => simp [claim]

theorem released_iff : Released messages ↔ claimed messages = ∅ := by
  have hmem (hop : HopIndex) : hop ∈ claimed messages ↔ Lasts messages hop := by
    rw [claimed, mem_foldl_claim]
    simp
  rw [Finset.eq_empty_iff_forall_notMem]
  simp only [hmem]
  constructor
  · rintro h hop ⟨request, after, hsuffix, rfl, hrevokes⟩
    exact hrevokes (h request after hsuffix)
  · intro h request after hsuffix
    by_contra hrevokes
    exact h _ ⟨request, after, hsuffix, rfl, hrevokes⟩

/-- The first hops of a chain; their numbers have 32 bits. -/
def firstHops (count : Nat) : Finset HopIndex :=
  (Finset.range count).image UInt32.ofNat

theorem mem_firstHops {count : Nat} : hop ∈ firstHops count ↔ hop.toNat < count := by
  simp only [firstHops, Finset.mem_image, Finset.mem_range]
  constructor
  · rintro ⟨index, hindex, rfl⟩
    calc (UInt32.ofNat index).toNat = index % UInt32.size := UInt32.toNat_ofNat'
      _ ≤ index := Nat.mod_le _ _
      _ < count := hindex
  · intro hlt
    exact ⟨hop.toNat, hlt, UInt32.ofNat_toNat⟩

theorem firstHops_subset {count covered : Nat} :
    firstHops count ⊆ firstHops covered ↔ count ≤ covered ∨ UInt32.size ≤ covered := by
  constructor
  · intro hsubset
    by_contra hshort
    rw [not_or, not_le, not_le] at hshort
    obtain ⟨hlt, hsize⟩ := hshort
    have hnat : (UInt32.ofNat covered).toNat = covered := UInt32.toNat_ofNat_of_lt hsize
    have hmem : UInt32.ofNat covered ∈ firstHops count := by rwa [mem_firstHops, hnat]
    have hcovered := mem_firstHops.mp (hsubset hmem)
    omega
  · rintro (hle | hsize) hop hmem
    · exact mem_firstHops.mpr ((mem_firstHops.mp hmem).trans_le hle)
    · exact mem_firstHops.mpr (hop.toNat_lt.trans_le hsize)

theorem foldl_claim_of_neutral {messages : List ClientMessage}
    (h : ∀ message ∈ messages, ∀ held, claim held message = held) (held : Finset HopIndex) :
    messages.foldl claim held = held := by
  induction messages with
  | nil => rfl
  | cons message rest ih =>
    rw [List.foldl_cons, h message List.mem_cons_self held]
    exact ih fun other hmem => h other (List.mem_cons_of_mem _ hmem)

theorem foldl_claim_activate (requests : List TunnelRequest) (held : Finset HopIndex) :
    (requests.map ClientMessage.activate).foldl claim held =
      held ∪ (requests.map fun request => request.hop.getD 0).toFinset := by
  induction requests generalizing held with
  | nil => simp
  | cons request rest ih =>
    rw [List.map_cons, List.foldl_cons, ih, List.map_cons, List.toFinset_cons, Finset.union_insert,
      ← Finset.insert_union]
    rfl

theorem foldl_claim_deactivate (hops : List HopIndex) (held : Finset HopIndex) :
    (hops.map fun hop => ClientMessage.deactivate (some hop)).foldl claim held =
      held \ hops.toFinset := by
  induction hops generalizing held with
  | nil => simp
  | cons hop rest ih =>
    rw [List.map_cons, List.foldl_cons, ih, List.toFinset_cons]
    ext other
    simp only [claim, Option.getD_some, Finset.mem_sdiff, Finset.mem_erase, Finset.mem_insert]
    tauto

theorem toFinset_firstHops (count : Nat) :
    ((List.range count).map UInt32.ofNat).toFinset = firstHops count := by
  ext hop
  simp [firstHops]

theorem foldl_claim_messages (plan : Plan) (held : Finset HopIndex) :
    plan.messages.foldl claim held = held ∪ firstHops plan.hopCount := by
  have hhops : plan.requests.map (fun request => request.hop.getD 0) =
      (List.range plan.hopCount).map UInt32.ofNat := by
    calc plan.requests.map (fun request => request.hop.getD 0)
        = (plan.requests.map (·.hop)).map (·.getD 0) := by rw [List.map_map]; rfl
      _ = (List.range plan.hopCount).map UInt32.ofNat := by
        rw [plan.map_hop_requests, List.map_map]
        rfl
  rw [Plan.messages, foldl_claim_activate, List.map_reverse, List.toFinset_reverse, hhops,
    toFinset_firstHops]

namespace Session

variable {τ : Type} {session : Session τ}

/-- Whether an input leaves the count of hops to the session and its connection open. -/
def Input.IsOwn : Input τ → Prop
  | .adopt _ => False
  | .fail => False
  | _ => True

/-- The plans a session has asked for since it last stopped, once an input is handled. -/
def renew (session : Session τ) (plans : List Plan) : Input τ → List Plan
  | .activate plan => if session.phase = .ready ∧ plan.servers ≠ [] then plans ++ [plan] else plans
  | .deactivate .stop => if session.phase = .ready then [] else plans
  | _ => plans

/-- The plans a session has asked for since it last stopped, in order. -/
def standing (session : Session τ) (plans : List Plan) : List (Input τ) → List Plan
  | [] => plans
  | input :: rest => (session.step input).2.standing (session.renew plans input) rest

theorem standing_concat (session : Session τ) (plans : List Plan) (inputs : List (Input τ))
    (input : Input τ) :
    session.standing plans (inputs ++ [input]) =
      (session.run inputs).2.renew (session.standing plans inputs) input := by
  induction inputs generalizing session plans with
  | nil => rfl
  | cons first rest ih => exact ih _ _

/-- Whether a stop right after these plans covers the hops of all of them. -/
def Covered (plans : List Plan) : Prop :=
  ∀ last ∈ plans.getLast?, ∀ plan ∈ plans,
    plan.hopCount ≤ last.hopCount ∨ UInt32.size ≤ last.hopCount

/-- What a session that is fresh at first knows of its hops: those it has claimed are those of the
plans since its last stop, and it counts those of the last one. -/
structure Tracks (history : List ClientMessage) (session : Session τ) (plans : List Plan) :
    Prop where
  claimed : ∀ hop, hop ∈ claimed history ↔ ∃ plan ∈ plans, hop ∈ firstHops plan.hopCount
  count : ∀ last ∈ plans.getLast?, session.hopCount = last.hopCount
  idle : session.phase ≠ .ready → plans = []

theorem tracks_fresh : Tracks [] (fresh : Session τ) [] := by
  refine ⟨fun hop => ?_, ?_, fun _ => rfl⟩
  · simp [TunnelChain.claimed]
  · simp

variable {history : List ClientMessage} {plans : List Plan}

/-- An input that sends nothing about hops. -/
theorem Tracks.of_neutral (h : Tracks history session plans) {result : Transition τ × Session τ}
    (hneutral : ∀ held, result.1.outbound.foldl claim held = held)
    (hcount : result.2.hopCount = session.hopCount)
    (hready : session.phase = .ready → result.2.phase = .ready) :
    Tracks (history ++ result.1.outbound) result.2 plans := by
  refine ⟨fun hop => ?_, fun last hlast => ?_, fun hphase => ?_⟩
  · rw [claimed_append, hneutral]
    exact h.claimed hop
  · rw [hcount]
    exact h.count last hlast
  · exact h.idle fun hbefore => hphase (hready hbefore)

theorem Tracks.activate (h : Tracks history session plans) (plan : Plan) :
    Tracks (history ++ (session.activate plan).1.outbound) (session.activate plan).2
      (session.renew plans (.activate plan)) := by
  simp only [renew]
  by_cases hgranted : session.phase = .ready ∧ plan.servers ≠ []
  · obtain ⟨houtbound, hnext⟩ := activate_granted hgranted.1 hgranted.2
    rw [if_pos hgranted, houtbound, hnext]
    refine ⟨fun hop => ?_, fun last hlast => ?_, fun hphase => absurd hgranted.1 hphase⟩
    · rw [claimed_append, foldl_claim_messages, Finset.mem_union, h.claimed]
      simp only [List.mem_append, List.mem_singleton, or_and_right, exists_or, exists_eq_left]
    · rw [List.getLast?_concat, Option.mem_some_iff] at hlast
      rw [← hlast]
  · obtain ⟨houtbound, hnext⟩ := activate_refused hgranted
    rw [if_neg hgranted]
    exact h.of_neutral (fun held => by rw [houtbound]; rfl) (by rw [hnext])
      (by rw [hnext]; exact id)

theorem Tracks.mem_claimed_stop (h : Tracks history session plans) {hop : HopIndex} :
    hop ∈ TunnelChain.claimed (history ++ (session.deactivate .stop).1.outbound) ↔
      (∃ plan ∈ plans, hop ∈ firstHops plan.hopCount) ∧ hop ∉ firstHops session.hopCount := by
  by_cases hready : session.phase = .ready
  · rw [claimed_append, (deactivate_stop hready).1, foldl_claim_deactivate, toFinset_firstHops,
      Finset.mem_sdiff, h.claimed]
  · rw [(deactivate_refused fun hboth => hready hboth.1).1, List.append_nil, h.claimed,
      h.idle hready]
    simp

/-- A stop leaves nothing behind if and only if it covers the plans since the stop before. -/
theorem Tracks.released_stop (h : Tracks history session plans) :
    Released (history ++ (session.deactivate .stop).1.outbound) ↔ Covered plans := by
  rw [released_iff, Finset.eq_empty_iff_forall_notMem]
  simp only [h.mem_claimed_stop, not_and_not_right]
  constructor
  · intro hall last hlast plan hplan
    rw [← firstHops_subset, ← h.count last hlast]
    exact fun hop hmem => hall hop ⟨plan, hplan, hmem⟩
  · rintro hcovered hop ⟨plan, hplan, hmem⟩
    obtain ⟨last, hlast⟩ := Option.isSome_iff_exists.mp
      (List.getLast?_isSome.mpr (List.ne_nil_of_mem hplan))
    rw [h.count last hlast]
    exact firstHops_subset.mpr (hcovered last hlast plan hplan) hmem

theorem Tracks.stop (h : Tracks history session plans)
    (hreleased : Released (history ++ (session.deactivate .stop).1.outbound)) :
    Tracks (history ++ (session.deactivate .stop).1.outbound) (session.deactivate .stop).2
      (session.renew plans (.deactivate .stop)) := by
  have hnone : session.renew plans (.deactivate .stop) = [] := by
    simp only [renew]
    by_cases hready : session.phase = .ready
    · exact if_pos hready
    · rw [if_neg hready, h.idle hready]
  rw [released_iff] at hreleased
  rw [hnone]
  refine ⟨fun hop => ?_, fun last hlast => ?_, fun _ => rfl⟩
  · rw [hreleased]
    simp
  · cases hlast

theorem Tracks.aside (h : Tracks history session plans) {input : Input τ} (haside : input.IsAside) :
    Tracks (history ++ (session.step input).1.outbound) (session.step input).2 plans := by
  obtain ⟨houtbound, hcount, hready⟩ := session.step_aside haside
  refine h.of_neutral (fun held => ?_) hcount hready
  refine foldl_claim_of_neutral (fun message hmem held => ?_) held
  obtain rfl | rfl | rfl | rfl : message = .status ∨ message = .version ∨ message = .logs ∨
      message = .cleanLogs := by
    simpa using houtbound message hmem
  all_goals rfl

theorem Tracks.step (h : Tracks history session plans) {input : Input τ} (hown : input.IsOwn)
    (hstop : input = .deactivate .stop → Released (history ++ (session.step input).1.outbound)) :
    Tracks (history ++ (session.step input).1.outbound) (session.step input).2
      (session.renew plans input) := by
  cases input with
  | adopt hops => exact hown.elim
  | fail => exact hown.elim
  | activate plan => exact h.activate plan
  | deactivate purpose =>
    cases purpose with
    | stop => exact h.stop (hstop rfl)
    | switch =>
      have hstays : ¬ (session.phase = .ready ∧ Purpose.switch = .stop) :=
        fun hboth => nomatch hboth.2
      obtain ⟨houtbound, hnext⟩ := deactivate_refused hstays
      change Tracks (history ++ (session.deactivate .switch).1.outbound)
        (session.deactivate .switch).2 plans
      exact h.of_neutral (fun held => by rw [houtbound]; rfl) (by rw [hnext])
        (by rw [hnext]; exact id)
  | connect => exact h.aside trivial
  | checkStatus => exact h.aside trivial
  | queryVersion => exact h.aside trivial
  | requestLogs tag => exact h.aside trivial
  | clearLogs => exact h.aside trivial
  | handle parcel => exact h.aside trivial

/-- What a course has told the daemon. -/
def told (inputs : List (Input τ)) : List ClientMessage :=
  (fresh.run inputs).1.outbound

theorem told_concat (inputs : List (Input τ)) (input : Input τ) :
    told (inputs ++ [input]) = told inputs ++ ((fresh.run inputs).2.step input).1.outbound := by
  rw [told, run_concat]
  rfl

/-- As long as no stop has left anything behind, the hops of the course are known. -/
theorem tracks_of_released (inputs : List (Input τ)) (hown : ∀ input ∈ inputs, input.IsOwn)
    (hstops : ∀ before, before ++ [.deactivate .stop] <+: inputs →
      Released (told (before ++ [.deactivate .stop]))) :
    Tracks (told inputs) (fresh.run inputs).2 (fresh.standing [] inputs) := by
  induction inputs using List.reverseRecOn with
  | nil => exact tracks_fresh
  | append_singleton inputs input ih =>
    have hinitial : inputs <+: inputs ++ [input] := List.prefix_append _ _
    have htracks := ih (fun earlier hmem => hown earlier (List.mem_append_left _ hmem))
      fun before hbefore => hstops before (hbefore.trans hinitial)
    rw [told_concat, run_concat, standing_concat]
    refine htracks.step (hown input (by simp)) ?_
    rintro rfl
    rw [← told_concat]
    exact hstops inputs List.prefix_rfl

/-- **Stops.** Of the sessions whose connection holds and which adopt no hops: every stop leaves
none of the session's hops behind if and only if, at every stop, no plan since the stop before was
longer than the last one. -/
theorem released_iff_last_plan_longest (inputs : List (Input τ))
    (hown : ∀ input ∈ inputs, input.IsOwn) :
    (∀ before, before ++ [.deactivate .stop] <+: inputs →
        Released (told (before ++ [.deactivate .stop]))) ↔
      ∀ before, before ++ [.deactivate .stop] <+: inputs → Covered (fresh.standing [] before) := by
  -- Up to its first stop that leaves something behind a course is tracked, and so is that stop.
  have hstop (before : List (Input τ)) (hbefore : before ++ [.deactivate .stop] <+: inputs)
      (hearlier : ∀ earlier, earlier ++ [.deactivate .stop] <+: before →
        Released (told (earlier ++ [.deactivate .stop]))) :
      Released (told (before ++ [.deactivate .stop])) ↔ Covered (fresh.standing [] before) := by
    have hinitial : before <+: inputs := (List.prefix_append _ _).trans hbefore
    have htracks := tracks_of_released before (fun input hmem => hown input (hinitial.subset hmem))
      hearlier
    rw [told_concat]
    exact htracks.released_stop
  constructor
  · intro hreleased before hbefore
    have hinitial : before <+: inputs := (List.prefix_append _ _).trans hbefore
    exact (hstop before hbefore fun earlier hlt => hreleased earlier (hlt.trans hinitial)).mp
      (hreleased before hbefore)
  · intro hcovered before
    induction hlength : before.length using Nat.strong_induction_on generalizing before with
    | h count ih =>
      intro hbefore
      have hinitial : before <+: inputs := (List.prefix_append _ _).trans hbefore
      refine (hstop before hbefore fun earlier hlt => ?_).mpr (hcovered before hbefore)
      have hle := hlt.length_le
      rw [List.length_append, List.length_singleton] at hle
      exact ih earlier.length (by omega) earlier rfl (hlt.trans hinitial)

def plainServer : Server :=
  ⟨"BB==", "10.0.0.1", "fd00::1", "203.0.113.5", "2001:db8::5", 51820⟩

/-- A plan through that many copies of one server. -/
def plainPlan (count : Nat) : Plan :=
  ⟨"AA==", ⟨"10.0.0.2/32", "fd00::2/128"⟩, List.replicate count plainServer,
    [⟨"0.0.0.0", 0, false⟩], false⟩

/-- A session that gets ready. -/
def opening : List (Input Unit) :=
  [.connect, .handle ⟨"status", .obj [("type", .str "status"), ("connected", .bool false)]⟩]

/-- A switch to a longer plan, then a stop. -/
def growing : List (Input Unit) :=
  opening ++
    [.activate (plainPlan 1), .deactivate .switch, .activate (plainPlan 3), .deactivate .stop]

theorem released_growing :
    (∀ input ∈ growing, input.IsOwn) ∧ (fresh.run opening).2.phase = .ready ∧
      claimed (told growing.dropLast) = {0, 1, 2} ∧ Released (told growing) := by
  have hown : ∀ input ∈ growing, input.IsOwn := by
    simp [growing, opening, Input.IsOwn]
  have hplans : fresh.standing [] growing.dropLast = [plainPlan 1, plainPlan 3] := by
    decide +kernel
  refine ⟨hown, by decide +kernel, by decide +kernel, ?_⟩
  refine (released_iff_last_plan_longest growing hown).mpr ?_ growing.dropLast List.prefix_rfl
  rintro before ⟨after, heq⟩
  -- The only stop is the last input.
  rcases before with _ | ⟨_, _ | ⟨_, _ | ⟨_, _ | ⟨_, _ | ⟨_, _ | ⟨_, rest⟩⟩⟩⟩⟩⟩
  all_goals simp [growing, opening] at heq
  obtain ⟨rfl, rfl, rfl, rfl, rfl, -⟩ := heq
  change Covered (fresh.standing [] growing.dropLast)
  rw [hplans]
  intro last hlast plan hplan
  obtain rfl : plainPlan 3 = last := Option.some.inj hlast
  obtain rfl | rfl : plan = plainPlan 1 ∨ plan = plainPlan 3 := by simpa using hplan
  all_goals decide

/-- A switch to a shorter plan, then a stop. -/
def shrinking : List (Input Unit) :=
  opening ++
    [.activate (plainPlan 2), .deactivate .switch, .activate (plainPlan 1), .deactivate .stop]

theorem not_released_shrinking :
    (fresh.run opening).2.phase = .ready ∧ (∀ input ∈ shrinking, input.IsOwn) ∧
      told shrinking = [.status] ++ (plainPlan 2).messages ++ (plainPlan 1).messages ++
        [.deactivate (some 0)] ∧
      ¬ Released (told shrinking) := by
  refine ⟨by decide +kernel, by simp [shrinking, opening, Input.IsOwn], by decide +kernel, ?_⟩
  rw [released_iff]
  decide +kernel

end Session

end TunnelChain
