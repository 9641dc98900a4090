import Mathlib.Data.Finset.Basic
import TunnelChain.Engine.Memory
import TunnelChain.Proofs.Operation
import TunnelChain.Proofs.Table

/-!
# What listeners know

Whoever hears the events of a controller from the start knows at least the hops that are up. More
than that is known only after an activation that tears its hop down silently and then fails: nobody
is told that the hop is gone.
-/

namespace TunnelChain

namespace Chain

variable {chain : Chain}

def hops (chain : Chain) : Finset HopIndex :=
  chain.keys.toFinset

theorem mem_hops {hop : HopIndex} : hop ∈ chain.hops ↔ ∃ active, chain.get? hop = some active := by
  rw [hops, List.mem_toFinset, Table.mem_keys]

theorem hops_put (active : ActiveHop) :
    (chain.put active).hops = insert active.tunnel.hop chain.hops := by
  ext hop
  rw [Finset.mem_insert, mem_hops, mem_hops, put]
  by_cases hhop : hop = active.tunnel.hop <;> simp [Table.get?_insert, hhop]

theorem hops_erase (gone : HopIndex) : Chain.hops (chain.erase gone) = chain.hops.erase gone := by
  ext hop
  rw [Finset.mem_erase, mem_hops, mem_hops]
  by_cases hhop : hop = gone <;> simp [Table.get?_erase, hhop]

end Chain

/-- What a listener who knew of these hops knows after an event. -/
def hear (known : Finset HopIndex) : HopEvent → Finset HopIndex
  | .connected hop => insert hop known
  | .disconnected hop => known.erase hop
  | .backendFailure => known

def heard (events : List HopEvent) : Finset HopIndex :=
  events.foldl hear ∅

theorem heard_append (events said : List HopEvent) :
    heard (events ++ said) = said.foldl hear (heard events) :=
  List.foldl_append

variable {chain next : Chain} {said : List HopEvent} {result : Except OperationError Unit}
  {xs : List Exchange}

theorem Teardown.foldl_hear {hop : HopIndex} (h : Teardown hop true chain result xs next said)
    {known : Finset HopIndex} (hknown : chain.hops ⊆ known) :
    next.hops ⊆ said.foldl hear known ∧
      (known = chain.hops → said.foldl hear known = next.hops) := by
  cases hgone : isGone result with
  | true =>
    obtain ⟨rfl, rfl⟩ := h.of_isGone hgone
    rw [Chain.hops_erase]
    refine ⟨Finset.erase_subset_erase hop hknown, ?_⟩
    rintro rfl
    rfl
  | false =>
    obtain ⟨rfl, rfl⟩ := h.of_not_isGone hgone
    exact ⟨hknown, id⟩

/-- What an activation does to the chain and to what is known: it completes and is heard of, or it
changes nothing, or it loses its hop and says nothing. -/
theorem Activation.outcome {switching : Bool} {now : String} {tunnel : Tunnel}
    (h : Activation switching now tunnel chain result xs next said) :
    (next.hops = insert tunnel.hop chain.hops ∧ said = [.connected tunnel.hop]) ∨
    (next.hops = chain.hops ∧ said = []) ∨
    (next.hops = chain.hops.erase tunnel.hop ∧ tunnel.hop ∈ chain.hops ∧ said = []) := by
  cases h with
  | overlong _ => exact .inr (.inl ⟨rfl, rfl⟩)
  | unswitched _ _ _ => exact .inr (.inl ⟨rfl, rfl⟩)
  | kept _ _ _ _ _ => exact .inr (.inl ⟨rfl, rfl⟩)
  | switched _ _ _ => exact .inl ⟨Chain.hops_put _, rfl⟩
  | fresh _ hdown hbuild =>
    cases hbuild with
    | uncleared _ => exact .inr (.inl ⟨rfl, rfl⟩)
    | failed _ _ => exact .inr (.inl ⟨rfl, rfl⟩)
    | built _ => exact .inl ⟨Chain.hops_put _, rfl⟩
  | rebuilt _ hup _ _ _ hbuild =>
    have hmem : tunnel.hop ∈ chain.hops := Chain.mem_hops.mpr ⟨_, hup⟩
    cases hbuild with
    | uncleared _ => exact .inr (.inr ⟨Chain.hops_erase _, hmem, rfl⟩)
    | failed _ _ => exact .inr (.inr ⟨Chain.hops_erase _, hmem, rfl⟩)
    | built _ =>
      refine .inl ⟨?_, rfl⟩
      rw [Chain.hops_put, Chain.hops_erase, Finset.insert_eq_of_mem hmem]
      exact Finset.insert_erase hmem

theorem Building.of_error {now : String} {tunnel : Tunnel} {error : OperationError}
    (h : Building now tunnel chain (.error error) xs next said) : next = chain := by
  cases h with
  | uncleared _ => rfl
  | failed _ _ => rfl

theorem Building.of_ok {now : String} {tunnel : Tunnel}
    (h : Building now tunnel chain (.ok ()) xs next said) : tunnel.hop ∈ next.hops := by
  cases h with
  | built _ =>
    rw [Chain.hops_put]
    exact Finset.mem_insert_self _ _

/-- Only an activation that cannot switch in place takes its own hop out of the chain. -/
theorem Activation.of_lost {switching : Bool} {now : String} {tunnel : Tunnel}
    (h : Activation switching now tunnel chain result xs next said)
    (hup : tunnel.hop ∈ chain.hops) (hdown : tunnel.hop ∉ next.hops) :
    Utf8.size tunnel.name ≤ Naming.maxBytes ∧ ∃ current, chain.get? tunnel.hop = some current ∧
      (tunnel.canReplace current.tunnel && switching) = false := by
  cases h with
  | overlong _ => exact absurd hup hdown
  | unswitched _ _ _ => exact absurd hup hdown
  | kept _ _ _ _ _ => exact absurd hup hdown
  | rebuilt hname hcurrent hswitch _ _ _ => exact ⟨hname, _, hcurrent, hswitch⟩
  | switched _ _ _ =>
    rw [Chain.hops_put] at hdown
    exact absurd (Finset.mem_insert_self _ _) hdown
  | fresh _ hnone _ =>
    obtain ⟨active, hactive⟩ := Chain.mem_hops.mp hup
    rw [hnone] at hactive
    cases hactive

/-- A step that every client is told of, or a change of the system by anybody else. -/
inductive Move (σ : Type) where
  | sweep (naming : Naming)
  | activate (now : String) (tunnel : Tunnel)
  | deactivate (hop : HopIndex)
  | deactivateAll
  | checkLiveness
  | outside (change : σ → σ)

namespace Controller

variable {σ : Type}

def move (engine : Engine σ) (controller : Controller σ) : Move σ → Controller σ
  | .sweep naming => (sweep engine naming controller).2
  | .activate now tunnel => (activate engine now tunnel controller).2
  | .deactivate hop => (deactivate engine hop true controller).2
  | .deactivateAll => deactivateAll engine true controller
  | .checkLiveness => (checkLiveness engine controller).2
  | .outside change => { controller with system := change controller.system }

def play (engine : Engine σ) (controller : Controller σ) (moves : List (Move σ)) : Controller σ :=
  moves.foldl (move engine) controller

theorem play_append_singleton (engine : Engine σ) (controller : Controller σ)
    (played : List (Move σ)) (last : Move σ) :
    controller.play engine (played ++ [last]) = (controller.play engine played).move engine last :=
  List.foldl_append

/-- Whether a listener who heard everything knows of every hop that is up. -/
def Covered (controller : Controller σ) : Prop :=
  controller.chain.hops ⊆ heard controller.events

/-- Whether a listener who heard everything knows exactly the hops that are up. -/
def Known (controller : Controller σ) : Prop :=
  heard controller.events = controller.chain.hops

/-- The controller that an activation hands to `rebuild`. -/
def reconnecting (tunnel : Tunnel) (controller : Controller σ) : Controller σ :=
  (controller.note .info ("Activating interface " ++ tunnel.name)).note .info
    ("Hop " ++ toString tunnel.hop.toNat ++ " already up, " ++
      "server switching not possible, reconnecting")

/-- Whether an activation loses its hop: this is up and cannot be switched in place, its silent
teardown takes it out of the chain, and it is not built anew. -/
structure Loses (engine : Engine σ) (now : String) (tunnel : Tunnel) (controller : Controller σ) :
    Prop where
  short : Utf8.size tunnel.name ≤ Naming.maxBytes
  unswitchable : ∃ current, controller.chain.get? tunnel.hop = some current ∧
    (tunnel.canReplace current.tunnel && engine.supportsSwitching controller.system) = false
  torn : isGone (deactivate engine tunnel.hop false (controller.reconnecting tunnel)).1 = true
  unbuilt : ∃ error, (build engine now tunnel
    (deactivate engine tunnel.hop false (controller.reconnecting tunnel)).2).1 = .error error

variable {engine : Engine σ} {controller : Controller σ}

theorem deactivate_heard (hop : HopIndex) :
    (controller.Covered → Covered (deactivate engine hop true controller).2) ∧
      (controller.Known → Known (deactivate engine hop true controller).2) := by
  obtain ⟨xs, next, said, hteardown, hturns⟩ := deactivate_law engine hop true controller
  unfold Covered Known
  rw [hturns.chain, hturns.events, heard_append]
  refine ⟨fun hcovered => (hteardown.foldl_hear hcovered).1, fun hknown => ?_⟩
  exact (hteardown.foldl_hear hknown.ge).2 hknown

theorem activate_eq_rebuild {tunnel : Tunnel} (hname : Utf8.size tunnel.name ≤ Naming.maxBytes)
    {current : ActiveHop} (hup : controller.chain.get? tunnel.hop = some current)
    (hswitch : (tunnel.canReplace current.tunnel && engine.supportsSwitching controller.system) =
      false)
    (now : String) :
    activate engine now tunnel controller =
      rebuild engine now tunnel (controller.reconnecting tunnel) := by
  have hnoted : (controller.note .info ("Activating interface " ++ tunnel.name)).chain.get?
      tunnel.hop = some current := hup
  unfold activate
  dsimp only
  rw [if_neg (Nat.not_lt.mpr hname), hnoted]
  exact if_neg (ne_true_of_eq_false hswitch)

/-- An activation loses its hop exactly when it takes it out of the chain. -/
theorem loses_iff {now : String} {tunnel : Tunnel} :
    Loses engine now tunnel controller ↔ tunnel.hop ∈ controller.chain.hops ∧
      tunnel.hop ∉ (activate engine now tunnel controller).2.chain.hops := by
  obtain ⟨xs, next, said, hteardown, hturns⟩ :=
    deactivate_law engine tunnel.hop false (controller.reconnecting tunnel)
  obtain ⟨ys, last, told, hbuild, hbuilding⟩ := hturns.build now tunnel
  constructor
  · rintro ⟨hname, ⟨current, hup, hswitch⟩, htorn, error, hunbuilt⟩
    refine ⟨Chain.mem_hops.mpr ⟨current, hup⟩, ?_⟩
    obtain ⟨rfl, rfl⟩ := hteardown.of_isGone htorn
    rw [hunbuilt] at hbuild
    rw [activate_eq_rebuild hname hup hswitch, rebuild_eq, if_pos htorn, hbuilding.chain,
      hbuild.of_error, Chain.hops_erase]
    exact Finset.notMem_erase _ _
  · rintro ⟨hup, hdown⟩
    obtain ⟨zs, after, _, hactivation, hafter⟩ := activate_law engine now tunnel controller
    rw [← hafter.chain] at hactivation
    obtain ⟨hname, current, hcurrent, hswitch⟩ := hactivation.of_lost hup hdown
    rw [activate_eq_rebuild hname hcurrent hswitch, rebuild_eq] at hdown
    have htorn : isGone (deactivate engine tunnel.hop false (controller.reconnecting tunnel)).1 =
        true := by
      by_contra hkept
      rw [if_neg hkept, hturns.chain,
        (hteardown.of_not_isGone (eq_false_of_ne_true hkept)).1] at hdown
      exact hdown hup
    refine ⟨hname, ⟨current, hcurrent, hswitch⟩, htorn, ?_⟩
    rw [if_pos htorn, hbuilding.chain] at hdown
    cases hresult : (build engine now tunnel
        (deactivate engine tunnel.hop false (controller.reconnecting tunnel)).2).1 with
    | error error => exact ⟨error, rfl⟩
    | ok done =>
      rw [hresult] at hbuild
      exact absurd hbuild.of_ok hdown

theorem activate_heard (now : String) (tunnel : Tunnel) :
    (controller.Covered → Covered (activate engine now tunnel controller).2) ∧
      (controller.Known → (Known (activate engine now tunnel controller).2 ↔
        ¬Loses engine now tunnel controller)) := by
  obtain ⟨xs, next, said, hactivation, hturns⟩ := activate_law engine now tunnel controller
  rw [loses_iff]
  unfold Covered Known
  rw [hturns.chain, hturns.events, heard_append]
  rcases hactivation.outcome with ⟨hnext, rfl⟩ | ⟨hnext, rfl⟩ | ⟨hnext, hup, rfl⟩
  · rw [hnext]
    refine ⟨fun hcovered => Finset.insert_subset_insert _ hcovered, fun hknown => ?_⟩
    refine iff_of_true (congrArg (insert tunnel.hop) hknown) ?_
    exact fun hlost => hlost.2 (Finset.mem_insert_self _ _)
  · rw [hnext]
    exact ⟨id, fun hknown => iff_of_true hknown fun hlost => hlost.2 hlost.1⟩
  · rw [hnext]
    refine ⟨fun hcovered => (Finset.erase_subset _ _).trans hcovered, fun hknown => ?_⟩
    refine iff_of_false ?_ (not_not_intro ⟨hup, Finset.notMem_erase _ _⟩)
    -- the listener still knows of the hop that is gone
    intro hstill
    rw [List.foldl_nil, hknown] at hstill
    rw [hstill] at hup
    exact Finset.notMem_erase _ _ hup

theorem sweep_heard (naming : Naming) :
    (Covered (sweep engine naming controller).2 ↔ controller.Covered) ∧
      (Known (sweep engine naming controller).2 ↔ controller.Known) := by
  obtain ⟨xs, -, hturns⟩ := (Turns.start engine controller).removeStale (naming.name 0)
  unfold Covered Known
  rw [sweep, hturns.chain, hturns.events, List.append_nil]
  exact ⟨Iff.rfl, Iff.rfl⟩

theorem Covered.move (h : controller.Covered) (move : Move σ) :
    (controller.move engine move).Covered := by
  have hdeactivate (before : Controller σ) (hop : HopIndex) (hbefore : before.Covered) :=
    (@deactivate_heard σ engine before hop).1 hbefore
  cases move with
  | sweep naming => exact (sweep_heard naming).1.mpr h
  | activate now tunnel => exact (activate_heard now tunnel).1 h
  | deactivate hop => exact hdeactivate controller hop h
  | deactivateAll => exact deactivateEach_induction (fun _ _ _ h => h) hdeactivate h _
  | checkLiveness =>
    refine checkLiveness_induction (fun _ _ _ h => h) (fun before hbefore => ?_) hdeactivate h
    unfold Covered at hbefore ⊢
    rwa [emit, heard_append]
  | outside change => exact h

/-- The only step after which a listener knows of a hop that is gone is an activation that has lost
it. -/
theorem Known.move_iff (h : controller.Known) (move : Move σ) :
    (controller.move engine move).Known ↔
      ∀ now tunnel, move = .activate now tunnel → ¬Loses engine now tunnel controller := by
  have hdeactivate (before : Controller σ) (hop : HopIndex) (hbefore : before.Known) :=
    (@deactivate_heard σ engine before hop).2 hbefore
  cases move with
  | activate now tunnel =>
    refine ((activate_heard now tunnel).2 h).trans ⟨?_, fun hkept => hkept now tunnel rfl⟩
    rintro hkept _ _ ⟨⟩
    exact hkept
  | sweep naming => exact iff_of_true ((sweep_heard naming).2.mpr h) (by simp)
  | deactivate hop => exact iff_of_true (hdeactivate controller hop h) (by simp)
  | deactivateAll =>
    exact iff_of_true (deactivateEach_induction (fun _ _ _ h => h) hdeactivate h _) (by simp)
  | checkLiveness =>
    refine iff_of_true ?_ (by simp)
    refine checkLiveness_induction (fun _ _ _ h => h) (fun before hbefore => ?_) hdeactivate h
    unfold Known at hbefore ⊢
    rwa [emit, heard_append]
  | outside change => exact iff_of_true h (by simp)

/-- **What listeners know.** In every run from the start, whoever hears all events knows of every
hop that is up; and knows exactly these hops throughout if and only if no activation loses its
hop. -/
theorem known_iff_never_loses (engine : Engine σ) (system : σ) (moves : List (Move σ)) :
    (∀ played, played <+: moves → ((fresh system).play engine played).Covered) ∧
      ((∀ played, played <+: moves → ((fresh system).play engine played).Known) ↔
        ∀ played now tunnel, played ++ [.activate now tunnel] <+: moves →
          ¬Loses engine now tunnel ((fresh system).play engine played)) := by
  refine ⟨?_, ?_, ?_⟩
  · intro played hplayed
    induction played using List.reverseRecOn with
    | nil => exact Finset.empty_subset _
    | append_singleton played last ih =>
      rw [play_append_singleton]
      exact (ih ((List.prefix_append _ _).trans hplayed)).move last
  · intro hknown played now tunnel hplayed
    have hbefore := hknown played ((List.prefix_append _ _).trans hplayed)
    have hafter := hknown _ hplayed
    rw [play_append_singleton] at hafter
    exact (hbefore.move_iff _).mp hafter now tunnel rfl
  · intro hkept played hplayed
    induction played using List.reverseRecOn with
    | nil => rfl
    | append_singleton played last ih =>
      have hbefore := ih ((List.prefix_append _ _).trans hplayed)
      rw [play_append_singleton]
      refine (hbefore.move_iff last).mpr ?_
      rintro now tunnel rfl
      exact hkept played now tunnel hplayed

/-- An exit hop comes up, and a new key for it arrives when no interface can be added. -/
def lostMoves : List (Move Memory) :=
  [.activate "then" (plainTunnel ⟨"hl"⟩ 0 "AA=="), .outside (·.happen (.failOn .addInterface)),
    .activate "later" (plainTunnel ⟨"hl"⟩ 0 "ZZ==")]

/-- Afterwards no hop is up, but whoever heard all events takes the exit hop for connected. -/
theorem heard_lostMoves :
    (∀ now tunnel, .activate now tunnel ∈ lostMoves → tunnel.name = Naming.name ⟨"hl"⟩ tunnel.hop) ∧
      ((fresh Memory.fresh).play Memory.engine lostMoves).chain.hops = ∅ ∧
      heard ((fresh Memory.fresh).play Memory.engine lostMoves).events = {0} ∧
      ¬((fresh Memory.fresh).play Memory.engine lostMoves).Known := by
  have hchain : ((fresh Memory.fresh).play Memory.engine lostMoves).chain.hops = ∅ := by
    decide +kernel
  have hheard : heard ((fresh Memory.fresh).play Memory.engine lostMoves).events = {0} := by
    decide +kernel
  refine ⟨?_, hchain, hheard, ?_⟩
  · intro now tunnel hactivate
    simp only [lostMoves, List.mem_cons, Move.activate.injEq, List.not_mem_nil, or_false,
      reduceCtorEq, false_or] at hactivate
    rcases hactivate with ⟨rfl, rfl⟩ | ⟨rfl, rfl⟩ <;> decide +kernel
  · rw [Known, hchain, hheard]
    decide

end Controller

end TunnelChain
