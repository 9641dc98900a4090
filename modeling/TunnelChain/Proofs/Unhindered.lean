import TunnelChain.Proofs.Provenance
import TunnelChain.Proofs.Transcript

/-!
# Where nothing fails

A system in memory that is not made to fail grants every call that fits the interface it names. So a
tunnel is built where no interface has its name, and a hop is brought down whose interface exists.
-/

namespace TunnelChain

/-- Whether a call neither creates nor removes an interface. -/
def Call.IsChange : Call → Prop
  | .addInterface _ => False
  | .deleteInterface _ => False
  | _ => True

/-- Whether a call can be made of the interface that it names. -/
def Call.Fits : Call → Option Interface → Prop
  | .addInterface _, interface => interface = none
  | .updateResolvers .., _ => True
  | .restoreResolvers, _ => True
  | _, interface => interface.isSome = true

theorem Call.IsChange.fits {call : Call} (h : call.IsChange) (interface : Interface) :
    call.Fits (some interface) := by
  cases call with
  | addInterface tunnel => exact h.elim
  | deleteInterface name => exact h.elim
  | updateResolvers name servers => exact trivial
  | restoreResolvers => exact trivial
  | configureInterface tunnel => rfl
  | addRoutePrefix name range => rfl
  | addInterfaceIPs tunnel => rfl
  | setMTUAndUp tunnel => rfl

theorem interfaceAfter_changes {calls : List Call} (h : ∀ call ∈ calls, call.IsChange)
    (name : String) (interface : Interface) :
    ∃ changed, interfaceAfter name (granted calls) (some interface) = some changed := by
  induction calls generalizing interface with
  | nil => exact ⟨interface, rfl⟩
  | cons call rest ih =>
    obtain ⟨hcall, hrest⟩ := List.forall_mem_cons.mp h
    rw [interfaceAfter_granted_cons]
    by_cases hname : call.interface? = some name
    · rw [if_pos hname]
      cases call with
      | addInterface tunnel => exact hcall.elim
      | deleteInterface name => exact hcall.elim
      | _ => exact ih hrest _
    · rw [if_neg hname]
      exact ih hrest interface

/-- What a build does to its interface once this exists. -/
def Tunnel.setupScript (tunnel : Tunnel) : List Call :=
  .configureInterface tunnel ::
    (if tunnel.hop = 0 then [.updateResolvers tunnel.name tunnel.resolvers] else []) ++
    [.addInterfaceIPs tunnel, .setMTUAndUp tunnel] ++
    tunnel.ranges.map (.addRoutePrefix tunnel.name)

theorem Tunnel.buildScript_eq (tunnel : Tunnel) :
    tunnel.buildScript = .addInterface tunnel :: tunnel.setupScript := rfl

theorem Tunnel.isChange_of_mem {tunnel : Tunnel} {call : Call} (h : call ∈ tunnel.setupScript) :
    call.IsChange := by
  simp only [setupScript, List.mem_append, List.mem_cons, List.mem_map, List.not_mem_nil, or_false]
    at h
  obtain ((rfl | hresolvers) | rfl | rfl) | ⟨range, -, rfl⟩ := h
  · exact trivial
  · split at hresolvers
    · rw [List.mem_singleton.mp hresolvers]
      exact trivial
    · cases hresolvers
  · exact trivial
  · exact trivial
  · exact trivial

/-- Whether calls made in order fit, each the interface that it names as those before leave it. -/
def Fitting (interfaces : String → Option Interface) (calls : List Call) : Prop :=
  ∀ done call rest, calls = done ++ call :: rest → ∀ name, call.interface? = some name →
    call.Fits (interfaceAfter name (granted done) (interfaces name))

theorem Tunnel.fitting_buildScript (tunnel : Tunnel) {interfaces : String → Option Interface}
    (habsent : interfaces tunnel.name = none) : Fitting interfaces tunnel.buildScript := by
  intro done call rest hcalls name hname
  have hmem : call ∈ tunnel.buildScript := by
    rw [hcalls]
    exact List.mem_append_right _ List.mem_cons_self
  obtain rfl : tunnel.name = name := by
    obtain hnone | hsome := (tunnel.concerns_buildScript call hmem).minds
    · cases hname.symm.trans hnone
    · exact Option.some.inj (hsome.symm.trans hname)
  rw [buildScript_eq] at hcalls
  cases done with
  | nil =>
    obtain ⟨rfl, -⟩ := List.cons.inj hcalls
    exact habsent
  | cons first done =>
    obtain ⟨rfl, hsetup⟩ := List.cons.inj hcalls
    have hchanges : ∀ other ∈ done ++ call :: rest, other.IsChange := by
      intro other hother
      rw [show done ++ call :: rest = tunnel.setupScript from hsetup.symm] at hother
      exact isChange_of_mem hother
    obtain ⟨hdone, hafter⟩ := List.forall_mem_append.mp hchanges
    have hchange : call.IsChange := hafter call List.mem_cons_self
    obtain ⟨changed, hchanged⟩ := interfaceAfter_changes hdone tunnel.name Interface.fresh
    have hcreated : interfaceAfter tunnel.name (granted (.addInterface tunnel :: done))
        (interfaces tunnel.name) = some changed := by
      have hnames : (Call.addInterface tunnel).interface? = some tunnel.name := rfl
      rw [interfaceAfter_granted_cons, if_pos hnames]
      exact hchanged
    rw [hcreated]
    exact hchange.fits changed

theorem Engine.Runs.split {σ : Type} {engine : Engine σ} {first last : σ} {xs ys : List Exchange}
    (h : engine.Runs first (xs ++ ys) last) :
    ∃ middle, engine.Runs first xs middle ∧ engine.Runs middle ys last := by
  induction xs generalizing first with
  | nil => exact ⟨first, .nil first, h⟩
  | cons x xs ih =>
    rw [List.cons_append] at h
    cases h with
    | call call hrest =>
      obtain ⟨middle, hxs, hys⟩ := ih hrest
      exact ⟨middle, .call call hxs, hys⟩
    | look name hrest =>
      obtain ⟨middle, hxs, hys⟩ := ih hrest
      exact ⟨middle, .look name hxs, hys⟩

theorem Engine.Runs.split_cons {σ : Type} {engine : Engine σ} {first last : σ} {x : Exchange}
    {xs : List Exchange} (h : engine.Runs first (x :: xs) last) :
    ∃ middle, engine.Runs first [x] middle ∧ engine.Runs middle xs last := by
  rw [← List.singleton_append] at h
  exact h.split

theorem Engine.Runs.of_call {σ : Type} {engine : Engine σ} {first last : σ} {call : Call}
    {answer : Except Failure Unit} (h : engine.Runs first [.call call answer] last) :
    answer = (engine.perform call first).answer ∧ last = (engine.perform call first).system := by
  cases h with
  | call _ hrest =>
    cases hrest
    exact ⟨rfl, rfl⟩

namespace Memory

variable {memory next : Memory}

/-- What no call changes. -/
def setting (memory : Memory) : Memory :=
  { memory with interfaces := Table.empty, resolvers := none }

theorem setting_alter {step : Step} {name : String} {f : Interface → Interface}
    (h : memory.alter step name f = .ok next) : next.setting = memory.setting := by
  unfold alter at h
  split at h
  · cases h
    rfl
  · cases h

theorem setting_apply {call : Call} (h : memory.apply call = .ok next) :
    next.setting = memory.setting := by
  cases call with
  | addInterface tunnel =>
    simp only [apply] at h
    split at h
    · cases h
    · cases h
      rfl
  | configureInterface tunnel => exact setting_alter h
  | deleteInterface deleted =>
    simp only [apply] at h
    split at h
    · cases h
      rfl
    · cases h
  | addRoutePrefix routed range => exact setting_alter h
  | updateResolvers linked resolvers =>
    cases h
    rfl
  | restoreResolvers =>
    cases h
    rfl
  | addInterfaceIPs tunnel => exact setting_alter h
  | setMTUAndUp tunnel => exact setting_alter h

theorem setting_perform (memory : Memory) (call : Call) :
    (perform call memory).system.setting = memory.setting := by
  unfold perform
  split
  · rfl
  · cases happly : memory.apply call with
    | ok next => exact setting_apply happly
    | error failure => rfl

theorem setting_of_runs {xs : List Exchange} (h : engine.Runs memory xs next) :
    next.setting = memory.setting := by
  induction h with
  | nil memory => rfl
  | call call _ ih => exact ih.trans (setting_perform _ call)
  | look _ _ ih => exact ih

theorem alter_ok {step : Step} {name : String} {f : Interface → Interface}
    (h : (memory.interfaces.get? name).isSome = true) :
    ∃ next, memory.alter step name f = .ok next := by
  unfold alter
  rw [if_pos (show memory.interfaces.contains name = true from h)]
  exact ⟨_, rfl⟩

theorem apply_ok {call : Call}
    (h : ∀ name, call.interface? = some name → call.Fits (memory.interfaces.get? name)) :
    ∃ next, memory.apply call = .ok next := by
  cases call with
  | addInterface tunnel =>
    have habsent : memory.interfaces.get? tunnel.name = none := h tunnel.name rfl
    simp only [apply, Table.contains, habsent]
    exact ⟨_, rfl⟩
  | configureInterface tunnel => exact alter_ok (h tunnel.name rfl)
  | deleteInterface name =>
    have hpresent : memory.interfaces.contains name = true := h name rfl
    simp only [apply, hpresent]
    exact ⟨_, rfl⟩
  | addRoutePrefix name range => exact alter_ok (h name rfl)
  | updateResolvers name servers => exact ⟨_, rfl⟩
  | restoreResolvers => exact ⟨_, rfl⟩
  | addInterfaceIPs tunnel => exact alter_ok (h tunnel.name rfl)
  | setMTUAndUp tunnel => exact alter_ok (h tunnel.name rfl)

/-- Where nothing is made to fail, a call that fits is granted. -/
theorem perform_ok (hfailing : memory.failing = []) {call : Call}
    (h : ∀ name, call.interface? = some name → call.Fits (memory.interfaces.get? name)) :
    (perform call memory).answer = .ok () := by
  obtain ⟨next, hnext⟩ := apply_ok h
  unfold perform
  rw [hfailing, if_neg List.not_mem_nil, hnext]

variable {calls : List Call} {xs ys : List Exchange} {result : Except Failure Unit}

/-- What a call is answered is the answer. -/
theorem answer_of_runs {call : Call} {answer : Except Failure Unit}
    (h : engine.Runs memory (.call call answer :: xs) next) :
    answer = (perform call memory).answer := by
  cases h
  rfl

/-- A call that fails changes nothing. -/
theorem system_of_failed {call : Call} {failure : Failure}
    (h : (perform call memory).answer = .error failure) :
    (perform call memory).system = memory := by
  unfold perform at h ⊢
  split at h
  · rename_i hinjected
    rw [if_pos hinjected]
  · rename_i hspared
    rw [if_neg hspared]
    cases happly : memory.apply call with
    | ok next => simp [happly] at h
    | error failure => rfl

/-- What a look finds is there. -/
theorem found_of_runs {name : String} {found : Bool}
    (h : engine.Runs memory (.look name found :: xs) next) :
    found = memory.interfaces.contains name := by
  cases h
  rfl

theorem failing_of_runs (hruns : engine.Runs memory xs next) (hfailing : memory.failing = []) :
    next.failing = [] := by
  have hsetting := congrArg Memory.failing (setting_of_runs hruns)
  exact hsetting.trans hfailing

/-- Where nothing is made to fail, an interface that is seen can be deleted. -/
theorem delete_ok {name : String} {answer : Except Failure Unit}
    (hruns : engine.Runs memory [.look name true, .call (.deleteInterface name) answer] next)
    (hfailing : memory.failing = []) : answer = .ok () := by
  have hfound := found_of_runs hruns
  obtain ⟨seen, hlook, hdelete⟩ := hruns.split_cons
  refine (answer_of_runs hdelete).trans (perform_ok (failing_of_runs hlook hfailing) ?_)
  intro named hnamed
  obtain rfl : name = named := Option.some.inj hnamed
  rw [get?_of_runs hlook]
  exact hfound.symm

/-- Where nothing is made to fail, calls that fit are all granted. -/
theorem attempt_ok (h : Attempt calls result xs) (hruns : engine.Runs memory xs next)
    (hfailing : memory.failing = []) (hfits : Fitting memory.interfaces.get? calls) :
    result = .ok () ∧ xs = granted calls := by
  cases h with
  | completed => exact ⟨rfl, rfl⟩
  | @stopped done rest call failure hcalls =>
    obtain ⟨middle, hdone, hlast⟩ := hruns.split
    have hanswer : (perform call middle).answer = .ok () := by
      refine perform_ok (failing_of_runs hdone hfailing) fun name hname => ?_
      rw [get?_of_runs hdone]
      exact hfits done call rest hcalls name hname
    cases (answer_of_runs hlast).trans hanswer

end Memory

variable {memory after : Memory} {chain next : Chain} {said : List HopEvent} {xs : List Exchange}
  {result : Except OperationError Unit}

/-- Where a name has been made free, no interface has it. -/
theorem Clearing.get?_eq_none {name : String} (h : Clearing name (.ok ()) xs)
    (hruns : Memory.engine.Runs memory xs after) : after.interfaces.get? name = none := by
  have hafter := Memory.get?_of_runs hruns name
  cases h with
  | absent =>
    have hfound := Memory.found_of_runs hruns
    have habsent : memory.interfaces.get? name = none := by
      simpa [Table.contains] using hfound.symm
    exact hafter.trans habsent
  | removed =>
    refine hafter.trans ?_
    simp [interfaceAfter, Exchange.onInterface, Call.interface?, Call.onInterface]

/-- Where nothing fails, an interface that nobody answers for is removed. -/
theorem Clearing.unhindered {name : String} (h : Clearing name result xs)
    (hruns : Memory.engine.Runs memory xs after) (hfailing : memory.failing = []) :
    result = .ok () ∧ after.interfaces.get? name = none := by
  cases h with
  | absent => exact ⟨rfl, Clearing.absent.get?_eq_none hruns⟩
  | removed => exact ⟨rfl, Clearing.removed.get?_eq_none hruns⟩
  | stuck failure => cases Memory.delete_ok hruns hfailing

/-- Where nothing fails, a tunnel is built, whatever has its name. -/
theorem Building.unhindered {now : String} {tunnel : Tunnel}
    (h : Building now tunnel chain result xs next said) (hruns : Memory.engine.Runs memory xs after)
    (hfailing : memory.failing = []) :
    result = .ok () ∧
      (∃ ys, Clearing tunnel.name (.ok ()) ys ∧ xs = ys ++ granted tunnel.buildScript) ∧
      next = chain.put ⟨tunnel, now⟩ ∧ said = [.connected tunnel.hop] := by
  cases h with
  | uncleared hstuck => cases (hstuck.unhindered hruns hfailing).1
  | failed hclear hscript =>
    obtain ⟨middle, hcleared, hcalls⟩ := hruns.split
    have hsmooth := Memory.failing_of_runs hcleared hfailing
    have hfits := tunnel.fitting_buildScript (hclear.unhindered hcleared hfailing).2
    cases (Memory.attempt_ok hscript hcalls hsmooth hfits).1
  | built hclear => exact ⟨rfl, ⟨_, hclear, rfl⟩, rfl, rfl⟩

/-- Where nothing fails and no interface has its name, a tunnel is built at once. -/
theorem Building.of_absent {now : String} {tunnel : Tunnel}
    (h : Building now tunnel chain result xs next said) (hruns : Memory.engine.Runs memory xs after)
    (hfailing : memory.failing = []) (habsent : memory.interfaces.get? tunnel.name = none) :
    result = .ok () ∧ xs = .look tunnel.name false :: granted tunnel.buildScript ∧
      next = chain.put ⟨tunnel, now⟩ ∧ said = [.connected tunnel.hop] := by
  have hnone : memory.interfaces.contains tunnel.name = false := by
    rw [Table.contains, habsent]
    rfl
  obtain ⟨hresult, ⟨ys, hclear, rfl⟩, hnext, hsaid⟩ := h.unhindered hruns hfailing
  cases hclear with
  | absent => exact ⟨hresult, rfl, hnext, hsaid⟩
  | removed => cases (Memory.found_of_runs hruns).trans hnone

/-- Where nothing fails, a hop that is up is taken out of the chain. -/
theorem Teardown.unhindered {hop : HopIndex} {announce : Bool} {active : ActiveHop}
    (h : Teardown hop announce chain result xs next said)
    (hruns : Memory.engine.Runs memory xs after) (hfailing : memory.failing = [])
    (hup : chain.get? hop = some active) :
    isGone result = true := by
  cases h with
  | inactive hdown => cases hdown.symm.trans hup
  | unrestored _ _ =>
    cases (Memory.answer_of_runs hruns).trans
      (Memory.perform_ok hfailing fun name hname => absurd hname (Option.some_ne_none name).symm)
  | undeleted _ =>
    obtain ⟨middle, hrun, hdeletion⟩ := hruns.split
    cases Memory.delete_ok hdeletion (Memory.failing_of_runs hrun hfailing)
  | vanished _ => rfl
  | removed _ => rfl

/-- Where nothing fails, a hop is brought down whose interface exists. -/
theorem Teardown.of_present {hop : HopIndex} {announce : Bool} {active : ActiveHop}
    (h : Teardown hop announce chain result xs next said)
    (hruns : Memory.engine.Runs memory xs after) (hfailing : memory.failing = [])
    (hup : chain.get? hop = some active)
    (hpresent : (memory.interfaces.get? active.tunnel.name).isSome = true) :
    result = .ok () ∧ xs = granted (restoring hop) ++ [.look active.tunnel.name true,
        .call (.deleteInterface active.tunnel.name) (.ok ())] ∧
      next = chain.erase hop ∧ said = farewell announce hop := by
  have hgone := h.unhindered hruns hfailing hup
  cases h with
  | inactive _ => cases hgone
  | unrestored _ _ => cases hgone
  | undeleted _ => cases hgone
  | vanished hactive =>
    cases hactive.symm.trans hup
    obtain ⟨middle, hrun, hlook⟩ := hruns.split
    have hfound := Memory.found_of_runs hlook
    rw [Table.contains, Memory.get?_of_runs hrun, interfaceAfter_restoring, hpresent] at hfound
    cases hfound
  | removed hactive =>
    cases hactive.symm.trans hup
    exact ⟨rfl, rfl, rfl, rfl⟩

end TunnelChain
