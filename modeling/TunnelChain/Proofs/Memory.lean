import TunnelChain.Engine.Memory
import TunnelChain.Proofs.Exchange
import TunnelChain.Proofs.Table

/-!
# Interfaces in memory

What becomes of an interface in memory can be read off the exchanges alone: every call that succeeds
changes the interface it names in a fixed way and no other, and nothing else changes any. The same
holds of the name servers.
-/

namespace TunnelChain

/-- What a call that succeeds makes of the interface that it names. -/
def Call.onInterface (call : Call) (interface : Option Interface) : Option Interface :=
  match call with
  | .addInterface _ => some Interface.fresh
  | .configureInterface tunnel => interface.map ({ · with peer := some tunnel.publicKey })
  | .deleteInterface _ => none
  | .addRoutePrefix _ range =>
    interface.map fun interface => { interface with routes := interface.routes ++ [range.text] }
  | .setMTUAndUp _ => interface.map ({ · with isUp := true })
  | .updateResolvers .. => interface
  | .restoreResolvers => interface
  | .addInterfaceIPs _ => interface

def Exchange.onInterface (name : String) (interface : Option Interface) :
    Exchange → Option Interface
  | .call made (.ok _) =>
    if made.interface? = some name then made.onInterface interface else interface
  | _ => interface

def interfaceAfter (name : String) (xs : List Exchange) (interface : Option Interface) :
    Option Interface :=
  xs.foldl (Exchange.onInterface name) interface

@[simp]
theorem interfaceAfter_nil (name : String) (interface : Option Interface) :
    interfaceAfter name [] interface = interface := rfl

theorem interfaceAfter_append (name : String) (xs ys : List Exchange)
    (interface : Option Interface) :
    interfaceAfter name (xs ++ ys) interface =
      interfaceAfter name ys (interfaceAfter name xs interface) :=
  List.foldl_append

theorem interfaceAfter_granted_cons (name : String) (call : Call) (rest : List Call)
    (interface : Option Interface) :
    interfaceAfter name (granted (call :: rest)) interface =
      interfaceAfter name (granted rest)
        (if call.interface? = some name then call.onInterface interface else interface) := rfl

theorem interfaceAfter_of_minds {name other : String} (hne : other ≠ name) {xs : List Exchange}
    (hxs : ∀ x ∈ xs, x.Minds other) (interface : Option Interface) :
    interfaceAfter name xs interface = interface := by
  induction xs generalizing interface with
  | nil => rfl
  | cons x xs ih =>
    obtain ⟨hx, hrest⟩ := List.forall_mem_cons.mp hxs
    have hkept : x.onInterface name interface = interface := by
      cases x with
      | look looked found => rfl
      | call made answer =>
        cases answer with
        | error failure => rfl
        | ok done =>
          refine if_neg fun hmade => ?_
          rcases hx with hnone | hsome
          · rw [hnone] at hmade
            cases hmade
          · exact hne (Option.some.inj (hsome.symm.trans hmade))
    change interfaceAfter name xs (x.onInterface name interface) = interface
    rw [hkept, ih hrest]

/-- What a build leaves: an interface that is up, with the tunnel's peer and its ranges as
routes. -/
def Tunnel.interface (tunnel : Tunnel) : Interface :=
  ⟨some tunnel.publicKey, tunnel.ranges.map AddressRange.text, true, ⟨0, 0⟩⟩

theorem interfaceAfter_routes (name : String) (ranges : List AddressRange) (interface : Interface) :
    interfaceAfter name (granted (ranges.map (.addRoutePrefix name))) (some interface) =
      some { interface with routes := interface.routes ++ ranges.map AddressRange.text } := by
  induction ranges generalizing interface with
  | nil => simp
  | cons range rest ih =>
    rw [List.map_cons, interfaceAfter_granted_cons]
    simp [Call.interface?, Call.onInterface, ih]

theorem interfaceAfter_buildScript (tunnel : Tunnel) (interface : Option Interface) :
    interfaceAfter tunnel.name (granted tunnel.buildScript) interface = some tunnel.interface := by
  have hresolvers (interface : Option Interface) :
      interfaceAfter tunnel.name (granted
        (if tunnel.hop = 0 then [.updateResolvers tunnel.name tunnel.resolvers] else []))
        interface = interface := by
    split
    · simp [interfaceAfter_granted_cons, Call.onInterface]
    · rfl
  have hopened : interfaceAfter tunnel.name
      (granted [.addInterface tunnel, .configureInterface tunnel]) interface =
        some { Interface.fresh with peer := some tunnel.publicKey } := by
    simp [interfaceAfter_granted_cons, Call.interface?, Call.onInterface]
  have hraised (interface : Interface) : interfaceAfter tunnel.name
      (granted [.addInterfaceIPs tunnel, .setMTUAndUp tunnel]) (some interface) =
        some { interface with isUp := true } := by
    simp [interfaceAfter_granted_cons, Call.interface?, Call.onInterface]
  unfold Tunnel.buildScript
  simp only [granted_append, interfaceAfter_append]
  rw [hopened, hresolvers, hraised, interfaceAfter_routes]
  rfl

/-- What a call that succeeds makes of the name servers. -/
def Call.onResolvers (call : Call) (resolvers : Option (String × List String)) :
    Option (String × List String) :=
  match call with
  | .updateResolvers name servers => some (name, servers)
  | .restoreResolvers => none
  | _ => resolvers

def Exchange.onResolvers (resolvers : Option (String × List String)) :
    Exchange → Option (String × List String)
  | .call made (.ok _) => made.onResolvers resolvers
  | _ => resolvers

def resolversAfter (xs : List Exchange) (resolvers : Option (String × List String)) :
    Option (String × List String) :=
  xs.foldl Exchange.onResolvers resolvers

section Resolvers

variable (resolvers : Option (String × List String))

theorem resolversAfter_append (xs ys : List Exchange) :
    resolversAfter (xs ++ ys) resolvers = resolversAfter ys (resolversAfter xs resolvers) :=
  List.foldl_append

theorem Call.onResolvers_of_not_isDns {call : Call} (h : call.isDns = false) :
    call.onResolvers resolvers = resolvers := by
  cases call with
  | updateResolvers name servers => cases h
  | restoreResolvers => cases h
  | _ => rfl

/-- Only what concerns the exit hop changes name servers. -/
theorem resolversAfter_of_concerns {name : String} {hop : HopIndex} (hrelay : hop ≠ 0)
    {xs : List Exchange} (hxs : ∀ x ∈ xs, x.Concerns name hop) :
    resolversAfter xs resolvers = resolvers := by
  induction xs with
  | nil => rfl
  | cons x xs ih =>
    obtain ⟨hx, hrest⟩ := List.forall_mem_cons.mp hxs
    have hkept : x.onResolvers resolvers = resolvers := by
      cases x with
      | look looked found => rfl
      | call made answer =>
        cases answer with
        | error failure => rfl
        | ok done =>
          refine made.onResolvers_of_not_isDns resolvers (eq_false_of_ne_true fun hdns => ?_)
          exact hrelay (Call.Concerns.exit_of_isDns hx hdns)
    change resolversAfter xs (x.onResolvers resolvers) = resolvers
    rw [hkept, ih hrest]

theorem resolversAfter_restoring (hop : HopIndex) :
    resolversAfter (granted (restoring hop)) resolvers = if hop = 0 then none else resolvers := by
  unfold restoring
  split
  · rfl
  · rfl

theorem Teardown.resolversAfter_eq {hop : HopIndex} {announce : Bool} {chain next : Chain}
    {result : Except OperationError Unit} {xs : List Exchange} {said : List HopEvent}
    (h : Teardown hop announce chain result xs next said) (hgone : isGone result = true) :
    resolversAfter xs resolvers = if hop = 0 then none else resolvers := by
  cases h with
  | vanished hup =>
    rw [resolversAfter_append, resolversAfter_restoring]
    rfl
  | removed hup =>
    rw [resolversAfter_append, resolversAfter_restoring]
    rfl
  | inactive hdown => cases hgone
  | unrestored hup hexit => cases hgone
  | undeleted hup => cases hgone

theorem resolversAfter_buildScript (tunnel : Tunnel) :
    resolversAfter (granted tunnel.buildScript) resolvers =
      if tunnel.hop = 0 then some (tunnel.name, tunnel.resolvers) else resolvers := by
  have hroutes (ranges : List AddressRange) (resolvers : Option (String × List String)) :
      resolversAfter (granted (ranges.map (.addRoutePrefix tunnel.name))) resolvers =
        resolvers := by
    induction ranges with
    | nil => rfl
    | cons range rest ih => exact ih
  unfold Tunnel.buildScript
  simp only [granted_append, resolversAfter_append]
  rw [hroutes]
  split
  · rfl
  · rfl

end Resolvers

namespace Memory

variable {memory next : Memory}

theorem get?_alter {step : Step} {name : String} {f : Interface → Interface}
    (h : memory.alter step name f = .ok next) (other : String) :
    next.interfaces.get? other =
      if other = name then (memory.interfaces.get? other).map f
      else memory.interfaces.get? other := by
  unfold alter at h
  split at h
  · cases h
    exact Table.get?_modify memory.interfaces name other f
  · cases h

theorem get?_apply {call : Call} (h : memory.apply call = .ok next) (name : String) :
    next.interfaces.get? name =
      if call.interface? = some name then call.onInterface (memory.interfaces.get? name)
      else memory.interfaces.get? name := by
  cases call with
  | addInterface tunnel =>
    simp only [apply] at h
    split at h
    · cases h
    · cases h
      simp only [Table.get?_insert, Call.interface?, Call.onInterface, Option.some.injEq,
        eq_comm (a := name)]
  | configureInterface tunnel =>
    simp only [get?_alter h, Call.interface?, Call.onInterface, Option.some.injEq,
      eq_comm (a := name)]
  | deleteInterface deleted =>
    simp only [apply] at h
    split at h
    · cases h
      simp only [Table.get?_erase, Call.interface?, Call.onInterface, Option.some.injEq,
        eq_comm (a := name)]
    · cases h
  | addRoutePrefix routed range =>
    simp only [get?_alter h, Call.interface?, Call.onInterface, Option.some.injEq,
      eq_comm (a := name)]
  | updateResolvers linked resolvers =>
    cases h
    simp [Call.onInterface]
  | restoreResolvers =>
    cases h
    simp [Call.onInterface]
  | addInterfaceIPs tunnel =>
    simp only [get?_alter h, Call.onInterface, Option.map_id, id_eq, ite_self]
  | setMTUAndUp tunnel =>
    simp only [get?_alter h, Call.interface?, Call.onInterface, Option.some.injEq,
      eq_comm (a := name)]

theorem get?_perform (memory : Memory) (call : Call) (name : String) :
    (perform call memory).system.interfaces.get? name =
      Exchange.onInterface name (memory.interfaces.get? name)
        (.call call (perform call memory).answer) := by
  unfold perform
  split
  · rfl
  · cases happly : memory.apply call with
    | ok next => exact get?_apply happly name
    | error failure => rfl

theorem get?_of_runs {xs : List Exchange} (h : engine.Runs memory xs next) (name : String) :
    next.interfaces.get? name = interfaceAfter name xs (memory.interfaces.get? name) := by
  induction h with
  | nil memory => rfl
  | call call _ ih =>
    rw [ih]
    exact congrArg _ (get?_perform _ call name)
  | look _ _ ih => exact ih

theorem resolvers_alter {step : Step} {name : String} {f : Interface → Interface}
    (h : memory.alter step name f = .ok next) : next.resolvers = memory.resolvers := by
  unfold alter at h
  split at h
  · cases h
    rfl
  · cases h

theorem resolvers_apply {call : Call} (h : memory.apply call = .ok next) :
    next.resolvers = call.onResolvers memory.resolvers := by
  cases call with
  | addInterface tunnel =>
    simp only [apply] at h
    split at h
    · cases h
    · cases h
      rfl
  | configureInterface tunnel => exact resolvers_alter h
  | deleteInterface deleted =>
    simp only [apply] at h
    split at h
    · cases h
      rfl
    · cases h
  | addRoutePrefix routed range => exact resolvers_alter h
  | updateResolvers linked resolvers =>
    cases h
    rfl
  | restoreResolvers =>
    cases h
    rfl
  | addInterfaceIPs tunnel => exact resolvers_alter h
  | setMTUAndUp tunnel => exact resolvers_alter h

theorem resolvers_perform (memory : Memory) (call : Call) :
    (perform call memory).system.resolvers =
      Exchange.onResolvers memory.resolvers (.call call (perform call memory).answer) := by
  unfold perform
  split
  · rfl
  · cases happly : memory.apply call with
    | ok next => exact resolvers_apply happly
    | error failure => rfl

theorem resolvers_of_runs {xs : List Exchange} (h : engine.Runs memory xs next) :
    next.resolvers = resolversAfter xs memory.resolvers := by
  induction h with
  | nil memory => rfl
  | call call _ ih =>
    rw [ih]
    exact congrArg _ (resolvers_perform _ call)
  | look _ _ ih => exact ih

def Event.interface? : Event → Option String
  | .addStale name => some name
  | .removeExternally name => some name
  | _ => none

/-- An event that neither creates nor takes away an interface changes at most its counters. -/
theorem get?_happen {event : Event} {name : String} {interface : Interface}
    (hspared : event.interface? ≠ some name) (h : memory.interfaces.get? name = some interface) :
    ∃ throughput,
      (memory.happen event).interfaces.get? name = some { interface with throughput } := by
  cases event with
  | failOn step => exact ⟨interface.throughput, h⟩
  | clearFailures => exact ⟨interface.throughput, h⟩
  | setAlive value => exact ⟨interface.throughput, h⟩
  | setSupportsSwitching value => exact ⟨interface.throughput, h⟩
  | setThroughput counted throughput =>
    by_cases hname : name = counted
    · subst hname
      exact ⟨throughput, by simp [happen, Table.get?_modify, h]⟩
    · exact ⟨interface.throughput, by simp [happen, Table.get?_modify, hname, h]⟩
  | addStale created =>
    have hne : name ≠ created := fun heq => hspared (congrArg some heq.symm)
    exact ⟨interface.throughput, by simp [happen, Table.get?_insert, hne, h]⟩
  | removeExternally removed =>
    have hne : name ≠ removed := fun heq => hspared (congrArg some heq.symm)
    exact ⟨interface.throughput, by simp [happen, Table.get?_erase, hne, h]⟩

theorem resolvers_happen (memory : Memory) (event : Event) :
    (memory.happen event).resolvers = memory.resolvers := by
  cases event <;> rfl

end Memory

end TunnelChain
