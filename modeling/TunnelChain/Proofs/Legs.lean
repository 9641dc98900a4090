import TunnelChain.Proofs.Rejection
import TunnelChain.Proofs.Transcript

/-!
# The legs of an activation

An activation goes through legs in a fixed order, and ends early only at the first call that fails.
Which legs these are depends on the hop, on whether it is up, and on two looks: whether the
interface of the hop is still there when it is taken down, and whether something has the name of the
new one.
-/

namespace TunnelChain

/-- A part of an activation as it goes where nothing fails: a look with what it finds, or a call. A
call that fails has something to report, and leaves some hops up. -/
inductive Leg where
  | look (name : String) (found : Bool)
  | call (call : Call) (report : Failure → OperationError) (chain : Chain)

namespace Leg

def exchange : Leg → Exchange
  | look name found => .look name found
  | call made _ _ => .call made (.ok ())

def calls (report : Failure → OperationError) (chain : Chain) (made : List Call) : List Leg :=
  made.map (.call · report chain)

/-- The legs in which a name is made free, `stale` telling whether an interface has it. -/
def clearing (name : String) (chain : Chain) (stale : Bool) : List Leg :=
  .look name stale ::
    calls (.staleInterface name) chain (if stale then [.deleteInterface name] else [])

theorem map_exchange_calls (report : Failure → OperationError) (chain : Chain) (made : List Call) :
    (calls report chain made).map exchange = granted made := by
  rw [calls, List.map_map]
  rfl

theorem clean_exchanges (legs : List Leg) : Clean (legs.map exchange) := by
  refine List.forall_mem_map.mpr fun leg _ => ?_
  cases leg <;> rfl

end Leg

/-- The legs in which a hop is taken down, `found` telling whether its interface is there. -/
def ActiveHop.removal (active : ActiveHop) (hop : HopIndex) (chain : Chain) (found : Bool) :
    List Leg :=
  Leg.calls .backend chain (if hop = 0 then [.restoreResolvers] else []) ++
    .look active.tunnel.name found ::
    Leg.calls .backend chain (if found then [.deleteInterface active.tunnel.name] else [])

namespace Tunnel

/-- The legs in which a tunnel is built, `stale` telling whether an interface has its name
already. -/
def construction (tunnel : Tunnel) (chain : Chain) (stale : Bool) : List Leg :=
  Leg.clearing tunnel.name chain stale ++
    Leg.calls .backend chain
      ([.addInterface tunnel, .configureInterface tunnel] ++
        (if tunnel.hop = 0 then [.updateResolvers tunnel.name tunnel.resolvers] else []) ++
        [.addInterfaceIPs tunnel, .setMTUAndUp tunnel] ++
        tunnel.ranges.map (.addRoutePrefix tunnel.name))

/-- The legs in which a hop is brought up: its peer is changed in place if that is possible, and it
is taken down before it is built if it is up. -/
def legs (tunnel : Tunnel) (switching : Bool) (chain : Chain) (found stale : Bool) : List Leg :=
  match chain.get? tunnel.hop with
  | none => tunnel.construction chain stale
  | some current =>
    if tunnel.canReplace current.tunnel && switching then
      Leg.calls .backend chain [.configureInterface tunnel]
    else
      current.removal tunnel.hop chain found ++ tunnel.construction (chain.erase tunnel.hop) stale

end Tunnel

/-- The ways to go through legs in order: to the end, or up to a call that fails. -/
inductive Cut (legs : List Leg) : Option (OperationError × Chain) → List Exchange → Prop where
  | through : Cut legs none (legs.map Leg.exchange)
  | stopped {done rest : List Leg} {call : Call} {report : Failure → OperationError} {chain : Chain}
      (failure : Failure) (hlegs : legs = done ++ .call call report chain :: rest) :
      Cut legs (some (report failure, chain))
        (done.map Leg.exchange ++ [.call call (.error failure)])

/-- What is known of an end: nothing where there is a result, and otherwise the error with the hops
that it leaves up. -/
def endOf {ε : Type} (report : ε → OperationError) (chain : Chain) :
    Except ε Unit → Option (OperationError × Chain)
  | .ok _ => none
  | .error error => some (report error, chain)

namespace Cut

variable {legs rest : List Leg} {end_ : Option (OperationError × Chain)} {xs ys : List Exchange}

theorem append (h : Cut legs none xs) (hrest : Cut rest end_ ys) :
    Cut (legs ++ rest) end_ (xs ++ ys) := by
  cases h with
  | through =>
    cases hrest with
    | through =>
      rw [← List.map_append]
      exact .through
    | stopped failure hlegs =>
      rw [← List.append_assoc, ← List.map_append]
      exact .stopped failure (by rw [hlegs, List.append_assoc])

theorem append_of_some {last : OperationError × Chain} (h : Cut legs (some last) xs)
    (rest : List Leg) : Cut (legs ++ rest) (some last) xs := by
  cases h with
  | stopped failure hlegs =>
    exact .stopped failure (by rw [hlegs, List.append_assoc, List.cons_append])

theorem look (name : String) (found : Bool) (h : Cut legs end_ xs) :
    Cut (.look name found :: legs) end_ (.look name found :: xs) := by
  have hlook : Cut [.look name found] none [.look name found] := .through
  exact hlook.append h

theorem eq_none_iff (h : Cut legs end_ xs) : end_ = none ↔ Clean xs := by
  cases h with
  | through => exact iff_of_true rfl (Leg.clean_exchanges legs)
  | stopped failure hlegs =>
    exact iff_of_false (Option.some_ne_none _) fun hclean => not_clean_error _ _ hclean.of_append.2

end Cut

theorem Attempt.cut {calls : List Call} {result : Except Failure Unit} {xs : List Exchange}
    (h : Attempt calls result xs) (report : Failure → OperationError) (chain : Chain) :
    Cut (Leg.calls report chain calls) (endOf report chain result) xs := by
  cases h with
  | completed =>
    rw [← Leg.map_exchange_calls report chain]
    exact .through
  | @stopped done rest call failure hcalls =>
    rw [← Leg.map_exchange_calls report chain]
    have hlegs : Leg.calls report chain calls =
        Leg.calls report chain done ++ .call call report chain :: Leg.calls report chain rest := by
      rw [hcalls]
      exact List.map_append
    exact .stopped failure hlegs

section Legs

variable {now : String} {tunnel : Tunnel} {chain next : Chain} {xs : List Exchange}
  {said : List HopEvent} {result : Except OperationError Unit}

theorem Clearing.cut {name : String} (h : Clearing name result xs) (chain : Chain) :
    ∃ stale, Cut (Leg.clearing name chain stale) (endOf id chain result) xs := by
  have hdelete {answer : Except Failure Unit} {ys : List Exchange}
      (hattempt : Attempt [.deleteInterface name] answer ys) :=
    (hattempt.cut (.staleInterface name) chain).look name true
  cases h with
  | absent => exact ⟨false, .through⟩
  | removed => exact ⟨true, hdelete .completed⟩
  | stuck failure => exact ⟨true, hdelete (.stopped [] failure rfl)⟩

theorem Building.cut (h : Building now tunnel chain result xs next said) :
    ∃ stale, Cut (tunnel.construction chain stale) (endOf id chain result) xs := by
  cases h with
  | uncleared hclear =>
    obtain ⟨stale, hcut⟩ := hclear.cut chain
    exact ⟨stale, hcut.append_of_some _⟩
  | failed hclear hscript =>
    obtain ⟨stale, hcut⟩ := hclear.cut chain
    exact ⟨stale, hcut.append (hscript.cut .backend chain)⟩
  | built hclear =>
    obtain ⟨stale, hcut⟩ := hclear.cut chain
    exact ⟨stale, hcut.append (Attempt.completed.cut .backend chain)⟩

/-- A removal that takes the hop out of the chain has gone through, whether there was something to
remove or not. -/
theorem Teardown.cut {hop : HopIndex} {announce : Bool} {active : ActiveHop}
    (h : Teardown hop announce chain result xs next said) (hup : chain.get? hop = some active) :
    ∃ found, Cut (active.removal hop chain found)
      (if isGone result then none else endOf id chain result) xs := by
  have hrestored : Attempt (restoring hop) (.ok ()) (granted (restoring hop)) := .completed
  have hrestore := hrestored.cut .backend chain
  cases h with
  | inactive hdown => cases hdown.symm.trans hup
  | @unrestored other failure hup' hexit =>
    have hfailed :
        Attempt (restoring hop) (.error failure) [.call .restoreResolvers (.error failure)] := by
      rw [restoring, if_pos hexit]
      exact .stopped [] failure rfl
    exact ⟨true, Cut.append_of_some (hfailed.cut .backend chain) _⟩
  | @undeleted other failure hup' =>
    cases hup.symm.trans hup'
    have hdelete : Attempt [.deleteInterface active.tunnel.name] (.error failure)
        [.call (.deleteInterface active.tunnel.name) (.error failure)] := .stopped [] failure rfl
    exact ⟨true, hrestore.append ((hdelete.cut .backend chain).look _ _)⟩
  | vanished hup' =>
    cases hup.symm.trans hup'
    exact ⟨false, hrestore.append (.look _ _ .through)⟩
  | removed hup' =>
    cases hup.symm.trans hup'
    exact ⟨true, hrestore.append (.look _ _ .through)⟩

/-- How an activation ends: with the hop up as this tunnel and an event, or with the error and the
hops that the cut says, and nothing to tell. -/
inductive Finish (now : String) (tunnel : Tunnel) (chain : Chain) :
    Option (OperationError × Chain) → Except OperationError Unit → Chain → List HopEvent →
      Prop where
  | up {next : Chain} (hentry : next.get? tunnel.hop = some ⟨tunnel, now⟩)
      (hothers : ∀ hop ≠ tunnel.hop, next.get? hop = chain.get? hop) :
      Finish now tunnel chain none (.ok ()) next [.connected tunnel.hop]
  | failed (error : OperationError) (left : Chain) :
      Finish now tunnel chain (some (error, left)) (.error error) left []

theorem Finish.of_put {current : Chain}
    (h : ∀ hop ≠ tunnel.hop, current.get? hop = chain.get? hop) :
    Finish now tunnel chain none (.ok ()) (current.put ⟨tunnel, now⟩) [.connected tunnel.hop] := by
  refine .up ?_ fun hop hhop => ?_
  · rw [Chain.put, Table.get?_insert, if_pos rfl]
  · rw [Chain.put, Table.get?_insert, if_neg hhop, h hop hhop]

theorem Building.finish {current : Chain} (h : Building now tunnel current result xs next said)
    (hothers : ∀ hop ≠ tunnel.hop, current.get? hop = chain.get? hop) :
    Finish now tunnel chain (endOf id current result) result next said := by
  cases h with
  | uncleared hclear => exact .failed _ _
  | failed hclear hscript => exact .failed _ _
  | built hclear => exact .of_put hothers

/-- An activation is a cut of its legs, and what it comes to is what the cut says. -/
theorem Activation.cut {switching : Bool}
    (h : Activation switching now tunnel chain result xs next said)
    (hname : Utf8.size tunnel.name ≤ Naming.maxBytes) :
    ∃ found stale end_, Cut (tunnel.legs switching chain found stale) end_ xs ∧
      Finish now tunnel chain end_ result next said := by
  unfold Tunnel.legs
  cases h with
  | overlong hlong => exact absurd hname (Nat.not_le.mpr hlong)
  | fresh _ hdown hbuild =>
    obtain ⟨stale, hcut⟩ := hbuild.cut
    simp only [hdown]
    exact ⟨true, stale, _, hcut, hbuild.finish fun _ _ => rfl⟩
  | switched _ hup hswitch =>
    simp only [hup, hswitch, if_true]
    exact ⟨true, true, _, .through, .of_put fun _ _ => rfl⟩
  | @unswitched _ failure _ hup hswitch =>
    simp only [hup, hswitch, if_true]
    have hfailed : Attempt [.configureInterface tunnel] (.error failure)
        [.call (.configureInterface tunnel) (.error failure)] := .stopped [] failure rfl
    exact ⟨true, true, _, hfailed.cut .backend chain, .failed _ _⟩
  | kept _ hup hswitch hteardown hgone =>
    obtain ⟨found, hcut⟩ := hteardown.cut hup
    simp only [hup, hswitch, Bool.false_eq_true, if_false]
    cases result with
    | ok done => cases hgone
    | error error =>
      rw [if_neg (Bool.eq_false_iff.mp hgone)] at hcut
      exact ⟨found, true, _, hcut.append_of_some _, .failed _ _⟩
  | rebuilt _ hup hswitch hteardown hgone hbuild =>
    obtain ⟨found, hremoval⟩ := hteardown.cut hup
    obtain ⟨stale, hcut⟩ := hbuild.cut
    rw [if_pos hgone] at hremoval
    simp only [hup, hswitch, Bool.false_eq_true, if_false]
    refine ⟨found, stale, _, hremoval.append hcut, hbuild.finish fun hop hhop => ?_⟩
    rw [Table.get?_erase, if_neg hhop]

end Legs

theorem Finish.eq_ok_iff {now : String} {tunnel : Tunnel} {chain next : Chain}
    {said : List HopEvent} {end_ : Option (OperationError × Chain)}
    {result : Except OperationError Unit}
    (h : Finish now tunnel chain end_ result next said) : result = .ok () ↔ end_ = none := by
  cases h with
  | up _ _ => exact iff_of_true rfl rfl
  | failed _ _ => exact iff_of_false (nomatch ·) (Option.some_ne_none _)

/-- **Legs.** Whatever the system answers, an activation whose name is short enough makes the calls
of its legs in order, up to the first that fails. It succeeds exactly if none fails, and only then
its hop is entered and announced. One whose name is too long does nothing. -/
theorem Controller.activate_in_legs {σ : Type} (engine : Engine σ) (now : String) (tunnel : Tunnel)
    (before : Controller (Transcript σ)) :
    let result := (before.activate engine.transcribed now tunnel).1
    let after := (before.activate engine.transcribed now tunnel).2
    (15 < Utf8.size tunnel.name →
        result = .error (.interfaceName tunnel.name) ∧ after.unlogged = before.unlogged) ∧
      (Utf8.size tunnel.name ≤ 15 → ∃ found stale end_ xs said,
        after.system.exchanges = before.system.exchanges ++ xs ∧
          Cut (tunnel.legs (engine.supportsSwitching before.system.system) before.chain found stale)
            end_ xs ∧
          (result = .ok () ↔ Clean xs) ∧ after.events = before.events ++ said ∧
          Finish now tunnel before.chain end_ result after.chain said) := by
  intro result after
  obtain ⟨xs, next, said, hactivation, hturns⟩ := before.activate_law engine.transcribed now tunnel
  constructor
  · intro hlong
    obtain ⟨hresult, rfl, rfl, rfl⟩ := hactivation.of_overlong hlong
    exact ⟨hresult, hturns.unlogged⟩
  · intro hshort
    obtain ⟨found, stale, end_, hcut, hending⟩ := hactivation.cut hshort
    obtain ⟨-, hexchanges, -⟩ := hturns.runs.of_transcribed
    refine ⟨found, stale, end_, xs, said, hexchanges, hcut, ?_, hturns.events, ?_⟩
    · rw [hending.eq_ok_iff, hcut.eq_none_iff]
    · rw [hturns.chain]
      exact hending

end TunnelChain
