import TunnelChain.Proofs.Legs
import TunnelChain.Proofs.Unhindered

/-!
# Taking hops down

A hop is out of the chain once its interface is gone, whether it was deleted or had vanished before,
and only then is this announced; where name servers cannot be given back or the interface cannot be
deleted, the hop stays. Of several hops each is tried in its turn, whatever became of those before.
-/

namespace TunnelChain

/-! ## One hop -/

/-- Whether these exchanges are one attempt to take down a hop: name servers are given back for the
exit hop alone and before all else, and an interface is deleted right after a look that has found
it. -/
structure ActiveHop.Tried (active : ActiveHop) (hop : HopIndex) (xs : List Exchange) : Prop where
  legs : ∃ chain found end_, Cut (active.removal hop chain found) end_ xs
  restores_iff : (∃ answer, .call .restoreResolvers answer ∈ xs) ↔ hop = 0
  restores_first : ∀ answer, .call .restoreResolvers answer ∉ xs.tail
  deletes_found : ∀ name answer, .call (.deleteInterface name) answer ∈ xs →
    [.look name true, .call (.deleteInterface name) answer] <:+ xs

/-- Whether an attempt to take down a hop with this interface has failed: name servers could not be
given back, or the interface was there and could not be deleted. -/
def Stuck (name : String) (xs : List Exchange) : Prop :=
  (∃ failure, .call .restoreResolvers (.error failure) ∈ xs) ∨
    .look name true ∈ xs ∧ ∃ failure, .call (.deleteInterface name) (.error failure) ∈ xs

theorem Clean.not_stuck {name : String} {xs : List Exchange} (h : Clean xs) : ¬ Stuck name xs := by
  rintro (⟨failure, hmem⟩ | ⟨-, failure, hmem⟩)
  · cases h _ hmem
  · cases h _ hmem

theorem granted_restoring (hop : HopIndex) :
    granted (restoring hop) = if hop = 0 then [.call .restoreResolvers (.ok ())] else [] := by
  unfold restoring
  split <;> rfl

namespace Teardown

variable {hop other : HopIndex} {announce : Bool} {active : ActiveHop} {chain next : Chain}
  {xs : List Exchange} {said : List HopEvent} {result : Except OperationError Unit}

theorem tried (h : Teardown hop announce chain result xs next said)
    (hup : chain.get? hop = some active) : active.Tried hop xs := by
  obtain ⟨found, hcut⟩ := h.cut hup
  refine ⟨⟨chain, found, _, hcut⟩, ?_, ?_, ?_⟩
  all_goals
    cases h with
    | inactive hdown => cases hdown.symm.trans hup
    | unrestored _ hexit => simp [hexit]
    | undeleted _ => by_cases hexit : hop = 0 <;> simp [granted_restoring, hexit]
    | vanished _ => by_cases hexit : hop = 0 <;> simp [granted_restoring, hexit]
    | removed _ => by_cases hexit : hop = 0 <;> simp [granted_restoring, hexit]

theorem isGone_iff (h : Teardown hop announce chain result xs next said)
    (hup : chain.get? hop = some active) :
    isGone result = true ↔
      result = .ok () ∨ result = .error (.interfaceMissing active.tunnel.name) := by
  cases h with
  | inactive hdown => cases hdown.symm.trans hup
  | unrestored _ _ => simp [isGone]
  | undeleted _ => simp [isGone]
  | vanished hactive =>
    cases hup.symm.trans hactive
    simp [isGone]
  | removed _ => simp [isGone]

/-- A hop that is up stays so exactly if the attempt has failed. -/
theorem stuck_iff (h : Teardown hop announce chain result xs next said)
    (hup : chain.get? hop = some active) : Stuck active.tunnel.name xs ↔ isGone result = false := by
  cases h with
  | inactive hdown => cases hdown.symm.trans hup
  | unrestored _ _ => simp [Stuck, isGone]
  | undeleted hactive =>
    cases hup.symm.trans hactive
    simp [Stuck, isGone]
  | vanished _ => by_cases hexit : hop = 0 <;> simp [Stuck, isGone, granted_restoring, hexit]
  | removed _ => by_cases hexit : hop = 0 <;> simp [Stuck, isGone, granted_restoring, hexit]

/-- An attempt that has failed ends with the call that has. -/
theorem failed (h : Teardown hop announce chain result xs next said)
    (hup : chain.get? hop = some active) (hkept : isGone result = false) :
    ∃ failure, result = .error (.backend failure) ∧
      ∃ call ∈ [.restoreResolvers, .deleteInterface active.tunnel.name],
        xs.getLast? = some (.call call (.error failure)) := by
  cases h with
  | inactive hdown => cases hdown.symm.trans hup
  | @unrestored _ failure _ _ => exact ⟨failure, rfl, _, List.mem_cons_self, rfl⟩
  | @undeleted _ failure hactive =>
    cases hup.symm.trans hactive
    exact ⟨failure, rfl, _, List.mem_cons_of_mem _ List.mem_cons_self, by simp⟩
  | vanished _ => cases hkept
  | removed _ => cases hkept

theorem get?_eq (h : Teardown hop announce chain result xs next said) :
    next.get? hop = if isGone result then none else chain.get? hop := by
  cases hgone : isGone result with
  | true => rw [(h.of_isGone hgone).1, Table.get?_erase, if_pos rfl, if_pos rfl]
  | false => rw [(h.of_not_isGone hgone).1, if_neg Bool.false_ne_true]

theorem get?_eq_none_iff (h : Teardown hop announce chain result xs next said)
    (hup : chain.get? hop = some active) : next.get? hop = none ↔ isGone result = true := by
  rw [h.get?_eq, hup]
  cases isGone result <;> simp

theorem said_eq (h : Teardown hop announce chain result xs next said)
    (hup : chain.get? hop = some active) :
    said = if next.get? hop = none then farewell announce hop else [] := by
  have hiff := h.get?_eq_none_iff hup
  cases hgone : isGone result with
  | true => rw [if_pos (hiff.mpr hgone), (h.of_isGone hgone).2]
  | false => rw [if_neg fun hnone => Bool.false_ne_true (hgone.symm.trans (hiff.mp hnone)),
      (h.of_not_isGone hgone).2]

/-- A hop that goes has had its name made free. -/
theorem clearing (h : Teardown hop announce chain result xs next said)
    (hup : chain.get? hop = some active) (hgone : isGone result = true) :
    ∃ ys, xs = granted (restoring hop) ++ ys ∧ Clearing active.tunnel.name (.ok ()) ys := by
  cases h with
  | inactive _ => cases hgone
  | unrestored _ _ => cases hgone
  | undeleted _ => cases hgone
  | vanished hactive =>
    cases hup.symm.trans hactive
    exact ⟨_, rfl, .absent⟩
  | removed hactive =>
    cases hup.symm.trans hactive
    exact ⟨_, rfl, .removed⟩

/-- In a memory a hop that goes leaves no interface. -/
theorem vacates {memory after : Memory} (h : Teardown hop announce chain result xs next said)
    (hup : chain.get? hop = some active) (hgone : isGone result = true)
    (hruns : Memory.engine.Runs memory xs after) :
    after.interfaces.get? active.tunnel.name = none := by
  obtain ⟨ys, rfl, hclearing⟩ := h.clearing hup hgone
  obtain ⟨middle, -, hcleared⟩ := hruns.split
  exact hclearing.get?_eq_none hcleared

end Teardown

/-! ## Several hops -/

/-- The ways in which hops are brought down one after another: exchanges, chain and events. -/
inductive Dismantling (announce : Bool) :
    Chain → List HopIndex → List Exchange → Chain → List HopEvent → Prop where
  | done (chain : Chain) : Dismantling announce chain [] [] chain []
  | turn {hop : HopIndex} {hops : List HopIndex} {chain next last : Chain} {xs ys : List Exchange}
      {said told : List HopEvent} {result : Except OperationError Unit}
      (hfirst : Teardown hop announce chain result xs next said)
      (hrest : Dismantling announce next hops ys last told) :
      Dismantling announce chain (hop :: hops) (xs ++ ys) last (said ++ told)

/-- What has become of a hop that was up after these exchanges of its own: it was tried, and it is
still up exactly if this has failed. -/
structure ActiveHop.Fate (active : ActiveHop) (hop : HopIndex) (xs : List Exchange) (last : Chain) :
    Prop where
  tried : active.Tried hop xs
  stays : Stuck active.tunnel.name xs → last.get? hop = some active
  goes : ¬ Stuck active.tunnel.name xs → last.get? hop = none

theorem Teardown.get?_of_none {hop other : HopIndex} {announce : Bool} {chain next : Chain}
    {xs : List Exchange} {said : List HopEvent} {result : Except OperationError Unit}
    (h : Teardown hop announce chain result xs next said) (hdown : chain.get? other = none) :
    next.get? other = none := by
  by_cases hother : other = hop
  · subst hother
    rw [h.get?_eq, hdown, ite_self]
  · rw [h.get?_other hother, hdown]

theorem Teardown.fate {hop : HopIndex} {announce : Bool} {active : ActiveHop}
    {chain next last : Chain} {xs : List Exchange} {said : List HopEvent}
    {result : Except OperationError Unit} (h : Teardown hop announce chain result xs next said)
    (hup : chain.get? hop = some active)
    (hlast : last.get? hop = next.get? hop) : active.Fate hop xs last := by
  refine ⟨h.tried hup, fun hstuck => ?_, fun hfree => ?_⟩
  · rw [hlast, h.get?_eq, (h.stuck_iff hup).mp hstuck, if_neg Bool.false_ne_true, hup]
  · rw [h.stuck_iff hup, Bool.not_eq_false] at hfree
    rw [hlast, h.get?_eq, if_pos hfree]

namespace Dismantling

variable {announce : Bool} {chain last : Chain} {hop other : HopIndex} {hops : List HopIndex}
  {xs : List Exchange} {said : List HopEvent}

theorem get?_other (h : Dismantling announce chain hops xs last said) (hother : other ∉ hops) :
    last.get? other = chain.get? other := by
  induction h with
  | done chain => rfl
  | turn hfirst hrest ih =>
    rw [List.mem_cons, not_or] at hother
    obtain ⟨hne, hother⟩ := hother
    rw [ih hother, hfirst.get?_other hne]

theorem get?_of_none (h : Dismantling announce chain hops xs last said)
    (hdown : chain.get? other = none) : last.get? other = none := by
  induction h with
  | done chain => exact hdown
  | turn hfirst hrest ih => exact ih (hfirst.get?_of_none hdown)

/-- Exactly the hops that go are announced, in the order in which they are tried. -/
theorem said_eq (h : Dismantling announce chain hops xs last said) (hnodup : hops.Nodup)
    (hup : ∀ hop ∈ hops, ∃ active, chain.get? hop = some active) :
    said = (hops.filter (last.get? · = none)).flatMap (farewell announce) := by
  induction h with
  | done chain => rfl
  | @turn hop hops chain next last _ _ said told _ hfirst hrest ih =>
    obtain ⟨hnew, hnodup⟩ := List.nodup_cons.mp hnodup
    obtain ⟨⟨active, hactive⟩, hups⟩ := List.forall_mem_cons.mp hup
    have htold : told = (hops.filter (last.get? · = none)).flatMap (farewell announce) := by
      refine ih hnodup fun other hother => ?_
      rw [hfirst.get?_other (ne_of_mem_of_not_mem hother hnew)]
      exact hups other hother
    rw [htold, hfirst.said_eq hactive, ← hrest.get?_other hnew, List.filter_cons]
    by_cases hgone : last.get? hop = none
    · simp [hgone]
    · simp [hgone]

/-- The exchanges fall into one attempt for each hop, and this decides what becomes of the hop. -/
theorem fates (h : Dismantling announce chain hops xs last said) (hnodup : hops.Nodup) :
    ∃ asked : HopIndex → List Exchange, xs = hops.flatMap asked ∧
      ∀ hop ∈ hops, ∀ active, chain.get? hop = some active → active.Fate hop (asked hop) last := by
  induction h with
  | done chain => exact ⟨fun _ => [], rfl, fun _ hmem => nomatch hmem⟩
  | @turn hop hops chain next last xs ys _ _ _ hfirst hrest ih =>
    obtain ⟨hnew, hnodup⟩ := List.nodup_cons.mp hnodup
    obtain ⟨asked, hys, hfates⟩ := ih hnodup
    have hsame (other : HopIndex) (hother : other ∈ hops) :
        Function.update asked hop xs other = asked other :=
      Function.update_of_ne (ne_of_mem_of_not_mem hother hnew) xs asked
    refine ⟨Function.update asked hop xs, ?_, List.forall_mem_cons.mpr ⟨?_, ?_⟩⟩
    · rw [List.flatMap_cons, Function.update_self, List.flatMap_congr hsame, hys]
    · intro active hactive
      rw [Function.update_self]
      exact hfirst.fate hactive (hrest.get?_other hnew)
    · intro other hother active hactive
      rw [hsame other hother]
      refine hfates other hother active ?_
      rw [hfirst.get?_other (ne_of_mem_of_not_mem hother hnew), hactive]

theorem eq_empty (h : Dismantling announce chain chain.keys xs last said)
    (hgone : ∀ hop ∈ chain.keys, last.get? hop = none) : last = Table.empty := by
  refine Table.eq_empty_of_get? fun hop => ?_
  cases hup : chain.get? hop with
  | none => exact h.get?_of_none hup
  | some active => exact hgone hop (Table.mem_keys.mpr ⟨active, hup⟩)

/-- Where nothing fails, every hop that is tried goes. -/
theorem unhindered {memory after : Memory} (h : Dismantling announce chain hops xs last said)
    (hruns : Memory.engine.Runs memory xs after) (hfailing : memory.failing = []) :
    ∀ hop ∈ hops, last.get? hop = none := by
  induction h generalizing memory with
  | done chain => exact fun _ hmem => nomatch hmem
  | @turn hop hops chain _ _ _ _ _ _ _ hfirst hrest ih =>
    obtain ⟨middle, hone, hothers⟩ := hruns.split
    refine List.forall_mem_cons.mpr
      ⟨hrest.get?_of_none ?_, ih hothers (Memory.failing_of_runs hone hfailing)⟩
    cases hup : chain.get? hop with
    | none => exact hfirst.get?_of_none hup
    | some active => exact (hfirst.get?_eq_none_iff hup).mpr (hfirst.unhindered hone hfailing hup)

end Dismantling

theorem Table.pairwise_keys {κ α : Type} [LT κ] (table : Table κ α) : table.keys.Pairwise (· < ·) :=
  List.pairwise_map.mpr table.ascending

theorem Chain.nodup_keys (chain : Chain) : chain.keys.Nodup :=
  chain.pairwise_keys.imp fun h => UInt32.ne_of_lt h

namespace Controller

variable {σ : Type} {engine : Engine σ}

theorem Turns.trans {before middle after : Controller σ} {xs ys : List Exchange}
    {chain last : Chain} {said told : List HopEvent} (h : Turns engine before xs chain said middle)
    (h' : Turns engine middle ys last told after) :
    Turns engine before (xs ++ ys) last (said ++ told) after where
  runs := h.runs.append h'.runs
  chain := h'.chain
  events := by rw [h'.events, h.events, List.append_assoc]

theorem deactivateEach_law (engine : Engine σ) (announce : Bool) (controller : Controller σ)
    (hops : List HopIndex) :
    ∃ xs last said, Dismantling announce controller.chain hops xs last said ∧
      Turns engine controller xs last said (deactivateEach engine announce controller hops) := by
  induction hops generalizing controller with
  | nil => exact ⟨[], _, [], .done _, .start engine controller⟩
  | cons hop rest ih =>
    obtain ⟨xs, next, said, hfirst, hturns⟩ := deactivate_law engine hop announce controller
    -- what a failure leaves in the log has no part in what follows
    have hgo {middle : Controller σ} (h : Turns engine controller xs next said middle) :
        ∃ xs last said, Dismantling announce controller.chain (hop :: rest) xs last said ∧
          Turns engine controller xs last said (deactivateEach engine announce middle rest) := by
      obtain ⟨ys, last, told, hrest, hturns⟩ := ih middle
      rw [h.chain] at hrest
      exact ⟨_, _, _, .turn hfirst hrest, h.trans hturns⟩
    unfold deactivateEach
    cases hresult : deactivate engine hop announce controller with
    | mk result middle =>
      rw [hresult] at hturns
      cases result with
      | ok done => exact hgo hturns
      | error error => exact hgo (hturns.note _ _)

/-- **Taking down one hop.** A hop that is not up is reported, and nothing else happens. A hop that
is up is tried, and leaves the chain exactly if its interface was deleted or is reported missing;
only then is this told, once, to whoever is to be told. Otherwise the last call was to give name
servers back or to delete the interface, and has failed, and chain and events are as before. No
other hop changes. In a memory the interface of a hop that has left is gone, and the hop can only be
reported as not up. -/
theorem deactivate_settles (hop : HopIndex) (announce : Bool) :
    (∀ {σ : Type} (engine : Engine σ) (before : Controller (Transcript σ)),
      let result := (before.deactivate engine.transcribed hop announce).1
      let after := (before.deactivate engine.transcribed hop announce).2
      (before.chain.get? hop = none →
        result = .error (.notActive hop) ∧ after.unlogged = before.unlogged) ∧
      (∀ active, before.chain.get? hop = some active →
        let gone := result = .ok () ∨ result = .error (.interfaceMissing active.tunnel.name)
        ∃ xs, after.system.exchanges = before.system.exchanges ++ xs ∧ active.Tried hop xs ∧
          (after.chain.get? hop = none ↔ gone) ∧
          (gone → after.chain = before.chain.erase hop ∧
            after.events = before.events ++ if announce then [.disconnected hop] else []) ∧
          (¬ gone → after.chain = before.chain ∧ after.events = before.events ∧
            ∃ failure, result = .error (.backend failure) ∧
              ∃ call ∈ [.restoreResolvers, .deleteInterface active.tunnel.name],
                xs.getLast? = some (.call call (.error failure)))) ∧
      ∀ other ≠ hop, after.chain.get? other = before.chain.get? other) ∧
    ∀ (before : Controller (Transcript Memory)) (active : ActiveHop),
      let result := (before.deactivate Memory.engine.transcribed hop announce).1
      let after := (before.deactivate Memory.engine.transcribed hop announce).2
      before.chain.get? hop = some active →
        result = .ok () ∨ result = .error (.interfaceMissing active.tunnel.name) →
        after.system.system.interfaces.get? active.tunnel.name = none ∧
          ∀ again, (after.deactivate Memory.engine.transcribed hop again).1 =
            .error (.notActive hop) ∧
            (after.deactivate Memory.engine.transcribed hop again).2.unlogged = after.unlogged := by
  constructor
  · intro σ engine before result after
    obtain ⟨xs, next, said, hteardown, hturns⟩ :=
      before.deactivate_law engine.transcribed hop announce
    obtain ⟨-, hexchanges, -⟩ := hturns.runs.of_transcribed
    have hchain : after.chain = next := hturns.chain
    have hevents : after.events = before.events ++ said := hturns.events
    refine ⟨before.deactivate_of_down engine.transcribed hop announce, ?_, ?_⟩
    · intro active hup gone
      have hgone : isGone result = true ↔ gone := hteardown.isGone_iff hup
      refine ⟨xs, hexchanges, hteardown.tried hup, ?_, ?_, ?_⟩
      · rw [hchain, hteardown.get?_eq_none_iff hup, hgone]
      · intro hleft
        rw [hchain, hevents]
        obtain ⟨hnext, hsaid⟩ := hteardown.of_isGone (hgone.mpr hleft)
        exact ⟨hnext, congrArg (before.events ++ ·) hsaid⟩
      · intro hstayed
        have hkept : isGone result = false := Bool.eq_false_iff.mpr (mt hgone.mp hstayed)
        obtain ⟨hnext, hsaid⟩ := hteardown.of_not_isGone hkept
        rw [hchain, hevents, hnext, hsaid, List.append_nil]
        exact ⟨rfl, rfl, hteardown.failed hup hkept⟩
    · intro other hother
      rw [hchain, hteardown.get?_other hother]
  · intro before active result after hup hleft
    obtain ⟨xs, next, said, hteardown, hturns⟩ :=
      before.deactivate_law Memory.engine.transcribed hop announce
    have hgone : isGone result = true := (hteardown.isGone_iff hup).mpr hleft
    have hdown : after.chain.get? hop = none := by
      rw [show after.chain = next from hturns.chain, hteardown.get?_eq_none_iff hup]
      exact hgone
    exact ⟨hteardown.vacates hup hgone hturns.runs.of_transcribed.1, fun again =>
      after.deactivate_of_down Memory.engine.transcribed hop again hdown⟩

/-- **Taking down all hops.** Every hop that is up is tried, once and in ascending order, whatever
became of those before, and is still up afterwards exactly if this has failed; those that went are
told of in the same order. When the engine has died under a chain that is not empty, this happens
after an alarm. Where no call fails, no hop is left, whichever interfaces had vanished. -/
theorem deactivateAll_tries_each :
    (∀ {σ : Type} (engine : Engine σ) (before : Controller (Transcript σ)),
      let hops := before.chain.keys
      let after := before.deactivateAll engine.transcribed true
      hops.Pairwise (· < ·) ∧ (∀ hop, hop ∈ hops ↔ ∃ active, before.chain.get? hop = some active) ∧
        ∃ asked : HopIndex → List Exchange,
          after.system.exchanges = before.system.exchanges ++ hops.flatMap asked ∧
          (∀ hop active, before.chain.get? hop = some active →
            active.Fate hop (asked hop) after.chain) ∧
          (∀ hop, before.chain.get? hop = none → after.chain.get? hop = none) ∧
          after.events =
            before.events ++ (hops.filter (after.chain.get? · = none)).map .disconnected ∧
          (Clean (hops.flatMap asked) → after.chain = Table.empty)) ∧
    (∀ {σ : Type} (engine : Engine σ) (before : Controller σ),
      (before.chain.isEmpty = true ∨ engine.isAlive before.system = true →
        before.checkLiveness engine = (false, before)) ∧
      (before.chain.isEmpty = false ∧ engine.isAlive before.system = false →
        ∃ alarmed : Controller σ,
          before.checkLiveness engine = (true, alarmed.deactivateAll engine true) ∧
          alarmed.chain = before.chain ∧ alarmed.system = before.system ∧
          alarmed.events = before.events ++ [.backendFailure])) ∧
    ∀ before : Controller Memory, before.system.failing = [] →
      (before.deactivateAll Memory.engine true).chain = Table.empty := by
  refine ⟨fun engine before => ?_, fun engine before => ⟨?_, ?_⟩, fun before hfailing => ?_⟩
  · intro hops after
    obtain ⟨xs, last, said, hdismantling, hturns⟩ :=
      before.deactivateEach_law engine.transcribed true hops
    obtain ⟨-, hexchanges, -⟩ := hturns.runs.of_transcribed
    have hchain : after.chain = last := hturns.chain
    have hevents : after.events = before.events ++ said := hturns.events
    have hnodup : hops.Nodup := before.chain.nodup_keys
    obtain ⟨asked, rfl, hfates⟩ := hdismantling.fates hnodup
    have hfate (hop : HopIndex) (active : ActiveHop) (hup : before.chain.get? hop = some active) :
        active.Fate hop (asked hop) last := hfates hop (Table.mem_keys.mpr ⟨active, hup⟩) active hup
    refine ⟨before.chain.pairwise_keys, fun hop => Table.mem_keys, asked, hexchanges, ?_,
      ?_, ?_, ?_⟩
    · rw [hchain]
      exact hfate
    · rw [hchain]
      exact fun hop => hdismantling.get?_of_none
    · rw [hevents, hchain, hdismantling.said_eq hnodup fun hop => Table.mem_keys.mp]
      rw [← List.flatMap_pure_eq_map]
      rfl
    · intro hclean
      rw [hchain]
      refine hdismantling.eq_empty fun hop hmem => ?_
      obtain ⟨active, hup⟩ := Table.mem_keys.mp hmem
      have hsmooth : Clean (asked hop) :=
        fun x hx => hclean x (List.mem_flatMap.mpr ⟨hop, hmem, hx⟩)
      exact (hfate hop active hup).goes hsmooth.not_stuck
  · intro hcalm
    rw [checkLiveness, if_pos (Bool.or_eq_true_iff.mpr hcalm)]
  · rintro ⟨hhops, hdead⟩
    rw [checkLiveness, hhops, hdead, Bool.or_false, if_neg Bool.false_ne_true]
    exact ⟨_, rfl, rfl, rfl, rfl⟩
  · obtain ⟨xs, last, said, hdismantling, hturns⟩ :=
      before.deactivateEach_law Memory.engine true before.chain.keys
    rw [deactivateAll, hturns.chain]
    exact hdismantling.eq_empty (hdismantling.unhindered hturns.runs hfailing)

/-- The exit hop stays where name servers cannot be given back; the hop behind it goes all the
same. -/
example :
    let exit := ((fresh Memory.fresh).activate Memory.engine "then" (plainTunnel ⟨"hl"⟩ 0 "AA==")).2
    let both := (exit.activate Memory.engine "then" (plainTunnel ⟨"hl"⟩ 1 "AA==")).2
    let stubborn := { both with system := both.system.happen (.failOn .restoreResolvers) }
    let after := stubborn.deactivateAll Memory.engine true
    after.chain.keys = [0] ∧ after.events = [.connected 0, .connected 1, .disconnected 1] := by
  decide +kernel

end Controller

end TunnelChain
