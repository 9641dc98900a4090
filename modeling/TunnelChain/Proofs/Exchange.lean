import TunnelChain.Control.Controller

/-!
# What an operation does

An operation of a controller is a sequence of exchanges with the system, a new chain and some
events. The laws below say, for every engine, which of these go together; they are the only place
where the operations are opened.
-/

namespace TunnelChain

/-- What passes between a controller and its system: a call with its answer, or a look for an
interface. -/
inductive Exchange where
  | call (call : Call) (answer : Except Failure Unit)
  | look (name : String) (found : Bool)

variable {σ : Type}

/-- The exchanges that lead from one state of a system to another. -/
inductive Engine.Runs (engine : Engine σ) : σ → List Exchange → σ → Prop where
  | nil (system : σ) : engine.Runs system [] system
  | call {system next : σ} {rest : List Exchange} (call : Call)
      (hrest : engine.Runs (engine.perform call system).system rest next) :
      engine.Runs system (.call call (engine.perform call system).answer :: rest) next
  | look {system next : σ} {rest : List Exchange} (name : String)
      (hrest : engine.Runs (engine.hasInterface name system).system rest next) :
      engine.Runs system (.look name (engine.hasInterface name system).answer :: rest) next

theorem Engine.Runs.append {engine : Engine σ} {first second third : σ} {xs ys : List Exchange}
    (hxs : engine.Runs first xs second) (hys : engine.Runs second ys third) :
    engine.Runs first (xs ++ ys) third := by
  induction hxs with
  | nil system => exact hys
  | call call _ ih => exact .call call (ih hys)
  | look name _ ih => exact .look name (ih hys)

def granted (calls : List Call) : List Exchange :=
  calls.map (.call · (.ok ()))

@[simp]
theorem granted_nil : granted [] = [] := rfl

theorem granted_append (first rest : List Call) :
    granted (first ++ rest) = granted first ++ granted rest :=
  List.map_append

/-- The ways in which calls made in order up to the first that fails can go. -/
inductive Attempt (calls : List Call) : Except Failure Unit → List Exchange → Prop where
  | completed : Attempt calls (.ok ()) (granted calls)
  | stopped (done : List Call) {rest : List Call} {call : Call} (failure : Failure)
      (hcalls : calls = done ++ call :: rest) :
      Attempt calls (.error failure) (granted done ++ [.call call (.error failure)])

theorem Attempt.cons {calls : List Call} {result : Except Failure Unit} {xs : List Exchange}
    (call : Call) (h : Attempt calls result xs) :
    Attempt (call :: calls) result (.call call (.ok ()) :: xs) := by
  cases h with
  | completed => exact .completed
  | stopped done failure hcalls =>
    exact .stopped (call :: done) failure (by rw [hcalls, List.cons_append])

theorem Attempt.single {call : Call} {failure : Failure} {xs : List Exchange}
    (h : Attempt [call] (.error failure) xs) : xs = [.call call (.error failure)] := by
  cases h with
  | stopped done _ hcalls =>
    cases done with
    | nil =>
      obtain ⟨rfl, -⟩ := List.cons.inj hcalls
      rfl
    | cons first done => simp at hcalls

/-- The ways in which an interface that nobody answers for is removed. -/
inductive Clearing (name : String) : Except OperationError Unit → List Exchange → Prop where
  | absent : Clearing name (.ok ()) [.look name false]
  | removed : Clearing name (.ok ()) [.look name true, .call (.deleteInterface name) (.ok ())]
  | stuck (failure : Failure) :
      Clearing name (.error (.staleInterface name failure))
        [.look name true, .call (.deleteInterface name) (.error failure)]

/-- The ways in which a tunnel that is not up is built: result, exchanges, chain and events. -/
inductive Building (now : String) (tunnel : Tunnel) (chain : Chain) :
    Except OperationError Unit → List Exchange → Chain → List HopEvent → Prop where
  | uncleared {error : OperationError} {xs : List Exchange}
      (hclear : Clearing tunnel.name (.error error) xs) :
      Building now tunnel chain (.error error) xs chain []
  | failed {failure : Failure} {xs ys : List Exchange} (hclear : Clearing tunnel.name (.ok ()) xs)
      (hscript : Attempt tunnel.buildScript (.error failure) ys) :
      Building now tunnel chain (.error (.backend failure)) (xs ++ ys) chain []
  | built {xs : List Exchange} (hclear : Clearing tunnel.name (.ok ()) xs) :
      Building now tunnel chain (.ok ()) (xs ++ granted tunnel.buildScript)
        (chain.put ⟨tunnel, now⟩) [.connected tunnel.hop]

/-- The exit hop's share of a teardown: the system gets its own name servers back. -/
def restoring (hop : HopIndex) : List Call :=
  if hop = 0 then [.restoreResolvers] else []

def farewell (announce : Bool) (hop : HopIndex) : List HopEvent :=
  if announce then [.disconnected hop] else []

/-- The ways in which a hop is brought down: result, exchanges, chain and events. -/
inductive Teardown (hop : HopIndex) (announce : Bool) (chain : Chain) :
    Except OperationError Unit → List Exchange → Chain → List HopEvent → Prop where
  | inactive (hdown : chain.get? hop = none) :
      Teardown hop announce chain (.error (.notActive hop)) [] chain []
  | unrestored {active : ActiveHop} {failure : Failure} (hup : chain.get? hop = some active)
      (hexit : hop = 0) :
      Teardown hop announce chain (.error (.backend failure))
        [.call .restoreResolvers (.error failure)] chain []
  | undeleted {active : ActiveHop} {failure : Failure} (hup : chain.get? hop = some active) :
      Teardown hop announce chain (.error (.backend failure))
        (granted (restoring hop) ++ [.look active.tunnel.name true,
          .call (.deleteInterface active.tunnel.name) (.error failure)]) chain []
  | vanished {active : ActiveHop} (hup : chain.get? hop = some active) :
      Teardown hop announce chain (.error (.interfaceMissing active.tunnel.name))
        (granted (restoring hop) ++ [.look active.tunnel.name false]) (chain.erase hop)
        (farewell announce hop)
  | removed {active : ActiveHop} (hup : chain.get? hop = some active) :
      Teardown hop announce chain (.ok ())
        (granted (restoring hop) ++ [.look active.tunnel.name true,
          .call (.deleteInterface active.tunnel.name) (.ok ())]) (chain.erase hop)
        (farewell announce hop)

/-- Whether a teardown with this result has taken its hop out of the chain. -/
def isGone : Except OperationError Unit → Bool
  | .ok _ => true
  | .error (.interfaceMissing _) => true
  | .error _ => false

theorem Teardown.of_isGone {hop : HopIndex} {announce : Bool} {chain next : Chain}
    {said : List HopEvent} {result : Except OperationError Unit} {xs : List Exchange}
    (h : Teardown hop announce chain result xs next said) (hgone : isGone result = true) :
    next = chain.erase hop ∧ said = farewell announce hop := by
  cases h with
  | vanished _ => exact ⟨rfl, rfl⟩
  | removed _ => exact ⟨rfl, rfl⟩
  | inactive _ => simp [isGone] at hgone
  | unrestored _ _ => simp [isGone] at hgone
  | undeleted _ => simp [isGone] at hgone

theorem Teardown.of_not_isGone {hop : HopIndex} {announce : Bool} {chain next : Chain}
    {said : List HopEvent} {result : Except OperationError Unit} {xs : List Exchange}
    (h : Teardown hop announce chain result xs next said) (hgone : isGone result = false) :
    next = chain ∧ said = [] := by
  cases h with
  | vanished _ => simp [isGone] at hgone
  | removed _ => simp [isGone] at hgone
  | inactive _ => exact ⟨rfl, rfl⟩
  | unrestored _ _ => exact ⟨rfl, rfl⟩
  | undeleted _ => exact ⟨rfl, rfl⟩

theorem Teardown.exchanges_of_none {hop : HopIndex} {announce : Bool} {chain next : Chain}
    {said : List HopEvent} {result : Except OperationError Unit} {xs : List Exchange}
    (h : Teardown hop announce chain result xs next said) (hdown : chain.get? hop = none) :
    xs = [] := by
  cases h with
  | inactive _ => rfl
  | unrestored hup _ => cases hdown.symm.trans hup
  | undeleted hup => cases hdown.symm.trans hup
  | vanished hup => cases hdown.symm.trans hup
  | removed hup => cases hdown.symm.trans hup

/-- The ways in which a hop is brought up: result, exchanges, chain and events. `switching` is
whether the system can change a peer in place. -/
inductive Activation (switching : Bool) (now : String) (tunnel : Tunnel) (chain : Chain) :
    Except OperationError Unit → List Exchange → Chain → List HopEvent → Prop where
  | overlong (hname : Naming.maxBytes < Utf8.size tunnel.name) :
      Activation switching now tunnel chain (.error (.interfaceName tunnel.name)) [] chain []
  | fresh {result : Except OperationError Unit} {xs : List Exchange} {next : Chain}
      {said : List HopEvent} (hname : Utf8.size tunnel.name ≤ Naming.maxBytes)
      (hdown : chain.get? tunnel.hop = none)
      (hbuild : Building now tunnel chain result xs next said) :
      Activation switching now tunnel chain result xs next said
  | switched {current : ActiveHop} (hname : Utf8.size tunnel.name ≤ Naming.maxBytes)
      (hup : chain.get? tunnel.hop = some current)
      (hswitch : (tunnel.canReplace current.tunnel && switching) = true) :
      Activation switching now tunnel chain (.ok ()) [.call (.configureInterface tunnel) (.ok ())]
        (chain.put ⟨tunnel, now⟩) [.connected tunnel.hop]
  | unswitched {current : ActiveHop} {failure : Failure}
      (hname : Utf8.size tunnel.name ≤ Naming.maxBytes)
      (hup : chain.get? tunnel.hop = some current)
      (hswitch : (tunnel.canReplace current.tunnel && switching) = true) :
      Activation switching now tunnel chain (.error (.backend failure))
        [.call (.configureInterface tunnel) (.error failure)] chain []
  | kept {current : ActiveHop} {result : Except OperationError Unit} {xs : List Exchange}
      (hname : Utf8.size tunnel.name ≤ Naming.maxBytes)
      (hup : chain.get? tunnel.hop = some current)
      (hswitch : (tunnel.canReplace current.tunnel && switching) = false)
      (hteardown : Teardown tunnel.hop false chain result xs chain [])
      (hgone : isGone result = false) :
      Activation switching now tunnel chain result xs chain []
  | rebuilt {current : ActiveHop} {end_ result : Except OperationError Unit} {xs ys : List Exchange}
      {next : Chain} {said : List HopEvent} (hname : Utf8.size tunnel.name ≤ Naming.maxBytes)
      (hup : chain.get? tunnel.hop = some current)
      (hswitch : (tunnel.canReplace current.tunnel && switching) = false)
      (hteardown : Teardown tunnel.hop false chain end_ xs (chain.erase tunnel.hop) [])
      (hgone : isGone end_ = true)
      (hbuild : Building now tunnel (chain.erase tunnel.hop) result ys next said) :
      Activation switching now tunnel chain result (xs ++ ys) next said

theorem Activation.of_overlong {switching : Bool} {now : String} {tunnel : Tunnel}
    {chain next : Chain} {result : Except OperationError Unit} {xs : List Exchange}
    {said : List HopEvent} (h : Activation switching now tunnel chain result xs next said)
    (hlong : Naming.maxBytes < Utf8.size tunnel.name) :
    result = .error (.interfaceName tunnel.name) ∧ xs = [] ∧ next = chain ∧ said = [] := by
  have hname : ¬ Utf8.size tunnel.name ≤ Naming.maxBytes := Nat.not_le.mpr hlong
  cases h with
  | overlong _ => exact ⟨rfl, rfl, rfl, rfl⟩
  | fresh hshort => exact absurd hshort hname
  | switched hshort => exact absurd hshort hname
  | unswitched hshort => exact absurd hshort hname
  | kept hshort => exact absurd hshort hname
  | rebuilt hshort => exact absurd hshort hname

theorem Activation.of_down {switching : Bool} {now : String} {tunnel : Tunnel}
    {chain next : Chain} {result : Except OperationError Unit} {xs : List Exchange}
    {said : List HopEvent} (h : Activation switching now tunnel chain result xs next said)
    (hshort : Utf8.size tunnel.name ≤ Naming.maxBytes) (hdown : chain.get? tunnel.hop = none) :
    Building now tunnel chain result xs next said := by
  cases h with
  | overlong hlong => exact absurd hshort (Nat.not_le.mpr hlong)
  | fresh _ _ hbuild => exact hbuild
  | switched _ hup _ => cases hdown.symm.trans hup
  | unswitched _ hup _ => cases hdown.symm.trans hup
  | kept _ hup _ _ _ => cases hdown.symm.trans hup
  | rebuilt _ hup _ _ _ _ => cases hdown.symm.trans hup

/-- Whether a call names no interface but this one. -/
def Call.Minds (name : String) (call : Call) : Prop :=
  call.interface? = none ∨ call.interface? = some name

def Exchange.Minds (name : String) : Exchange → Prop
  | .call made _ => made.Minds name
  | .look looked _ => looked = name

/-- Whether a call changes the name servers of the system. -/
def Call.isDns : Call → Bool
  | .updateResolvers .. => true
  | .restoreResolvers => true
  | _ => false

/-- Whether a call names no interface but this one, and changes name servers only for the exit
hop. -/
structure Call.Concerns (name : String) (hop : HopIndex) (call : Call) : Prop where
  minds : call.Minds name
  exit_of_isDns : call.isDns = true → hop = 0

def Exchange.Concerns (name : String) (hop : HopIndex) : Exchange → Prop
  | .call made _ => made.Concerns name hop
  | .look looked _ => looked = name

theorem Exchange.Concerns.minds {name : String} {hop : HopIndex} {x : Exchange}
    (h : x.Concerns name hop) : x.Minds name := by
  cases x with
  | call made answer => exact Call.Concerns.minds h
  | look looked found => exact h

theorem Call.concerns_of_not_isDns {name : String} {call : Call} (hop : HopIndex)
    (hname : call.interface? = some name) (hdns : call.isDns = false) : call.Concerns name hop :=
  ⟨.inr hname, fun h => by rw [hdns] at h; cases h⟩

section Concerns

variable {name : String} {hop : HopIndex} {chain next : Chain} {xs : List Exchange}
  {said : List HopEvent}

theorem concerns_granted {calls : List Call} (hcalls : ∀ call ∈ calls, call.Concerns name hop) :
    ∀ x ∈ granted calls, x.Concerns name hop := by
  intro x hx
  obtain ⟨call, hcall, rfl⟩ := List.mem_map.mp hx
  exact hcalls call hcall

theorem Attempt.concerns {calls : List Call} {result : Except Failure Unit}
    (h : Attempt calls result xs) (hcalls : ∀ call ∈ calls, call.Concerns name hop) :
    ∀ x ∈ xs, x.Concerns name hop := by
  cases h with
  | completed => exact concerns_granted hcalls
  | stopped done failure heq =>
    subst heq
    intro x hx
    rcases List.mem_append.mp hx with hdone | hlast
    · exact concerns_granted (fun call hcall => hcalls call (List.mem_append_left _ hcall)) x hdone
    · rw [List.mem_singleton.mp hlast]
      exact hcalls _ (by simp)

theorem Clearing.concerns {result : Except OperationError Unit} (h : Clearing name result xs) :
    ∀ x ∈ xs, x.Concerns name hop := by
  have hdelete : (Call.deleteInterface name).Concerns name hop :=
    Call.concerns_of_not_isDns hop rfl rfl
  cases h <;> simp [Exchange.Concerns, hdelete]

theorem Tunnel.concerns_buildScript (tunnel : Tunnel) :
    ∀ call ∈ tunnel.buildScript, call.Concerns tunnel.name tunnel.hop := by
  intro call hcall
  simp only [buildScript, List.mem_append, List.mem_map, List.mem_cons, List.not_mem_nil, or_false]
    at hcall
  rcases hcall with ((hopened | hresolvers) | hraised) | ⟨range, -, rfl⟩
  · rcases hopened with rfl | rfl <;> exact Call.concerns_of_not_isDns _ rfl rfl
  · split at hresolvers
    · rename_i hexit
      rw [List.mem_singleton.mp hresolvers]
      exact ⟨.inr rfl, fun _ => hexit⟩
    · simp at hresolvers
  · rcases hraised with rfl | rfl <;> exact Call.concerns_of_not_isDns _ rfl rfl
  · exact Call.concerns_of_not_isDns _ rfl rfl

theorem Building.concerns {now : String} {tunnel : Tunnel} {result : Except OperationError Unit}
    (h : Building now tunnel chain result xs next said) :
    ∀ x ∈ xs, x.Concerns tunnel.name tunnel.hop := by
  cases h with
  | uncleared hclear => exact hclear.concerns
  | failed hclear hscript =>
    exact List.forall_mem_append.mpr ⟨hclear.concerns, hscript.concerns tunnel.concerns_buildScript⟩
  | built hclear =>
    exact List.forall_mem_append.mpr
      ⟨hclear.concerns, concerns_granted tunnel.concerns_buildScript⟩

theorem concerns_restoring (hop : HopIndex) (name : String) :
    ∀ call ∈ restoring hop, call.Concerns name hop := by
  intro call hcall
  unfold restoring at hcall
  split at hcall
  · rename_i hexit
    rw [List.mem_singleton.mp hcall]
    exact ⟨.inl rfl, fun _ => hexit⟩
  · simp at hcall

theorem Teardown.concerns {announce : Bool} {result : Except OperationError Unit}
    {active : ActiveHop} (h : Teardown hop announce chain result xs next said)
    (hactive : chain.get? hop = some active) : ∀ x ∈ xs, x.Concerns active.tunnel.name hop := by
  have hrestored := concerns_granted (concerns_restoring hop active.tunnel.name)
  have hdelete : (Call.deleteInterface active.tunnel.name).Concerns active.tunnel.name hop :=
    Call.concerns_of_not_isDns hop rfl rfl
  cases h with
  | inactive hdown => simp
  | unrestored hup hexit =>
    exact List.forall_mem_singleton.mpr ⟨.inl rfl, fun _ => hexit⟩
  | undeleted hup =>
    cases hactive.symm.trans hup
    exact List.forall_mem_append.mpr ⟨hrestored, by simp [Exchange.Concerns, hdelete]⟩
  | vanished hup =>
    cases hactive.symm.trans hup
    exact List.forall_mem_append.mpr ⟨hrestored, by simp [Exchange.Concerns]⟩
  | removed hup =>
    cases hactive.symm.trans hup
    exact List.forall_mem_append.mpr ⟨hrestored, by simp [Exchange.Concerns, hdelete]⟩

end Concerns

namespace Controller

/-- `after` is `before` after some exchanges, with a new chain and some events more. -/
structure Turns (engine : Engine σ) (before : Controller σ) (exchanges : List Exchange)
    (chain : Chain) (said : List HopEvent) (after : Controller σ) : Prop where
  runs : engine.Runs before.system exchanges after.system
  chain : after.chain = chain
  events : after.events = before.events ++ said

theorem Turns.start (engine : Engine σ) (controller : Controller σ) :
    Turns engine controller [] controller.chain [] controller :=
  ⟨.nil _, rfl, (List.append_nil _).symm⟩

variable {engine : Engine σ} {before controller : Controller σ} {xs : List Exchange} {chain : Chain}
  {said : List HopEvent}

namespace Turns

theorem note (h : Turns engine before xs chain said controller) (level : Level) (text : String) :
    Turns engine before xs chain said (controller.note level text) :=
  ⟨h.runs, h.chain, h.events⟩

theorem emit (h : Turns engine before xs chain said controller) (event : HopEvent) :
    Turns engine before xs chain (said ++ [event]) (controller.emit event) where
  runs := h.runs
  chain := h.chain
  events := by
    rw [← List.append_assoc, ← h.events]
    rfl

theorem commit (h : Turns engine before xs chain said controller) (now : String) (tunnel : Tunnel) :
    Turns engine before xs (chain.put ⟨tunnel, now⟩) said (controller.commit now tunnel) :=
  ⟨h.runs, congrArg (Chain.put · ⟨tunnel, now⟩) h.chain, h.events⟩

theorem drop (h : Turns engine before xs chain said controller) (hop : HopIndex) :
    Turns engine before xs (chain.erase hop) said (controller.drop hop) :=
  ⟨h.runs, congrArg (Table.erase · hop) h.chain, h.events⟩

theorem announceDown (h : Turns engine before xs chain said controller) (announce : Bool)
    (hop : HopIndex) :
    Turns engine before xs chain (said ++ farewell announce hop)
      (controller.announceDown announce hop) := by
  unfold Controller.announceDown farewell
  cases announce with
  | false => simpa using h
  | true => exact h.emit _

theorem noteFailure (h : Turns engine before xs chain said controller) (failure : Failure)
    (call : Call) : Turns engine before xs chain said (controller.noteFailure failure call) := by
  unfold Controller.noteFailure
  split
  · exact h.note _ _
  · exact h

theorem call (h : Turns engine before xs chain said controller) (call : Call) :
    Turns engine before (xs ++ [.call call (controller.ask (engine.perform call)).1]) chain said
      (controller.ask (engine.perform call)).2 :=
  ⟨h.runs.append (.call call (.nil _)), h.chain, h.events⟩

theorem look (h : Turns engine before xs chain said controller) (name : String) :
    Turns engine before (xs ++ [.look name (controller.ask (engine.hasInterface name)).1])
      chain said
      (controller.ask (engine.hasInterface name)).2 :=
  ⟨h.runs.append (.look name (.nil _)), h.chain, h.events⟩

theorem performAll (h : Turns engine before xs chain said controller) (calls : List Call) :
    ∃ ys, Attempt calls (performAll engine controller calls).1 ys ∧
      Turns engine before (xs ++ ys) chain said (performAll engine controller calls).2 := by
  induction calls generalizing controller xs with
  | nil => exact ⟨[], .completed, by rw [List.append_nil]; exact h⟩
  | cons call rest ih =>
    have hcall := h.call call
    unfold Controller.performAll
    cases hask : controller.ask (engine.perform call) with
    | mk answer next =>
      rw [hask] at hcall
      cases answer with
      | ok done =>
        obtain ⟨ys, hattempt, hturns⟩ := ih hcall
        exact ⟨_, hattempt.cons call, by simpa using hturns⟩
      | error failure =>
        exact ⟨_, .stopped [] failure rfl, hcall.noteFailure failure call⟩

theorem performAll_cases (h : Turns engine before xs chain said controller) (calls : List Call) :
    (∃ next, Controller.performAll engine controller calls = (.ok (), next) ∧
      Turns engine before (xs ++ granted calls) chain said next) ∨
    ∃ failure ys next, Controller.performAll engine controller calls = (.error failure, next) ∧
      Attempt calls (.error failure) ys ∧ Turns engine before (xs ++ ys) chain said next := by
  obtain ⟨ys, hattempt, hturns⟩ := h.performAll calls
  cases hcalls : Controller.performAll engine controller calls with
  | mk answer next =>
    rw [hcalls] at hattempt hturns
    cases answer with
    | ok done =>
      cases hattempt
      exact .inl ⟨next, rfl, hturns⟩
    | error failure => exact .inr ⟨failure, ys, next, rfl, hattempt, hturns⟩

theorem perform_cases (h : Turns engine before xs chain said controller) (call : Call) :
    (∃ next, Controller.performAll engine controller [call] = (.ok (), next) ∧
      Turns engine before (xs ++ [.call call (.ok ())]) chain said next) ∨
    ∃ failure next, Controller.performAll engine controller [call] = (.error failure, next) ∧
      Turns engine before (xs ++ [.call call (.error failure)]) chain said next := by
  rcases h.performAll_cases [call] with hdone | ⟨failure, ys, next, hcall, hattempt, hturns⟩
  · exact .inl hdone
  · rw [hattempt.single] at hturns
    exact .inr ⟨failure, next, hcall, hturns⟩

theorem removeStale (h : Turns engine before xs chain said controller) (name : String) :
    ∃ ys, Clearing name (removeStale engine controller name).1 ys ∧
      Turns engine before (xs ++ ys) chain said (removeStale engine controller name).2 := by
  have hlook := h.look name
  unfold Controller.removeStale
  cases hask : controller.ask (engine.hasInterface name) with
  | mk found next =>
    rw [hask] at hlook
    cases found with
    | false => exact ⟨_, .absent, hlook⟩
    | true =>
      have hfound := hlook.note .warn ("Stale interface " ++ name ++ " found, removing it")
      dsimp only
      rcases hfound.perform_cases (.deleteInterface name) with
        ⟨last, hcall, hturns⟩ | ⟨failure, last, hcall, hturns⟩
      · rw [List.append_assoc] at hturns
        rw [hcall]
        exact ⟨_, .removed, hturns⟩
      · rw [List.append_assoc] at hturns
        rw [hcall]
        exact ⟨_, .stuck failure, hturns⟩

theorem build (h : Turns engine before xs chain said controller) (now : String) (tunnel : Tunnel) :
    ∃ ys next told,
      Building now tunnel chain (build engine now tunnel controller).1 ys next told ∧
        Turns engine before (xs ++ ys) next (said ++ told)
          (build engine now tunnel controller).2 := by
  obtain ⟨ys, hclear, hclearing⟩ :=
    (h.note .debug ("Bringing up " ++ tunnel.summary)).removeStale tunnel.name
  unfold Controller.build
  cases hremoved : Controller.removeStale engine
      (controller.note .debug ("Bringing up " ++ tunnel.summary)) tunnel.name with
  | mk cleared middle =>
    rw [hremoved] at hclear hclearing
    cases cleared with
    | error error => exact ⟨_, _, [], .uncleared hclear, by simpa using hclearing⟩
    | ok done =>
      dsimp only
      rcases hclearing.performAll_cases tunnel.buildScript with
        ⟨last, hcalls, hturns⟩ | ⟨failure, zs, last, hcalls, hattempt, hturns⟩
      · rw [List.append_assoc] at hturns
        rw [hcalls]
        exact ⟨_, _, _, .built hclear, ((hturns.commit now tunnel).note _ _).emit _⟩
      · rw [List.append_assoc] at hturns
        rw [hcalls]
        exact ⟨_, _, [], .failed hclear hattempt, by simpa using hturns⟩

theorem switch (h : Turns engine before xs chain said controller) (now : String)
    (tunnel : Tunnel) :
    (∃ failure, (switch engine now tunnel controller).1 = .error (.backend failure) ∧
      Turns engine before (xs ++ [.call (.configureInterface tunnel) (.error failure)]) chain said
        (switch engine now tunnel controller).2) ∨
    ((switch engine now tunnel controller).1 = .ok () ∧
      Turns engine before (xs ++ [.call (.configureInterface tunnel) (.ok ())])
        (chain.put ⟨tunnel, now⟩) (said ++ [.connected tunnel.hop])
        (switch engine now tunnel controller).2) := by
  unfold Controller.switch
  rcases h.perform_cases (.configureInterface tunnel) with
    ⟨last, hcall, hturns⟩ | ⟨failure, last, hcall, hturns⟩
  · rw [hcall]
    exact .inr ⟨rfl, (hturns.commit now tunnel).emit _⟩
  · rw [hcall]
    exact .inl ⟨failure, rfl, hturns⟩

theorem teardown {hop : HopIndex} {active : ActiveHop}
    (h : Turns engine before (granted (restoring hop)) before.chain [] controller)
    (hup : before.chain.get? hop = some active) (announce : Bool) :
    ∃ ys next told,
      Teardown hop announce before.chain
        (teardown engine hop active.tunnel.name announce controller).1 ys next told ∧
      Turns engine before ys next told
        (teardown engine hop active.tunnel.name announce controller).2 := by
  have hlook := h.look active.tunnel.name
  unfold Controller.teardown
  cases hask : controller.ask (engine.hasInterface active.tunnel.name) with
  | mk found next =>
    rw [hask] at hlook
    cases found with
    | false => exact ⟨_, _, _, .vanished hup, ((hlook.note _ _).drop hop).announceDown announce hop⟩
    | true =>
      dsimp only
      rcases hlook.perform_cases (.deleteInterface active.tunnel.name) with
        ⟨last, hcall, hturns⟩ | ⟨failure, last, hcall, hturns⟩
      · rw [List.append_assoc] at hturns
        rw [hcall]
        exact ⟨_, _, _, .removed hup, ((hturns.drop hop).note _ _).announceDown announce hop⟩
      · rw [List.append_assoc] at hturns
        rw [hcall]
        exact ⟨_, _, _, .undeleted hup, hturns⟩

theorem deactivate (h : Turns engine before [] before.chain [] controller) (hop : HopIndex)
    (announce : Bool) :
    ∃ xs next said,
      Teardown hop announce before.chain (deactivate engine hop announce controller).1 xs
        next said ∧
      Turns engine before xs next said (deactivate engine hop announce controller).2 := by
  have hchain := h.chain
  unfold Controller.deactivate
  rw [hchain]
  cases hup : before.chain.get? hop with
  | none => exact ⟨_, _, _, .inactive hup, h.note _ _⟩
  | some active =>
    have hnoted := h.note .info ("Deactivating interface " ++ active.tunnel.name)
    dsimp only
    rw [← restoring]
    rcases hnoted.performAll_cases (restoring hop) with
      ⟨middle, hcalls, hturns⟩ | ⟨failure, xs, middle, hcalls, hattempt, hturns⟩
    · rw [hcalls]
      exact hturns.teardown hup announce
    · rw [hcalls]
      by_cases hexit : hop = 0
      · rw [restoring, if_pos hexit] at hattempt
        rw [hattempt.single] at hturns
        exact ⟨_, _, _, .unrestored hup hexit, hturns⟩
      · rw [restoring, if_neg hexit] at hattempt
        cases hattempt with
        | stopped _ _ hcalls => simp at hcalls

end Turns

theorem deactivate_law (engine : Engine σ) (hop : HopIndex) (announce : Bool)
    (controller : Controller σ) :
    ∃ xs next said,
      Teardown hop announce controller.chain (deactivate engine hop announce controller).1 xs next
        said ∧
      Turns engine controller xs next said (deactivate engine hop announce controller).2 :=
  (Turns.start engine controller).deactivate hop announce

theorem rebuild_eq (engine : Engine σ) (now : String) (tunnel : Tunnel)
    (controller : Controller σ) :
    rebuild engine now tunnel controller =
      if isGone (deactivate engine tunnel.hop false controller).1 then
        build engine now tunnel (deactivate engine tunnel.hop false controller).2
      else deactivate engine tunnel.hop false controller := by
  unfold rebuild
  cases deactivate engine tunnel.hop false controller with
  | mk result next =>
    cases result with
    | ok done => rfl
    | error error => cases error <;> rfl

theorem activate_law (engine : Engine σ) (now : String) (tunnel : Tunnel)
    (controller : Controller σ) :
    ∃ xs next said,
      Activation (engine.supportsSwitching controller.system) now tunnel controller.chain
        (activate engine now tunnel controller).1 xs next said ∧
      Turns engine controller xs next said (activate engine now tunnel controller).2 := by
  have hstart := (Turns.start engine controller).note .info ("Activating interface " ++ tunnel.name)
  unfold activate
  dsimp only
  split
  · rename_i hname
    exact ⟨_, _, _, .overlong hname, hstart⟩
  · rename_i hname
    have hfits := Nat.le_of_not_lt hname
    split
    · rename_i hdown
      obtain ⟨xs, next, said, hbuild, hturns⟩ := hstart.build now tunnel
      exact ⟨_, _, _, .fresh hfits hdown hbuild, hturns⟩
    · rename_i current hup
      split
      · rename_i hswitch
        rcases (hstart.note .info ("Hop " ++ toString tunnel.hop.toNat ++ " already up, " ++
          "switching server in place")).switch now tunnel with
          ⟨failure, hresult, hturns⟩ | ⟨hresult, hturns⟩
        · exact ⟨_, _, _, hresult ▸ .unswitched hfits hup hswitch, hturns⟩
        · exact ⟨_, _, _, hresult ▸ .switched hfits hup hswitch, hturns⟩
      · rename_i hnot
        have hswitch := eq_false_of_ne_true hnot
        obtain ⟨xs, next, said, hteardown, hturns⟩ := (hstart.note .info ("Hop " ++
          toString tunnel.hop.toNat ++ " already up, " ++
          "server switching not possible, reconnecting")).deactivate tunnel.hop false
        rw [rebuild_eq]
        split
        · rename_i hgone
          obtain ⟨rfl, rfl⟩ := hteardown.of_isGone hgone
          obtain ⟨ys, last, told, hbuild, hbuilding⟩ := hturns.build now tunnel
          exact ⟨_, _, _, .rebuilt hfits hup hswitch hteardown hgone hbuild, hbuilding⟩
        · rename_i hkept
          have hgone := eq_false_of_ne_true hkept
          obtain ⟨rfl, rfl⟩ := hteardown.of_not_isGone hgone
          exact ⟨_, _, _, .kept hfits hup hswitch hteardown hgone, hturns⟩

end Controller

end TunnelChain
