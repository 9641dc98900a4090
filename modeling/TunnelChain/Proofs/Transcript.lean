import TunnelChain.Proofs.Exchange
import TunnelChain.Proofs.Table

/-!
# Transcripts

A system can keep a transcript of all that is asked of it, so that a statement about a run can speak
of every call that was made and of its answer.
-/

namespace TunnelChain

/-- A system with what has been asked of it so far: the exchanges, and the interfaces whose counters
were read. -/
structure Transcript (σ : Type) where
  system : σ
  exchanges : List Exchange
  readings : List String

def Exchange.hasFailed : Exchange → Bool
  | .call _ (.error _) => true
  | _ => false

/-- Whether every call so far has succeeded. -/
def Clean (xs : List Exchange) : Prop :=
  ∀ x ∈ xs, x.hasFailed = false

instance (xs : List Exchange) : Decidable (Clean xs) :=
  inferInstanceAs (Decidable (∀ x ∈ xs, x.hasFailed = false))

theorem Clean.of_append {xs ys : List Exchange} (h : Clean (xs ++ ys)) : Clean xs ∧ Clean ys :=
  List.forall_mem_append.mp h

theorem Clean.of_initial {xs ys : List Exchange} (h : Clean ys) (hinitial : xs <+: ys) : Clean xs :=
  fun x hx => h x (hinitial.subset hx)

theorem not_clean_error (call : Call) (failure : Failure) :
    ¬Clean [.call call (.error failure)] := by
  simp [Clean, Exchange.hasFailed]

variable {σ : Type}

namespace Transcript

def blank (system : σ) : Transcript σ :=
  ⟨system, [], []⟩

def record (transcript : Transcript σ) (system : σ) (x : Exchange) : Transcript σ :=
  { transcript with system, exchanges := transcript.exchanges ++ [x] }

end Transcript

namespace Engine

/-- The engine that also writes down what is asked of it. -/
def transcribed (engine : Engine σ) : Engine (Transcript σ) where
  name := engine.name
  perform call transcript :=
    let outcome := engine.perform call transcript.system
    outcome.mapSystem (transcript.record · (.call call outcome.answer))
  hasInterface name transcript :=
    let outcome := engine.hasInterface name transcript.system
    outcome.mapSystem (transcript.record · (.look name outcome.answer))
  throughput name transcript :=
    (engine.throughput name transcript.system).mapSystem fun system =>
      { transcript with system, readings := transcript.readings ++ [name] }
  supportsSwitching transcript := engine.supportsSwitching transcript.system
  isAlive transcript := engine.isAlive transcript.system

theorem Runs.of_transcribed {engine : Engine σ} {before after : Transcript σ} {xs : List Exchange}
    (h : engine.transcribed.Runs before xs after) :
    engine.Runs before.system xs after.system ∧ after.exchanges = before.exchanges ++ xs ∧
      after.readings = before.readings := by
  induction h with
  | nil transcript => exact ⟨.nil _, (List.append_nil _).symm, rfl⟩
  | call call _ ih =>
    obtain ⟨hruns, hexchanges, hreadings⟩ := ih
    refine ⟨.call call hruns, ?_, hreadings⟩
    rw [hexchanges]
    exact List.append_assoc _ _ _
  | look name _ ih =>
    obtain ⟨hruns, hexchanges, hreadings⟩ := ih
    refine ⟨.look name hruns, ?_, hreadings⟩
    rw [hexchanges]
    exact List.append_assoc _ _ _

end Engine

section Clean

variable {chain next : Chain} {xs : List Exchange} {said : List HopEvent}
  {result : Except OperationError Unit}

theorem Attempt.of_clean {calls : List Call} {result : Except Failure Unit}
    (h : Attempt calls result xs) (hclean : Clean xs) : result = .ok () ∧ xs = granted calls := by
  cases h with
  | completed => exact ⟨rfl, rfl⟩
  | stopped done failure hcalls => exact absurd hclean.of_append.2 (not_clean_error _ _)

theorem Clearing.of_clean {name : String} (h : Clearing name result xs) (hclean : Clean xs) :
    result = .ok () := by
  cases h with
  | absent => rfl
  | removed => rfl
  | stuck failure => simp [Clean, Exchange.hasFailed] at hclean

/-- Where no call fails, a tunnel is built. -/
theorem Building.of_clean {now : String} {tunnel : Tunnel}
    (h : Building now tunnel chain result xs next said) (hclean : Clean xs) :
    result = .ok () ∧ next = chain.put ⟨tunnel, now⟩ ∧ said = [.connected tunnel.hop] ∧
      ∃ ys, xs = ys ++ granted tunnel.buildScript ∧ Clearing tunnel.name (.ok ()) ys := by
  cases h with
  | uncleared hclear => cases hclear.of_clean hclean
  | failed hclear hscript => cases (hscript.of_clean hclean.of_append.2).1
  | built hclear => exact ⟨rfl, rfl, rfl, _, rfl, hclear⟩

/-- Where no call fails, a hop that is up is brought down. -/
theorem Teardown.of_clean {hop : HopIndex} {announce : Bool}
    (h : Teardown hop announce chain result xs next said) (hclean : Clean xs) :
    (chain.get? hop = none ∧ xs = [] ∧ next = chain ∧ said = []) ∨
      ((chain.get? hop).isSome ∧ isGone result = true) := by
  cases h with
  | inactive hdown => exact .inl ⟨hdown, rfl, rfl, rfl⟩
  | unrestored hup hexit => exact absurd hclean (not_clean_error _ _)
  | undeleted hup => exact absurd hclean.of_append.2 (by simp [Clean, Exchange.hasFailed])
  | vanished hup => exact .inr ⟨by rw [hup]; rfl, rfl⟩
  | removed hup => exact .inr ⟨by rw [hup]; rfl, rfl⟩

/-- The ways in which an activation goes where no call fails: it is refused for its name, or its hop
comes up. -/
inductive Success (switching : Bool) (now : String) (tunnel : Tunnel) (chain : Chain) :
    Except OperationError Unit → List Exchange → Chain → List HopEvent → Prop where
  | overlong (hname : Naming.maxBytes < Utf8.size tunnel.name) :
      Success switching now tunnel chain (.error (.interfaceName tunnel.name)) [] chain []
  | switched {current : ActiveHop} (hname : Utf8.size tunnel.name ≤ Naming.maxBytes)
      (hup : chain.get? tunnel.hop = some current)
      (hswitch : (tunnel.canReplace current.tunnel && switching) = true) :
      Success switching now tunnel chain (.ok ()) [.call (.configureInterface tunnel) (.ok ())]
        (chain.put ⟨tunnel, now⟩) [.connected tunnel.hop]
  | built {xs : List Exchange} {next : Chain}
      (hnext : ∀ hop, next.get? hop = (chain.put ⟨tunnel, now⟩).get? hop) :
      Success switching now tunnel chain (.ok ()) (xs ++ granted tunnel.buildScript) next
        [.connected tunnel.hop]

theorem Activation.success {switching : Bool} {now : String} {tunnel : Tunnel}
    (h : Activation switching now tunnel chain result xs next said) (hclean : Clean xs) :
    Success switching now tunnel chain result xs next said := by
  cases h with
  | overlong hname => exact .overlong hname
  | fresh hname hdown hbuild =>
    obtain ⟨rfl, rfl, rfl, ys, rfl, -⟩ := hbuild.of_clean hclean
    exact .built fun _ => rfl
  | switched hname hup hswitch => exact .switched hname hup hswitch
  | unswitched hname hup hswitch => exact absurd hclean (not_clean_error _ _)
  | kept hname hup hswitch hteardown hgone =>
    rcases hteardown.of_clean hclean with ⟨hdown, -⟩ | ⟨-, hgone'⟩
    · cases hup.symm.trans hdown
    · cases hgone.symm.trans hgone'
  | @rebuilt current _ _ xs ys _ _ hname hup hswitch hteardown hgone hbuild =>
    obtain ⟨rfl, rfl, rfl, zs, rfl, -⟩ := hbuild.of_clean hclean.of_append.2
    rw [← List.append_assoc]
    refine .built fun hop => ?_
    rw [Chain.put, Chain.put, Table.get?_insert, Table.get?_insert, Table.get?_erase]
    split
    · rfl
    · rfl

end Clean

end TunnelChain
