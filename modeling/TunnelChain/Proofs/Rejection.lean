import TunnelChain.Proofs.Broadcast
import TunnelChain.Proofs.Json.Visiting
import TunnelChain.Proofs.Transcript
import TunnelChain.Proofs.Transport
import TunnelChain.Service.Dispatch

/-!
# Messages that are no messages

A line that carries no message of the protocol leaves a service as it was, but for one kind: a
deactivation is obeyed whatever is wrong with its hop, and then it means the exit hop.
-/

namespace TunnelChain

open Json Json.Record Json.Reader

/-! ## What a line is read as -/

theorem RangeEntry.impartial_reader : RangeEntry.reader.Impartial :=
  ((((impartial_required impartial_text _).map _).seq
    (impartial_required impartial_natural32 _)).seq
    (impartial_required impartial_flag _)).read _

theorem TunnelRequest.impartial_reader : TunnelRequest.reader.Impartial := by
  refine Impartial.read ?_ _
  refine .seq ?_ (impartial_required RangeEntry.impartial_reader.list _)
  refine .seq ?_ (impartial_required impartial_flag _)
  refine .seq ?_ (impartial_required impartial_natural16 _)
  iterate 8 refine .seq ?_ (impartial_required impartial_text _)
  exact (impartial_optional impartial_natural32 _).map _

theorem Json.eq_natJson_of_natural? {value : Json} {n : Nat} (h : value.natural? = some n) :
    value = natJson n := by
  cases value with
  | num number =>
    cases number with
    | int value =>
      rw [natural?] at h
      by_cases hsign : 0 ≤ value
      · rw [if_pos hsign, Option.some.injEq] at h
        rw [natJson, ← h, Int.toNat_of_nonneg hsign]
      · rw [if_neg hsign] at h
        cases h
    | float value => cases h
  | _ => cases h

theorem exists_of_hopHint_ne {body : Json} (h : hopHint body ≠ 0) :
    ∃ n < UInt32.size, body.field? "hopindex" = some (natJson n) := by
  unfold hopHint at h
  cases hnumber : (body.field? "hopindex").bind Json.natural? with
  | none =>
    rw [hnumber] at h
    exact absurd rfl h
  | some n =>
    rw [hnumber] at h
    obtain ⟨value, hvalue, hnatural⟩ := Option.bind_eq_some_iff.mp hnumber
    by_cases hn : n < UInt32.size
    · exact ⟨n, hn, by rw [hvalue, Json.eq_natJson_of_natural? hnatural]⟩
    · exact absurd (if_neg hn) h

variable {parcel : Parcel}

/-- What is known of a parcel that a line was read as. -/
structure Parcel.Read (parcel : Parcel) (fields : List (String × Json)) : Prop where
  body : parcel.body = .obj fields
  nodup : (fields.map (·.1)).Nodup
  kind : fields.lookup "type" = some (.str parcel.kind)

namespace Parcel

theorem read_of_ofLine {line : Bytes} (h : ofLine line = .ok parcel) :
    ∃ fields, parcel.Read fields := by
  unfold ofLine at h
  cases hdecode : (Utf8.decode line).bind Json.parse? with
  | none =>
    rw [hdecode] at h
    cases h
  | some body =>
    rw [hdecode] at h
    obtain ⟨text, -, hparse⟩ := Option.bind_eq_some_iff.mp hdecode
    cases body with
    | obj fields =>
      cases htype : ((Json.obj fields).field? "type").bind Json.text? with
      | none =>
        simp only [htype] at h
        cases h
      | some kind =>
        simp only [htype] at h
        cases h
        obtain ⟨value, hvalue, hkind⟩ := Option.bind_eq_some_iff.mp htype
        refine ⟨fields, rfl, nodup_of_parse? hparse, ?_⟩
        cases value with
        | str text =>
          cases hkind
          exact hvalue
        | _ => cases hkind
    | _ => cases h

variable {fields : List (String × Json)}

theorem Read.field?_type (h : parcel.Read fields) {kind : String} (hkind : parcel.kind = kind) :
    parcel.body.field? "type" = some (.str kind) := by
  rw [h.body, ← hkind]
  exact h.kind

/-- What makes a tunnel is a message that asks for it. -/
theorem Read.client_activate (h : parcel.Read fields) (hkind : parcel.kind = "activate")
    {nameOf : HopIndex → String} {tunnel : Tunnel}
    (hbody : Tunnel.ofBody nameOf parcel.body = .ok tunnel) :
    ∃ request, parcel.client = .ok (.activate request) ∧
      Tunnel.ofRequest nameOf request = .ok tunnel := by
  obtain ⟨request, hread, hrequest⟩ := Tunnel.exists_request_of_ofBody hbody
  have hremainder : TunnelRequest.reader .remainder parcel.body.toDraft = .ok request :=
    TunnelRequest.impartial_reader .value .remainder _ request hread
  refine ⟨request, ?_, hrequest⟩
  rw [client, ClientMessage.ofJson, readTagged_of_kind (h.field?_type hkind) rfl, mapReader,
    hremainder]
  rfl

/-- A deactivation that names a hop other than the exit hop is a message. -/
theorem Read.client_deactivate (h : parcel.Read fields) (hkind : parcel.kind = "deactivate")
    (hhop : hopHint parcel.body ≠ 0) : ∃ hop, parcel.client = .ok (.deactivate hop) := by
  obtain ⟨n, hn, hfield⟩ := exists_of_hopHint_ne hhop
  have hread : Json.Record.read "deactivate" (.optional "hopindex" .natural32) .remainder
      parcel.body.toDraft = .ok (some (UInt32.ofNat n)) := by
    rw [h.body] at hfield ⊢
    refine read_distinct (sound_optional _ _) "deactivate" h.nodup ?_
    have hlookup : fields.lookup "hopindex" = some (natJson n) := hfield
    simp only [Record.optional, withDefault, hlookup, Option.map_some]
    have hnatural := natural_of_lt "u32" hn .remainder
    change (Except.map UInt32.ofNat (natural "u32" UInt32.size .remainder (.num (.int n)))).map
      some = _
    rw [hnatural]
    rfl
  refine ⟨some (UInt32.ofNat n), ?_⟩
  rw [client, ClientMessage.ofJson, readTagged_of_kind (h.field?_type hkind) rfl, mapReader, hread]
  rfl

/-- The other kinds carry nothing that could be wrong. -/
theorem Read.client_plain (h : parcel.Read fields)
    (hkind : parcel.kind ∈ ["status", "logs", "cleanlogs", "version"]) :
    ∃ message, parcel.client = .ok message ∧ ∀ request, message ≠ .activate request := by
  have hmessage : parcel.client = .ok .status ∨ parcel.client = .ok .logs ∨
      parcel.client = .ok .cleanLogs ∨ parcel.client = .ok .version := by
    rw [client, ClientMessage.ofJson]
    simp only [List.mem_cons, List.not_mem_nil, or_false] at hkind
    obtain hkind | hkind | hkind | hkind := hkind
    · rw [readTagged_of_kind (h.field?_type hkind) rfl]
      exact .inl rfl
    · rw [readTagged_of_kind (h.field?_type hkind) rfl]
      exact .inr (.inl rfl)
    · rw [readTagged_of_kind (h.field?_type hkind) rfl]
      exact .inr (.inr (.inl rfl))
    · rw [readTagged_of_kind (h.field?_type hkind) rfl]
      exact .inr (.inr (.inr rfl))
  obtain hmessage | hmessage | hmessage | hmessage := hmessage
  all_goals exact ⟨_, hmessage, fun _ hactivate => ClientMessage.noConfusion hactivate⟩

end Parcel

/-- Whether a line carries something to obey: it is read as a message, and an activation in it
describes a tunnel. -/
def Acceptable (naming : Naming) (line : Bytes) : Prop :=
  ∃ parcel message, (receive line).parcel = some parcel ∧ parcel.client = .ok message ∧
    ∀ request, message = .activate request →
      ∃ tunnel, Tunnel.ofRequest naming.name request = .ok tunnel

theorem ofLine_of_receive {line : Bytes} (h : (receive line).parcel = some parcel) :
    Parcel.ofLine (trimBytes line) = .ok parcel ∧
      (receive line).log =
        [⟨.debug,
          "Message received: " ++ Utf8.decodeLossy ((trimBytes line).take shownBytes)⟩] := by
  unfold receive at h ⊢
  dsimp only at h ⊢
  by_cases hempty : (trimBytes line).isEmpty
  · rw [if_pos hempty] at h
    cases h
  · rw [if_neg hempty] at h ⊢
    cases hline : Parcel.ofLine (trimBytes line) with
    | error error =>
      rw [hline] at h
      cases h
    | ok read =>
      rw [hline] at h
      cases h
      exact ⟨rfl, rfl⟩

theorem read_of_receive {line : Bytes} (h : (receive line).parcel = some parcel) :
    ∃ fields, parcel.Read fields :=
  Parcel.read_of_ofLine (ofLine_of_receive h).1

theorem receive_text {fields : List (String × Json)} {kind : String}
    (hfaithful : Faithful maxDepth (.obj fields)) (hnodup : (fields.map (·.1)).Nodup)
    (hkind : fields.lookup "type" = some (.str kind)) :
    (receive (Utf8.encode (Json.obj fields).text)).parcel =
      some ⟨kind, (Json.obj fields).sorted⟩ := by
  obtain ⟨htrim, hne⟩ := trimBytes_encode_obj fields
  have htype : ((Json.obj fields).sorted.field? "type").bind text? = some kind := by
    rw [field?_sorted hnodup, hkind]
    rfl
  have hline : Parcel.ofLine (Utf8.encode (Json.obj fields).text) =
      .ok ⟨kind, (Json.obj fields).sorted⟩ := by
    rw [Parcel.ofLine, Utf8.decode_encode, Option.bind_some, parse?_text hfaithful]
    simp only [htype]
    rfl
  unfold receive
  dsimp only
  rw [htrim, if_neg (by simpa using hne), hline]

theorem not_acceptable {naming : Naming} {line : Bytes}
    (hline : (receive line).parcel = some parcel)
    (h : parcel.client.isOk = false) : ¬ Acceptable naming line := by
  rintro ⟨other, message, hother, hclient, -⟩
  obtain rfl : parcel = other := Option.some.inj (hline.symm.trans hother)
  rw [hclient] at h
  cases h

/-! ## What becomes of it -/

variable {σ : Type} {engine : Engine σ}

namespace Controller

/-- A controller apart from what it has logged. -/
def unlogged (controller : Controller σ) : Controller σ :=
  { controller with log := [] }

theorem Turns.unlogged {before after : Controller σ}
    (h : Turns engine before [] before.chain [] after) : after.unlogged = before.unlogged := by
  obtain ⟨chain, system, events, log⟩ := after
  obtain ⟨hruns, hchain, hevents⟩ := h
  rw [List.append_nil] at hevents
  cases hruns
  subst hchain hevents
  rfl

/-- Nothing becomes of bringing down a hop that is not up. -/
theorem deactivate_of_down (engine : Engine σ) (hop : HopIndex) (announce : Bool)
    (controller : Controller σ) (hdown : controller.chain.get? hop = none) :
    (controller.deactivate engine hop announce).1 = .error (.notActive hop) ∧
      (controller.deactivate engine hop announce).2.unlogged = controller.unlogged := by
  unfold deactivate
  rw [hdown]
  exact ⟨rfl, rfl⟩

end Controller

theorem Teardown.exchanges_ne_nil {hop : HopIndex} {announce : Bool} {chain next : Chain}
    {said : List HopEvent} {result : Except OperationError Unit} {xs : List Exchange}
    (h : Teardown hop announce chain result xs next said) {active : ActiveHop}
    (hup : chain.get? hop = some active) : xs ≠ [] := by
  cases h with
  | inactive hdown => cases hdown.symm.trans hup
  | unrestored _ _ => exact List.cons_ne_nil _ _
  | undeleted _ => exact List.append_ne_nil_of_right_ne_nil _ (List.cons_ne_nil _ _)
  | vanished _ => exact List.append_ne_nil_of_right_ne_nil _ (List.cons_ne_nil _ _)
  | removed _ => exact List.append_ne_nil_of_right_ne_nil _ (List.cons_ne_nil _ _)

/-- Bringing a hop down asks something of the system exactly when the hop is up. -/
theorem Controller.unlogged_deactivate (engine : Engine σ) (controller : Controller (Transcript σ))
    (hop : HopIndex) :
    (controller.deactivate engine.transcribed hop true).2.unlogged = controller.unlogged ↔
      hop ∉ controller.chain.hops := by
  obtain ⟨xs, next, said, hteardown, hturns⟩ :=
    deactivate_law engine.transcribed hop true controller
  rw [Chain.mem_hops]
  constructor
  · rintro hsame ⟨active, hup⟩
    have hsystem := congrArg Controller.system hsame
    change (controller.deactivate engine.transcribed hop true).2.system =
      controller.system at hsystem
    obtain ⟨-, hexchanges, -⟩ := hturns.runs.of_transcribed
    rw [hsystem, List.self_eq_append_right] at hexchanges
    exact hteardown.exchanges_ne_nil hup hexchanges
  · intro hdown
    cases hget : controller.chain.get? hop with
    | some active => exact absurd ⟨active, hget⟩ hdown
    | none => exact (controller.deactivate_of_down engine.transcribed hop true hget).2

namespace Service

/-- A service apart from what it has logged: its chain, its system, its events and whether it
runs. -/
def unlogged (service : Service σ) : Service σ :=
  { service with core := { service.core with controller := service.core.controller.unlogged } }

/-- What a service does about a line: one that carries no message is dropped. -/
def takeLine (engine : Engine σ) (now : String) (line : Bytes) (service : Service σ) :
    List DaemonMessage × Service σ :=
  match (receive line).parcel with
  | some parcel => service.handle engine now parcel
  | none => ([], service)

theorem unlogged_deactivate (service : Service (Transcript σ)) (now : String) (hop : HopIndex) :
    (service.deactivate engine.transcribed now hop).unlogged = service.unlogged ↔
      ¬ (service.core.isRunning = true ∧ hop ∈ service.core.controller.chain.hops) := by
  have hlaw := service.core.controller.unlogged_deactivate engine hop
  have hdeactivate : (service.deactivate engine.transcribed now hop).unlogged =
      { service with
        core := (service.core.execute engine.transcribed now (.deactivate hop)).2 }.unlogged := by
    unfold Service.deactivate request
    cases service.core.execute engine.transcribed now (.deactivate hop) with
    | mk answer core => cases answer <;> rfl
  rw [hdeactivate, Core.execute]
  cases hrunning : service.core.isRunning with
  | false => simp
  | true =>
    simp only [if_true, Core.carryOut, true_and]
    rw [← hlaw]
    constructor
    · intro hsame
      exact congrArg (fun service : Service (Transcript σ) => service.core.controller) hsame
    · intro hsame
      unfold unlogged
      rw [hsame]

theorem unlogged_activate {service : Service σ} {body : Json}
    (h : ∀ tunnel, Tunnel.ofBody service.naming.name body ≠ .ok tunnel) (now : String) :
    (service.activate engine now body).2.unlogged = service.unlogged := by
  unfold Service.activate
  cases hbody : Tunnel.ofBody service.naming.name body with
  | error error => rfl
  | ok tunnel => exact absurd hbody (h tunnel)

section Unacceptable

variable {service : Service (Transcript σ)} {parcel : Parcel} {fields : List (String × Json)}
  (hread : parcel.Read fields) (hbad : ∀ message, parcel.client = .ok message →
    ∃ request, message = .activate request ∧
      ∀ tunnel, Tunnel.ofRequest service.naming.name request ≠ .ok tunnel)

include hread hbad

/-- A deactivation that carries no message is one of the exit hop. -/
theorem handle_deactivate (engine : Engine σ) (now : String) (hkind : parcel.kind = "deactivate") :
    service.handle engine.transcribed now parcel =
      ([],
        (service.note .debug "Handling message: deactivate").deactivate engine.transcribed
          now 0) := by
  have hhint : hopHint parcel.body = 0 := by
    by_contra hhop
    obtain ⟨hop, hclient⟩ := hread.client_deactivate hkind hhop
    obtain ⟨request, hmessage, -⟩ := hbad _ hclient
    cases hmessage
  unfold handle
  rw [hkind, hhint]
  rfl

theorem unlogged_handle (engine : Engine σ) (now : String) (hkind : parcel.kind ≠ "deactivate") :
    (service.handle engine.transcribed now parcel).2.unlogged = service.unlogged := by
  have hplain : parcel.kind ∉ ["status", "logs", "cleanlogs", "version"] := by
    intro hmem
    obtain ⟨message, hclient, hother⟩ := hread.client_plain hmem
    obtain ⟨request, hmessage, -⟩ := hbad message hclient
    exact hother request hmessage
  simp only [List.mem_cons, List.not_mem_nil, or_false, not_or] at hplain
  obtain ⟨hstatus, hlogs, hclean, hversion⟩ := hplain
  unfold handle
  dsimp only
  split
  · rename_i hactivate
    refine unlogged_activate (fun tunnel hbody => ?_) now
    obtain ⟨request, hclient, htunnel⟩ := hread.client_activate hactivate hbody
    obtain ⟨_, hmessage, hnone⟩ := hbad _ hclient
    cases hmessage
    exact hnone tunnel htunnel
  · exact absurd ‹_› hkind
  · exact absurd ‹_› hstatus
  · exact absurd ‹_› hlogs
  · exact absurd ‹_› hclean
  · exact absurd ‹_› hversion
  · rfl

end Unacceptable

/-- **Rejection.** A line that carries no message leaves everything but the log as it was, unless it
calls itself a deactivation while the exit hop is up: whatever else is wrong with it, it is then
taken for a deactivation of the exit hop. -/
theorem unlogged_takeLine_iff {service : Service (Transcript σ)} {line : Bytes}
    (h : ¬ Acceptable service.naming line) (engine : Engine σ) (now : String) :
    ((service.takeLine engine.transcribed now line).2.unlogged = service.unlogged ↔
        ¬ ∃ parcel, (receive line).parcel = some parcel ∧ parcel.kind = "deactivate" ∧
          service.core.isRunning = true ∧ 0 ∈ service.core.controller.chain.hops) ∧
      ∀ parcel, (receive line).parcel = some parcel → parcel.kind = "deactivate" →
        service.takeLine engine.transcribed now line =
          service.handle engine.transcribed now (Message.client (.deactivate none)).parcel := by
  unfold takeLine
  cases hline : (receive line).parcel with
  | none => simp
  | some parcel =>
    obtain ⟨fields, hread⟩ := read_of_receive hline
    have hbad (message : ClientMessage) (hclient : parcel.client = .ok message) :
        ∃ request, message = .activate request ∧
          ∀ tunnel, Tunnel.ofRequest service.naming.name request ≠ .ok tunnel := by
      by_contra hgood
      refine h ⟨parcel, message, hline, hclient, fun request hmessage => ?_⟩
      by_contra hnone
      exact hgood ⟨request, hmessage, fun tunnel htunnel => hnone ⟨tunnel, htunnel⟩⟩
    simp only [Option.some.injEq, exists_eq_left', forall_eq']
    by_cases hkind : parcel.kind = "deactivate"
    · rw [handle_deactivate hread hbad engine now hkind]
      refine ⟨?_, fun _ => rfl⟩
      rw [iff_comm]
      simp only [hkind, true_and]
      exact (unlogged_deactivate (service.note .debug "Handling message: deactivate") now 0).symm
    · refine ⟨?_, fun hdeactivate => absurd hdeactivate hkind⟩
      simp only [unlogged_handle hread hbad engine now hkind, hkind, false_and, not_false_eq_true]

/-- A service whose exit hop is up. -/
def withExit : Service (Transcript Memory) :=
  let service := (Service.start Memory.engine.transcribed ⟨"hl"⟩ 10 (.blank .fresh)).2
  (service.handle Memory.engine.transcribed "then" ⟨"activate", plainBody 0 "AA=="⟩).2.takeEvents.2

/-- An activation that says nothing but its hop. -/
def unfinished : List (String × Json) :=
  [("type", .str "activate"), ("hopindex", natJson 0)]

/-- A deactivation of hop 1 whose number is written as a text. -/
def mistyped : List (String × Json) :=
  [("type", .str "deactivate"), ("hopindex", .str "1")]

theorem receive_unfinished :
    (receive (Utf8.encode (Json.obj unfinished).text)).parcel =
      some ⟨"activate", (Json.obj unfinished).sorted⟩ := by
  refine receive_text (.obj ?_) (by decide) rfl
  simp only [unfinished, List.forall_mem_cons]
  exact ⟨.str _ _, faithful_natJson _ (by decide), List.forall_mem_nil _⟩

theorem unlogged_takeLine_unfinished :
    ¬ Acceptable withExit.naming (Utf8.encode (Json.obj unfinished).text) ∧
      0 ∈ withExit.core.controller.chain.hops ∧
      (withExit.takeLine Memory.engine.transcribed "now"
        (Utf8.encode (Json.obj unfinished).text)).2.unlogged =
        withExit.unlogged := by
  have hbad : ¬ Acceptable withExit.naming (Utf8.encode (Json.obj unfinished).text) :=
    not_acceptable receive_unfinished (by decide +kernel)
  refine ⟨hbad, by decide +kernel, ?_⟩
  refine (unlogged_takeLine_iff hbad Memory.engine "now").1.mpr ?_
  rintro ⟨parcel, hparcel, hkind, -⟩
  rw [receive_unfinished, Option.some.injEq] at hparcel
  rw [← hparcel] at hkind
  exact absurd hkind (by decide)

theorem receive_mistyped :
    (receive (Utf8.encode (Json.obj mistyped).text)).parcel =
      some ⟨"deactivate", (Json.obj mistyped).sorted⟩ := by
  refine receive_text (.obj ?_) (by decide) rfl
  simp only [mistyped, List.forall_mem_cons]
  exact ⟨.str _ _, .str _ _, List.forall_mem_nil _⟩

/-- The line is no message of the protocol, and it brings the exit hop down. -/
theorem hops_takeLine_mistyped :
    let after := (withExit.takeLine Memory.engine.transcribed "now"
      (Utf8.encode (Json.obj mistyped).text)).2
    ¬ Acceptable withExit.naming (Utf8.encode (Json.obj mistyped).text) ∧
      withExit.core.controller.chain.hops = {0} ∧ after.core.controller.chain.hops = ∅ ∧
      withExit.core.controller.events = [] ∧ after.core.controller.events = [.disconnected 0] ∧
      withExit.core.controller.system.exchanges.length + 3 =
        after.core.controller.system.exchanges.length := by
  refine ⟨not_acceptable receive_mistyped (by decide +kernel), ?_⟩
  simp only [takeLine, receive_mistyped]
  decide +kernel

end Service

end TunnelChain
