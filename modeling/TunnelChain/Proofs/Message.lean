import Mathlib.Data.List.Nodup
import TunnelChain.Proofs.Json.Reading
import TunnelChain.Wire.Message

/-!
# Messages read back

Every message is read back from its object once this has been written and parsed: its fields have
different names, and none of them is called `type`.
-/

namespace TunnelChain

open Json Json.Record Json.Reader

theorem faithful_natJson (depth : Nat) {n : Nat} (h : n < 2 ^ 64) : Faithful depth (natJson n) :=
  .int depth (by omega) (by omega)

namespace RangeEntry

theorem faithful_toJson (depth : Nat) (entry : RangeEntry) : Faithful (depth + 1) entry.toJson := by
  refine .obj ?_
  simp only [List.forall_mem_cons]
  have hlength : entry.length.toNat < 2 ^ 64 := Nat.lt_trans entry.length.toNat_lt (by decide)
  exact ⟨.str _ _, faithful_natJson depth hlength, .bool _ _, List.forall_mem_nil _⟩

theorem inverts_reader : reader.Inverts toJson := by
  intro source entry
  refine read_sorted ?_ "WireIpRange" ?_ ?_
  · exact (((sound_required _ _).map _).seq (sound_required _ _)).seq
      (sound_required _ _)
  · change ["address", "range", "isIpv6"].Nodup
    decide
  · exact build_seq (build_seq (build_map _
      (build_required inverts_text rfl))
      (build_required inverts_natural32 rfl))
      (build_required inverts_flag rfl)

end RangeEntry

section OptionalFields

variable {α : Type} (toJson : α → Json) (option : Option α)

theorem lookup_optionField (other name : String) :
    (optionField other toJson option).lookup name =
      if name = other then option.map toJson else none := by
  cases option with
  | none => simp [optionField]
  | some value =>
    rw [optionField, lookup_cons_ite]
    rfl

theorem names_optionField_sublist (name : String) :
    ((optionField name toJson option).map (·.1)).Sublist [name] := by
  cases option with
  | none => exact List.nil_sublist _
  | some value => exact .refl _

theorem faithful_optionField {depth : Nat} (h : ∀ value, Faithful depth (toJson value))
    (name : String) : ∀ field ∈ optionField name toJson option, Faithful depth field.2 := by
  cases option with
  | none => exact List.forall_mem_nil _
  | some value => exact List.forall_mem_singleton.mpr (h value)

end OptionalFields

theorem faithful_hop (depth : Nat) (hop : HopIndex) : Faithful depth (natJson hop.toNat) :=
  faithful_natJson depth (Nat.lt_trans hop.toNat_lt (by decide))

namespace TunnelRequest

theorem names_fields_sublist (request : TunnelRequest) :
    (request.fields.map (·.1)).Sublist ["hopindex", "privateKey", "deviceIpv4Address",
      "deviceIpv6Address", "serverIpv4Gateway", "serverIpv6Gateway", "serverPublicKey",
      "serverIpv4AddrIn", "serverIpv6AddrIn", "serverPort", "ipv6Enabled",
      "allowedIPAddressRanges"] := by
  rw [fields, List.map_append]
  exact (names_optionField_sublist _ _ _).append (.refl _)

theorem faithful_fields (depth : Nat) (request : TunnelRequest) :
    ∀ field ∈ request.fields, Faithful (depth + 2) field.2 := by
  have hport : request.port.toNat < 2 ^ 64 := Nat.lt_trans request.port.toNat_lt (by decide)
  rw [fields, List.forall_mem_append]
  refine ⟨faithful_optionField _ _ (faithful_hop _) _, ?_⟩
  simp only [List.forall_mem_cons]
  refine ⟨.str _ _, .str _ _, .str _ _, .str _ _, .str _ _, .str _ _, .str _ _, .str _ _,
    faithful_natJson _ hport, .bool _ _, .arr ?_, List.forall_mem_nil _⟩
  exact List.forall_mem_map.mpr fun entry _ => entry.faithful_toJson depth

theorem read_fields (request : TunnelRequest) (source : Source) (kind : String) :
    reader source (Json.obj (("type", .str kind) :: request.fields)).sorted.toDraft =
      .ok request := by
  refine read_sorted ?_ "ActivateRequest" ?_ ?_
  · repeat' first
      | exact sound_required _ _
      | exact sound_optional _ _
      | apply Sound.map
      | apply Sound.seq
  · exact (request.names_fields_sublist.cons_cons "type").nodup (by decide)
  · have hhop : (("type", .str kind) :: request.fields).lookup "hopindex" =
        request.hop.map fun hop => natJson hop.toNat := by
      simp [fields, hopField, lookup_optionField, List.lookup_append, lookup_cons_ite]
    obtain ⟨hop, privateKey, deviceIpv4, deviceIpv6, gatewayIpv4, gatewayIpv6, publicKey,
        serverIpv4,
      serverIpv6, port, ipv6Enabled, ranges⟩ := request
    cases hop <;> exact
      build_seq
        (build_seq (build_seq (build_seq (build_seq (build_seq (build_seq (build_seq (build_seq
        (build_seq (build_seq (build_map _
          (build_optional inverts_natural32 (fun _ => Draft.noConfusion) hhop))
          (build_required inverts_text rfl)) (build_required inverts_text rfl))
          (build_required inverts_text rfl)) (build_required inverts_text rfl))
          (build_required inverts_text rfl)) (build_required inverts_text rfl))
          (build_required inverts_text rfl)) (build_required inverts_text rfl))
          (build_required inverts_natural16 rfl)) (build_required inverts_flag rfl))
          (build_required RangeEntry.inverts_reader.list rfl)

end TunnelRequest

namespace StatusReport

theorem names_fields_sublist (report : StatusReport) :
    (report.fields.map (·.1)).Sublist
    ["connected", "serverIpv4Gateway", "deviceIpv4Address", "date",
      "txBytes", "rxBytes"] := by
  simp only [fields, List.map_append, List.map_cons]
  exact (((((names_optionField_sublist _ _ _).cons_cons _).append
    (names_optionField_sublist _ _ _)).append (names_optionField_sublist _ _ _)).append
    (names_optionField_sublist _ _ _)).append (names_optionField_sublist _ _ _)

theorem faithful_fields (depth : Nat) (report : StatusReport) :
    ∀ field ∈ report.fields, Faithful depth field.2 := by
  have hcount (count : UInt64) : Faithful depth (natJson count.toNat) :=
    faithful_natJson depth count.toNat_lt
  simp only [fields, List.cons_append, List.forall_mem_cons, List.forall_mem_append]
  exact ⟨.bool _ _,
    ⟨⟨⟨faithful_optionField _ _ (.str depth) _, faithful_optionField _ _ (.str depth) _⟩,
    faithful_optionField _ _ (.str depth) _⟩, faithful_optionField _ _ hcount _⟩,
    faithful_optionField _ _ hcount _⟩

/-- What a report says, field by field. -/
structure Says (report : StatusReport) (fields : List (String × Json)) : Prop where
  connected : fields.lookup "connected" = some (.bool report.connected)
  gateway : fields.lookup "serverIpv4Gateway" = report.gatewayIpv4.map .str
  device : fields.lookup "deviceIpv4Address" = report.deviceIpv4.map .str
  date : fields.lookup "date" = report.date.map .str
  sent : fields.lookup "txBytes" = report.sent.map fun count => natJson count.toNat
  received : fields.lookup "rxBytes" = report.received.map fun count => natJson count.toNat

theorem says_fields (report : StatusReport) (kind : String) :
    report.Says (("type", .str kind) :: report.fields) := by
  constructor <;> simp [fields, List.lookup_append, lookup_optionField, lookup_cons_ite]

theorem read_fields (report : StatusReport) (source : Source) (kind : String) :
    reader source (Json.obj (("type", .str kind) :: report.fields)).sorted.toDraft =
      .ok report := by
  refine read_sorted ?_ "StatusReport" ?_ ?_
  · repeat' first
      | exact sound_required _ _
      | exact sound_optional _ _
      | apply Sound.map
      | apply Sound.seq
  · exact (report.names_fields_sublist.cons_cons "type").nodup (by decide)
  · obtain ⟨hconnected, hgateway, hdevice, hdate, hsent, hreceived⟩ := report.says_fields kind
    exact build_seq (build_seq (build_seq (build_seq (build_seq (build_map _
      (build_required inverts_flag hconnected))
      (build_optional inverts_text (fun _ => Draft.noConfusion) hgateway))
      (build_optional inverts_text (fun _ => Draft.noConfusion) hdevice))
      (build_optional inverts_text (fun _ => Draft.noConfusion) hdate))
      (build_optional inverts_natural64 (fun _ => Draft.noConfusion) hsent))
      (build_optional inverts_natural64 (fun _ => Draft.noConfusion) hreceived)

end StatusReport

/-- A message of one of the known kinds is read as this kind says. -/
theorem readTagged_of_kind {α : Type} {kinds : List (String × Json.Reader α)} {kind : String}
    {reader : Json.Reader α} {body : Json} (htype : body.field? "type" = some (.str kind))
    (hkind : kinds.lookup kind = some reader) :
    readTagged kinds body = reader .remainder body.toDraft := by
  simp only [readTagged, htype, hkind]

/-- A message of one of the known kinds is read from the fields beside its `type`. -/
theorem readTagged_sorted {α : Type} {kinds : List (String × Json.Reader α)} {kind : String}
    {reader : Json.Reader α} (hkind : kinds.lookup kind = some reader)
    {fields : List (String × Json)}
    (hnodup : ((("type", Json.str kind) :: fields).map (·.1)).Nodup) :
    readTagged kinds (Json.obj (("type", .str kind) :: fields)).sorted =
      reader .remainder (Json.obj (("type", .str kind) :: fields)).sorted.toDraft := by
  have htype : (Json.obj (("type", .str kind) :: fields)).sorted.field? "type" =
      some (.str kind) := by
    rw [field?_sorted hnodup, List.lookup_cons_self]
    rfl
  exact readTagged_of_kind htype hkind

namespace ClientMessage

theorem nodup_names (message : ClientMessage) :
    ((("type", Json.str message.kind) :: message.fields).map (·.1)).Nodup := by
  cases message with
  | activate request => exact (request.names_fields_sublist.cons_cons "type").nodup (by decide)
  | deactivate hop => exact ((names_optionField_sublist _ hop _).cons_cons "type").nodup (by decide)
  | _ => exact List.nodup_singleton "type"

theorem faithful_toJson (depth : Nat) (message : ClientMessage) :
    Faithful (depth + 3) message.toJson := by
  refine .obj (List.forall_mem_cons.mpr ⟨.str _ _, ?_⟩)
  cases message with
  | activate request => exact request.faithful_fields depth
  | deactivate hop => exact faithful_optionField _ _ (faithful_hop _) _
  | _ => exact List.forall_mem_nil _

theorem ofJson_sorted (message : ClientMessage) : ofJson message.toJson.sorted = .ok message := by
  have hnodup := message.nodup_names
  cases message with
  | activate request =>
    rw [toJson, ofJson, readTagged_sorted rfl hnodup, mapReader, fields, request.read_fields]
    rfl
  | deactivate hop =>
    have hhop : (("type", Json.str "deactivate") :: hopField hop).lookup "hopindex" =
        hop.map fun hop => natJson hop.toNat := by
      simp [hopField, lookup_optionField, lookup_cons_ite]
    rw [toJson, ofJson, readTagged_sorted rfl hnodup, mapReader]
    rw [read_sorted (sound_optional _ _) "deactivate" hnodup
      (build_optional inverts_natural32 (fun _ => Draft.noConfusion) hhop)]
    rfl
  | status => rw [toJson, ofJson, readTagged_sorted rfl hnodup]
  | logs => rw [toJson, ofJson, readTagged_sorted rfl hnodup]
  | cleanLogs => rw [toJson, ofJson, readTagged_sorted rfl hnodup]
  | version => rw [toJson, ofJson, readTagged_sorted rfl hnodup]

end ClientMessage

namespace DaemonMessage

theorem nodup_names (message : DaemonMessage) :
    ((("type", Json.str message.kind) :: message.fields).map (·.1)).Nodup := by
  cases message with
  | status report => exact (report.names_fields_sublist.cons_cons "type").nodup (by decide)
  | backendFailure => exact List.nodup_singleton "type"
  | connected hop => exact (by decide : ["type", "hopindex"].Nodup)
  | disconnected hop => exact (by decide : ["type", "hopindex"].Nodup)
  | logs text => exact (by decide : ["type", "logs"].Nodup)
  | version number => exact (by decide : ["type", "version"].Nodup)

theorem faithful_toJson (depth : Nat) (message : DaemonMessage) :
    Faithful (depth + 3) message.toJson := by
  refine .obj (List.forall_mem_cons.mpr ⟨.str _ _, ?_⟩)
  cases message with
  | connected hop => exact List.forall_mem_singleton.mpr (faithful_hop _ hop)
  | disconnected hop => exact List.forall_mem_singleton.mpr (faithful_hop _ hop)
  | backendFailure => exact List.forall_mem_nil _
  | status report => exact report.faithful_fields _
  | logs text => exact List.forall_mem_singleton.mpr (.str _ text)
  | version number => exact List.forall_mem_singleton.mpr (faithful_hop _ number)

theorem read_single {α : Type} {reader : Json.Reader α} {write : α → Json}
    (h : reader.Inverts write) (source : Source) (label kind : String) {name : String} (value : α)
    (hnodup : (([("type", .str kind), (name, write value)] : List (String × Json)).map
      (·.1)).Nodup) :
    Json.Record.read label (.required name reader) source
      (Json.obj [("type", .str kind), (name, write value)]).sorted.toDraft = .ok value := by
  refine read_sorted (sound_required _ _) label hnodup (build_required h ?_)
  exact (lookup_eq_some_iff hnodup).mpr (by simp)

theorem ofJson_sorted (message : DaemonMessage) : ofJson message.toJson.sorted = .ok message := by
  have hnodup := message.nodup_names
  cases message with
  | status report =>
    rw [toJson, ofJson, readTagged_sorted rfl hnodup, mapReader, fields, report.read_fields]
    rfl
  | backendFailure => rw [toJson, ofJson, readTagged_sorted rfl hnodup]
  | connected hop =>
    rw [toJson, ofJson, readTagged_sorted rfl hnodup, mapReader]
    exact congrArg (Except.map connected) (read_single inverts_natural32 _ _ _ hop hnodup)
  | disconnected hop =>
    rw [toJson, ofJson, readTagged_sorted rfl hnodup, mapReader]
    exact congrArg (Except.map disconnected) (read_single inverts_natural32 _ _ _ hop hnodup)
  | logs text =>
    rw [toJson, ofJson, readTagged_sorted rfl hnodup, mapReader]
    exact congrArg (Except.map logs) (read_single inverts_text _ _ _ text hnodup)
  | version number =>
    rw [toJson, ofJson, readTagged_sorted rfl hnodup, mapReader]
    exact congrArg (Except.map version) (read_single inverts_natural32 _ _ _ number hnodup)

end DaemonMessage

end TunnelChain
