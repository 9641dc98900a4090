import TunnelChain.Proofs.Blindness
import TunnelChain.Proofs.Json.Agreeing
import TunnelChain.Proofs.Rejection
import TunnelChain.Proofs.Request

/-!
# What the log shows of a key

The log shows how a line begins before anything is known about it. Of an activation that comes to
build a tunnel it shows nothing else that depends on the key.
-/

namespace TunnelChain

open Json Json.Record

/-! ## Activations that are the same but for the key -/

/-- The request with another key. -/
def TunnelRequest.withKey (request : TunnelRequest) (key : String) : TunnelRequest :=
  { request with privateKey := key }

/-- Whether two requests are the same but for the key. -/
def TunnelRequest.SameButKey (request twin : TunnelRequest) : Prop :=
  ∃ key, twin = request.withKey key

theorem TunnelRequest.sameButKey_of_agreeBut {fields others : List (String × Json)}
    (h : AgreeBut "privateKey" fields others) {request twin : TunnelRequest}
    (hrequest : reader.ofJson (.obj fields) = .ok request)
    (htwin : reader.ofJson (.obj others) = .ok twin) : request.SameButKey twin := by
  have hne {name : String} (hname : decide (name = "privateKey") = false) : name ≠ "privateKey" :=
    of_decide_eq_false hname
  refine Relates.read ?_ "ActivateRequest" h hrequest htwin
  -- The fields after the key, the last one first.
  iterate 10 refine .seq ?_ (relates_required (hne rfl) _)
  refine .seq ?_ (relates_any _)
  refine (relates_optional (hne rfl) _).map ?_
  rintro _ _ rfl _ key - _ _ rfl _ _ rfl _ _ rfl _ _ rfl _ _ rfl _ _ rfl _ _ rfl _ _ rfl _ _
    rfl _ _ rfl
  exact ⟨key, rfl⟩

theorem Tunnel.exists_withKey {nameOf : HopIndex → String} {fields others : List (String × Json)}
    (h : AgreeBut "privateKey" fields others) {tunnel twin : Tunnel}
    (htunnel : ofBody nameOf (.obj fields) = .ok tunnel)
    (htwin : ofBody nameOf (.obj others) = .ok twin) : ∃ key, twin = tunnel.withKey key := by
  obtain ⟨request, hread, hrequest⟩ := exists_request_of_ofBody htunnel
  obtain ⟨other, hother, htwin⟩ := exists_request_of_ofBody htwin
  obtain ⟨key, rfl⟩ := TunnelRequest.sameButKey_of_agreeBut h hread hother
  obtain ⟨ranges, hranges, rfl⟩ := eq_of_ofRequest hrequest
  obtain ⟨twinRanges, htwinRanges, rfl⟩ := eq_of_ofRequest htwin
  cases hranges.symm.trans htwinRanges
  exact ⟨key, rfl⟩

/-! ## Lines that are the same but for the key -/

/-- Whether a line is the text of an object with these fields, in this order. -/
def Writes (line : Bytes) (fields : List (Option String × Draft)) : Prop :=
  ∃ text, Utf8.decode (trimBytes line) = some text ∧
    Draft.Document.ofText text = ⟨.obj fields, false⟩

/-- Whether two lines are the same JSON but for the text that stands for the key. -/
def SameButKey (line other : Bytes) : Prop :=
  ∃ before after key twinKey, Writes line (before ++ (some "privateKey", .str key) :: after) ∧
    Writes other (before ++ (some "privateKey", .str twinKey) :: after)

theorem Writes.toJson?_body {line : Bytes} {fields : List (Option String × Draft)}
    (h : Writes line fields) {parcel : Parcel} (hparcel : (receive line).parcel = some parcel) :
    (Draft.obj fields).toJson? maxDepth = some parcel.body := by
  obtain ⟨text, hdecode, hdocument⟩ := h
  have hline := (ofLine_of_receive hparcel).1
  have hparse : parse? text = (Draft.obj fields).toJson? maxDepth := by
    rw [parse?, hdocument]
    rfl
  rw [Parcel.ofLine, hdecode, Option.bind_some, hparse] at hline
  cases hbody : (Draft.obj fields).toJson? maxDepth with
  | none =>
    rw [hbody] at hline
    cases hline
  | some body =>
    simp only [hbody] at hline
    split at hline
    · split at hline
      · cases hline
        rfl
      · cases hline
    · cases hline

theorem SameButKey.agreeBut {line other : Bytes} (h : SameButKey line other) {parcel twin : Parcel}
    (hline : (receive line).parcel = some parcel) (hother : (receive other).parcel = some twin) :
    ∃ fields others, parcel.body = .obj fields ∧ twin.body = .obj others ∧
      AgreeBut "privateKey" fields others := by
  obtain ⟨before, after, key, twinKey, hwrites, htwin⟩ := h
  exact Draft.agreeBut_of_toJson? (hwrites.toJson?_body hline) (htwin.toJson?_body hother)

/-- How a line begins, as the log shows it. -/
def shown (line : Bytes) : String :=
  Utf8.decodeLossy ((trimBytes line).take shownBytes)

/-- What is logged of a line when it is read. -/
def seen (line : Bytes) : LogLine :=
  ⟨.debug, "Message received: " ++ shown line⟩

theorem seen_inj {line other : Bytes} : seen line = seen other ↔ shown line = shown other := by
  rw [seen, seen, LogLine.mk.injEq, String.append_right_inj]
  simp

theorem shown_text {fields : List (String × Json)} {opening : String}
    (hlength : (Utf8.encode opening).length = shownBytes)
    (h : ∃ tail, (Json.obj fields).chars = opening.toList ++ tail) :
    shown (Utf8.encode (Json.obj fields).text) = opening := by
  obtain ⟨tail, htail⟩ := h
  have hbytes : Utf8.encode (Json.obj fields).text =
      Utf8.encode opening ++ tail.flatMap Utf8.encodeChar := by
    rw [Utf8.encode, text, String.toList_ofList, htail, List.flatMap_append, Utf8.encode]
  rw [shown, (trimBytes_encode_obj fields).1, hbytes, ← hlength, List.take_left,
    Utf8.decodeLossy_encode]

theorem chars_obj_cons (name next : String) (item value : Json) (rest : List (String × Json)) :
    (Json.obj ((name, item) :: (next, value) :: rest)).chars =
      '\x7b' :: (stringText name ++ ':' :: item.chars ++
        ',' :: chars.fieldsText ((next, value) :: rest)) := by
  rw [chars, chars.fieldsText]
  rintro ⟨⟩

section Texts

variable {before after : List (String × Json)}

theorem writes_text {fields : List (String × Json)} (h : Faithful maxDepth (.obj fields)) :
    Writes (Utf8.encode (Json.obj fields).text)
      (fields.map fun field => (some field.1, field.2.toDraft)) := by
  refine ⟨(Json.obj fields).text, ?_, ?_⟩
  · rw [(trimBytes_encode_obj fields).1, Utf8.decode_encode]
  · rw [Draft.Document.ofText_text h, toDraft, fieldDrafts_eq]

theorem sameButKey_text (key twinKey : String)
    (h : ∀ field ∈ before ++ after, Faithful (maxDepth - 1) field.2) :
    SameButKey (Utf8.encode (Json.obj (before ++ ("privateKey", .str key) :: after)).text)
      (Utf8.encode (Json.obj (before ++ ("privateKey", .str twinKey) :: after)).text) := by
  have hfaithful (key : String) :
      Faithful maxDepth (.obj (before ++ ("privateKey", .str key) :: after)) := by
    rw [List.forall_mem_append] at h
    exact .obj (List.forall_mem_append.mpr ⟨h.1, List.forall_mem_cons.mpr ⟨.str _ _, h.2⟩⟩)
  have hline := writes_text (hfaithful key)
  have hother := writes_text (hfaithful twinKey)
  rw [List.map_append, List.map_cons] at hline hother
  exact ⟨_, _, key, twinKey, hline, hother⟩

end Texts

namespace TunnelRequest

/-- The line that a client sends to ask for a tunnel. -/
def line (request : TunnelRequest) : Bytes :=
  (Message.client (.activate request)).line

theorem line_eq (request : TunnelRequest) :
    request.line = Utf8.encode (Json.obj (("type", .str "activate") :: request.fields)).text := rfl

theorem line_sameButKey (request : TunnelRequest) (key : String) :
    TunnelChain.SameButKey request.line (request.withKey key).line := by
  have hfields := request.faithful_fields 124
  rw [fields, List.forall_mem_append, List.forall_mem_cons] at hfields
  obtain ⟨hhop, -, hrest⟩ := hfields
  have hbefore : ∀ field ∈ ("type", Json.str "activate") :: hopField request.hop,
      Faithful 126 field.2 := List.forall_mem_cons.mpr ⟨.str _ _, hhop⟩
  rw [line_eq, line_eq, fields, fields, ← List.cons_append, ← List.cons_append]
  exact sameButKey_text request.privateKey key (List.forall_mem_append.mpr ⟨hbefore, hrest⟩)

/-- How such a line begins, as far as it is shown. -/
def opening : String :=
  "\x7b\"type\":\"activate\",\""

/-- A client writes the kind of a message before anything else, and that is all of it that is
shown. -/
theorem shown_line (request : TunnelRequest) : shown request.line = opening := by
  have hfirst : ∃ name item rest, request.fields = (name, item) :: rest := by
    rw [fields, hopField]
    cases request.hop with
    | none => exact ⟨_, _, _, rfl⟩
    | some hop => exact ⟨_, _, _, rfl⟩
  obtain ⟨name, item, rest, hfields⟩ := hfirst
  have hquote : ∃ tail, chars.fieldsText ((name, item) :: rest) = '"' :: tail := by
    cases rest <;> simp [chars.fieldsText, stringText]
  obtain ⟨tail, htail⟩ := hquote
  have hopening : opening.toList =
      '\x7b' :: (stringText "type" ++ ':' :: (stringText "activate" ++ [',', '"'])) := by
    decide +kernel
  rw [line_eq, hfields]
  refine shown_text (by decide +kernel) ⟨tail, ?_⟩
  rw [chars_obj_cons, htail, chars, hopening]
  simp

end TunnelRequest

/-! ## What a service logs of them -/

variable {σ : Type} {engine : Engine σ} {alike : σ → σ → Prop} {past twinPast : List LogLine}

namespace Core

variable {core twin : Core σ}

/-- Whether two cores have logged the same since each had logged its past. -/
structure InStep (alike : σ → σ → Prop) (past twinPast : List LogLine) (core twin : Core σ) :
    Prop where
  controller : Controller.InStep alike past twinPast core.controller twin.controller
  isRunning : core.isRunning = twin.isRunning

theorem InStep.note (h : InStep alike past twinPast core twin) (level : Level) (text : String) :
    InStep alike past twinPast (core.note level text) (twin.note level text) :=
  ⟨h.controller.note level text, h.isRunning⟩

theorem InStep.survive (h : InStep alike past twinPast core twin) (error : OperationError) :
    InStep alike past twinPast (core.survive error) (twin.survive error) := by
  unfold Core.survive
  by_cases hfatal : error.isFatal = true
  · rw [if_pos hfatal, if_pos hfatal]
    exact ⟨(h.controller.note .error ("Fatal: " ++ error.message)).note .info "Daemon core stopped",
      rfl⟩
  · rw [if_neg hfatal, if_neg hfatal]
    exact h

theorem together_execute (hblind : engine.Blind alike) (h : InStep alike past twinPast core twin)
    (now : String) (tunnel : Tunnel) (key : String)
    (hdown : core.controller.chain.get? tunnel.hop = none)
    (htwin : twin.controller.chain.get? tunnel.hop = none) :
    Together (InStep alike past twinPast) (core.execute engine now (.activate tunnel))
      (twin.execute engine now (.activate (tunnel.withKey key))) := by
  unfold execute
  rw [h.isRunning]
  by_cases hrunning : twin.isRunning = true
  · rw [if_pos hrunning, if_pos hrunning]
    have hactivated := Controller.together_activate hblind h.controller now tunnel key hdown htwin
    unfold carryOut
    dsimp only
    refine hactivated.casesOn fun answer {after twinAfter} hafter => ?_
    have hdone : InStep alike past twinPast { core with controller := after }
        { twin with controller := twinAfter } := ⟨hafter, h.isRunning⟩
    cases answer with
    | ok done => exact .intro _ hdone
    | error error => exact .intro _ (hdone.survive error)
  · rw [if_neg hrunning, if_neg hrunning]
    exact .intro _ h

end Core

namespace Service

variable {service twin : Service σ}

/-- Whether two services have logged the same since each had logged its past. -/
def InStep (alike : σ → σ → Prop) (past twinPast : List LogLine)
    (service twin : Service σ) : Prop :=
  Core.InStep alike past twinPast service.core twin.core

theorem InStep.note (h : InStep alike past twinPast service twin) (level : Level) (text : String) :
    InStep alike past twinPast (service.note level text) (twin.note level text) :=
  Core.InStep.note h level text

theorem together_activate (hblind : engine.Blind alike)
    (h : InStep alike past twinPast service twin) (now : String) {body other : Json}
    {tunnel : Tunnel} {key : String} (hbody : Tunnel.ofBody service.naming.name body = .ok tunnel)
    (hother : Tunnel.ofBody twin.naming.name other = .ok (tunnel.withKey key))
    (hdown : service.core.controller.chain.get? tunnel.hop = none)
    (htwin : twin.core.controller.chain.get? tunnel.hop = none) :
    Together (InStep alike past twinPast) (service.activate engine now body)
      (twin.activate engine now other) := by
  have hexecuted := Core.together_execute hblind h now tunnel key hdown htwin
  unfold activate request
  simp only [hbody, hother]
  refine hexecuted.casesOn fun answer {_ _} hafter => ?_
  cases answer with
  | ok answer => exact .intro _ hafter
  | error error => exact .intro _ (hafter.note _ _)

/-- What a service has logged. -/
def logged (service : Service σ) : List LogLine :=
  service.core.controller.log

theorem inStep_note (h : alike service.core.controller.system service.core.controller.system)
    (level : Level) (text twinText : String) :
    InStep alike (service.logged ++ [⟨level, text⟩]) (service.logged ++ [⟨level, twinText⟩])
      (service.note level text) (service.note level twinText) :=
  ⟨⟨h, rfl, [], (List.append_nil _).symm, (List.append_nil _).symm⟩, rfl⟩

/-- A service that has logged more. -/
def logging (lines : List LogLine) (service : Service σ) : Service σ :=
  lines.foldl (fun service line => service.note line.level line.text) service

/-- Reads a line, logging what is to be logged of that, and handles the message in it. -/
def hear (engine : Engine σ) (now : String) (line : Bytes) (service : Service σ) :
    List DaemonMessage × Service σ :=
  (service.logging (receive line).log).takeLine engine now line

theorem InStep.exists_lines {before : List LogLine} {line other : LogLine}
    (h : InStep alike (before ++ [line]) (before ++ [other]) service twin) :
    ∃ lines, service.logged = before ++ line :: lines ∧ twin.logged = before ++ other :: lines := by
  obtain ⟨lines, hlog, htwin⟩ := h.controller.log
  exact ⟨lines, by rw [logged, hlog, List.append_assoc, List.singleton_append],
    by rw [logged, htwin, List.append_assoc, List.singleton_append]⟩

/-- Whether a line asks for a tunnel, and nothing is wrong with that tunnel. -/
def Accepts (service : Service σ) (line : Bytes) (tunnel : Tunnel) : Prop :=
  ∃ parcel, (receive line).parcel = some parcel ∧ parcel.kind = "activate" ∧
    Tunnel.ofBody service.naming.name parcel.body = .ok tunnel

theorem accepts_text {fields : List (String × Json)} (hfaithful : Faithful maxDepth (.obj fields))
    (hnodup : (fields.map (·.1)).Nodup) (hkind : fields.lookup "type" = some (.str "activate"))
    {tunnel : Tunnel}
    (h : Tunnel.ofBody service.naming.name (Json.obj fields).sorted = .ok tunnel) :
    service.Accepts (Utf8.encode (Json.obj fields).text) tunnel :=
  ⟨_, receive_text hfaithful hnodup hkind, rfl, h⟩

theorem accepts_line {request : TunnelRequest} {tunnel : Tunnel}
    (h : Tunnel.ofRequest service.naming.name request = .ok tunnel) :
    service.Accepts request.line tunnel :=
  accepts_text (Message.client (.activate request)).faithful_toJson
    (ClientMessage.nodup_names (.activate request)) rfl ((Tunnel.ofBody_parcel _ request).trans h)

theorem Accepts.exists_withKey {line other : Bytes} {tunnel twin : Tunnel}
    (hline : service.Accepts line tunnel) (hother : service.Accepts other twin)
    (hsame : SameButKey line other) : ∃ key, twin = tunnel.withKey key := by
  obtain ⟨parcel, hparcel, -, hbody⟩ := hline
  obtain ⟨twinParcel, htwinParcel, -, htwinBody⟩ := hother
  obtain ⟨fields, others, hfields, hothers, hagree⟩ := hsame.agreeBut hparcel htwinParcel
  rw [hfields] at hbody
  rw [hothers] at htwinBody
  exact Tunnel.exists_withKey hagree hbody htwinBody

theorem Accepts.hear_eq {line : Bytes} {tunnel : Tunnel} (h : service.Accepts line tunnel)
    (engine : Engine σ) (now : String) :
    ∃ body, Tunnel.ofBody service.naming.name body = .ok tunnel ∧
      service.hear engine now line =
        ((service.note .debug ("Message received: " ++ shown line)).note .debug
          "Handling message: activate").activate engine now body := by
  obtain ⟨parcel, hparcel, hkind, hbody⟩ := h
  refine ⟨parcel.body, hbody, ?_⟩
  rw [hear, (ofLine_of_receive hparcel).2, takeLine, hparcel]
  dsimp only
  unfold handle
  rw [hkind]
  rfl

/-- Lines that are the same but for the key are obeyed alike, and what is logged of that is the same
once the lines have been shown. -/
theorem together_hear (hblind : engine.Blind alike) {line other : Bytes} {tunnel twin : Tunnel}
    (hline : service.Accepts line tunnel) (hother : service.Accepts other twin)
    (hsame : SameButKey line other) (hdown : service.core.controller.chain.get? tunnel.hop = none)
    (now : String) :
    Together (InStep alike (service.logged ++ [seen line]) (service.logged ++ [seen other]))
      (service.hear engine now line) (service.hear engine now other) := by
  obtain ⟨body, hbody, hhear⟩ := hline.hear_eq engine now
  obtain ⟨otherBody, hotherBody, hotherHear⟩ := hother.hear_eq engine now
  obtain ⟨key, rfl⟩ := hline.exists_withKey hother hsame
  rw [hhear, hotherHear]
  have hstart : InStep alike (service.logged ++ [seen line]) (service.logged ++ [seen other])
      (service.note .debug ("Message received: " ++ shown line))
      (service.note .debug ("Message received: " ++ shown other)) :=
    inStep_note (hblind.refl _) .debug _ _
  exact together_activate hblind (hstart.note .debug "Handling message: activate") now hbody
    hotherBody hdown hdown

/-- What a client sends to ask for a tunnel is logged without a trace of the key. -/
theorem logged_hear_line (hblind : engine.Blind alike) {request : TunnelRequest} {key : String}
    {tunnel twin : Tunnel} (hline : service.Accepts request.line tunnel)
    (hother : service.Accepts (request.withKey key).line twin)
    (hdown : service.core.controller.chain.get? tunnel.hop = none) (now : String) :
    (service.hear engine now request.line).2.logged =
      (service.hear engine now (request.withKey key).line).2.logged := by
  have hsame := request.line_sameButKey key
  obtain ⟨-, hafter⟩ := (together_hear hblind hline hother hsame hdown now).elim
  obtain ⟨lines, hlog, hotherLog⟩ := hafter.exists_lines
  rw [hlog, hotherLog, seen, seen, request.shown_line, TunnelRequest.shown_line]

/-- **Secrecy.** The line that shows how a message begins is logged before anything else is known of
the message, and it is all that the log can tell of a key: lines that are the same but for the key,
and that both ask for a tunnel whose hop is down, are logged the same if and only if they begin the
same. They are also answered the same, and the same is reported of them. -/
theorem logged_hear_eq_iff (hblind : engine.Blind alike) {line other : Bytes} {tunnel twin : Tunnel}
    (hline : service.Accepts line tunnel) (hother : service.Accepts other twin)
    (hsame : SameButKey line other) (hdown : service.core.controller.chain.get? tunnel.hop = none)
    (now : String) :
    ((service.hear engine now line).2.logged = (service.hear engine now other).2.logged ↔
        shown line = shown other) ∧
      (∃ lines, (service.hear engine now line).2.logged = service.logged ++ seen line :: lines ∧
        (service.hear engine now other).2.logged = service.logged ++ seen other :: lines) ∧
      (service.hear engine now line).1 = (service.hear engine now other).1 ∧
      (service.hear engine now line).2.takeEvents.1 =
        (service.hear engine now other).2.takeEvents.1 := by
  obtain ⟨hreplies, hafter⟩ := (together_hear hblind hline hother hsame hdown now).elim
  obtain ⟨lines, hlog, hotherLog⟩ := hafter.exists_lines
  refine ⟨?_, ⟨lines, hlog, hotherLog⟩, hreplies,
    congrArg (List.map HopEvent.toMessage) hafter.controller.events⟩
  rw [hlog, hotherLog, List.append_cancel_left_eq, List.cons.injEq, seen_inj]
  exact and_iff_left rfl

/-- A service that has just started on a system with nothing on it. -/
def idle : Service Memory :=
  (Service.start Memory.engine ⟨"hl"⟩ 10 .fresh).2

theorem logged_hear_eq_plainRequest :
    idle.Accepts (plainRequest 0 "AA==").line (plainTunnel ⟨"hl"⟩ 0 "AA==") ∧
      idle.Accepts (plainRequest 0 "ZZ==").line (plainTunnel ⟨"hl"⟩ 0 "ZZ==") ∧
      SameButKey (plainRequest 0 "AA==").line (plainRequest 0 "ZZ==").line ∧
      idle.core.controller.chain.get? 0 = none ∧
      (idle.hear Memory.engine "now" (plainRequest 0 "AA==").line).2.logged =
        (idle.hear Memory.engine "now" (plainRequest 0 "ZZ==").line).2.logged := by
  have hline : idle.Accepts (plainRequest 0 "AA==").line (plainTunnel ⟨"hl"⟩ 0 "AA==") :=
    accepts_line (by decide +kernel)
  have hother : idle.Accepts (plainRequest 0 "ZZ==").line (plainTunnel ⟨"hl"⟩ 0 "ZZ==") :=
    accepts_line (by decide +kernel)
  have hsame := (plainRequest 0 "AA==").line_sameButKey "ZZ=="
  have hdown : idle.core.controller.chain.get? (plainTunnel ⟨"hl"⟩ 0 "AA==").hop = none := by
    decide +kernel
  refine ⟨hline, hother, hsame, by decide +kernel, ?_⟩
  refine (logged_hear_eq_iff Memory.blind_engine hline hother hsame hdown "now").1.mpr ?_
  exact ((plainRequest 0 "AA==").shown_line).trans ((plainRequest 0 "ZZ==").shown_line).symm

/-- What may follow the key in a request for a tunnel. -/
def afterKey : List (String × Json) :=
  ("type", .str "activate") :: (plainRequest 0 "").fields.filter (·.1 ≠ "privateKey")

/-- A line that asks for a tunnel and begins with the key. -/
def keyFirst (key : String) : Bytes :=
  Utf8.encode (Json.obj (("privateKey", .str key) :: afterKey)).text

/-- How such a line begins. -/
def openingWith (key : String) : String :=
  String.ofList ('\x7b' :: (stringText "privateKey" ++ ':' :: stringText key))

/-- Of four characters that need no escape, the whole key is shown. -/
theorem shown_keyFirst {key : String} (h : (Utf8.encode (openingWith key)).length = shownBytes) :
    shown (keyFirst key) = openingWith key := by
  refine shown_text h ⟨',' :: chars.fieldsText afterKey, ?_⟩
  rw [afterKey, chars_obj_cons, chars, openingWith, String.toList_ofList]
  simp

theorem faithful_afterKey : ∀ field ∈ afterKey, Faithful 126 field.2 :=
  List.forall_mem_cons.mpr ⟨.str _ _, fun field hfield =>
    (plainRequest 0 "").faithful_fields 124 field (List.mem_of_mem_filter hfield)⟩

theorem accepts_keyFirst {key : String} {tunnel : Tunnel}
    (h : Tunnel.ofBody idle.naming.name (Json.obj (("privateKey", .str key) :: afterKey)).sorted =
      .ok tunnel) : idle.Accepts (keyFirst key) tunnel := by
  have hnodup : ((("privateKey", Json.str key) :: afterKey).map (·.1)).Nodup := by
    change ("privateKey" :: afterKey.map (·.1)).Nodup
    decide
  exact accepts_text (.obj (List.forall_mem_cons.mpr ⟨.str 126 key, faithful_afterKey⟩))
    hnodup rfl h

/-- The log tells these two keys apart. -/
theorem logged_hear_ne_keyFirst :
    idle.Accepts (keyFirst "AA==") (plainTunnel ⟨"hl"⟩ 0 "AA==") ∧
      idle.Accepts (keyFirst "ZZ==") (plainTunnel ⟨"hl"⟩ 0 "ZZ==") ∧
      SameButKey (keyFirst "AA==") (keyFirst "ZZ==") ∧
      idle.core.controller.chain.get? 0 = none ∧
      (idle.hear Memory.engine "now" (keyFirst "AA==")).2.logged ≠
        (idle.hear Memory.engine "now" (keyFirst "ZZ==")).2.logged := by
  have hline : idle.Accepts (keyFirst "AA==") (plainTunnel ⟨"hl"⟩ 0 "AA==") :=
    accepts_keyFirst (by decide +kernel)
  have hother : idle.Accepts (keyFirst "ZZ==") (plainTunnel ⟨"hl"⟩ 0 "ZZ==") :=
    accepts_keyFirst (by decide +kernel)
  have hsame : SameButKey (keyFirst "AA==") (keyFirst "ZZ==") := by
    have hfaithful : ∀ field ∈ [] ++ afterKey, Faithful (maxDepth - 1) field.2 := faithful_afterKey
    have hsame := sameButKey_text "AA==" "ZZ==" hfaithful
    rwa [List.nil_append, List.nil_append, ← keyFirst, ← keyFirst] at hsame
  have hdown : idle.core.controller.chain.get? (plainTunnel ⟨"hl"⟩ 0 "AA==").hop = none := by
    decide +kernel
  refine ⟨hline, hother, hsame, by decide +kernel, fun hlogged => ?_⟩
  obtain ⟨-, hafter⟩ := (together_hear Memory.blind_engine hline hother hsame hdown "now").elim
  obtain ⟨lines, hlog, hotherLog⟩ := hafter.exists_lines
  rw [hlog, hotherLog, List.append_cancel_left_eq, List.cons.injEq, seen_inj,
    shown_keyFirst (by decide +kernel), shown_keyFirst (by decide +kernel)] at hlogged
  exact absurd hlogged.1 (by decide +kernel)

end Service

end TunnelChain
