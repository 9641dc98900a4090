import TunnelChain.Proofs.Course

/-!
# What a session takes from a body

A session reads bodies of any shape. What it surfaces and answers has to be what the body says, each
number whole; a field that is missing or of another type is not to be made up. One reader falls
short of that: the number of a version is cut down to 32 bits.
-/

namespace TunnelChain

namespace Json

variable {json : Json}

theorem eq_of_natural? {n : Nat} (h : json.natural? = some n) : json = natJson n := by
  unfold natural? at h
  split at h
  · rename_i value
    split at h
    · rename_i hpos
      have hvalue : ((value.toNat : Nat) : Int) = value := Int.toNat_of_nonneg hpos
      rw [← Option.some.inj h, natJson, hvalue]
    · cases h
  · cases h

theorem natural?_natJson (n : Nat) : (natJson n).natural? = some n := by
  simp [natJson, natural?]

theorem natJson_inj {first second : Nat} (h : natJson first = natJson second) : first = second := by
  have hread := natural?_natJson first
  rw [h, natural?_natJson second] at hread
  exact (Option.some.inj hread).symm

theorem eq_of_text? {text : String} (h : json.text? = some text) : json = .str text := by
  cases json <;> simp_all [text?]

theorem eq_of_flag? {flag : Bool} (h : json.flag? = some flag) : json = .bool flag := by
  cases json <;> simp_all [flag?]

variable {body : Json} {name : String}

theorem field?_eq_of_natural? {n : Nat} (h : (body.field? name).bind natural? = some n) :
    body.field? name = some (natJson n) := by
  obtain ⟨json, hfield, hread⟩ := Option.bind_eq_some_iff.mp h
  rw [hfield, eq_of_natural? hread]

theorem field?_eq_of_text? {text : String} (h : (body.field? name).bind text? = some text) :
    body.field? name = some (.str text) := by
  obtain ⟨json, hfield, hread⟩ := Option.bind_eq_some_iff.mp h
  rw [hfield, eq_of_text? hread]

theorem field?_eq_of_flag? {flag : Bool} (h : (body.field? name).bind flag? = some flag) :
    body.field? name = some (.bool flag) := by
  obtain ⟨json, hfield, hread⟩ := Option.bind_eq_some_iff.mp h
  rw [hfield, eq_of_flag? hread]

end Json

/-- Whether an envelope says what an event tells: its kind, and each value in a field of the right
type. -/
def SessionEvent.IsSaid (parcel : Parcel) : SessionEvent → Prop
  | .initialized ok isConnected since =>
    parcel.kind = "status" ∧ ok = true ∧
      (isConnected = true → parcel.body.field? "connected" = some (.bool true)) ∧
      ∀ instant, since = some instant → isConnected = true ∧
        ∃ date, parcel.body.field? "date" = some (.str date) ∧ Instant.parse? date = some instant
  | .connected => parcel.kind = "connected" ∧ parcel.body.field? "hopindex" = some (natJson 0)
  | .disconnected => parcel.kind = "disconnected" ∧ parcel.body.field? "hopindex" = some (natJson 0)
  | .statusUpdated gateway device sent received =>
    parcel.kind = "status" ∧ parcel.body.field? "serverIpv4Gateway" = some (.str gateway) ∧
      parcel.body.field? "deviceIpv4Address" = some (.str device) ∧
      parcel.body.field? "txBytes" = some (natJson sent) ∧
      parcel.body.field? "rxBytes" = some (natJson received)
  | .controllerError => parcel.kind = "backendFailure"
  | .version number =>
    parcel.kind = "version" ∧ parcel.body.field? "version" = some (natJson number.toNat)

/-- Whether a text is the log that a body brings: line breaks for its bars, and empty if it brings
none. -/
def IsLogOf (body : Json) (text : String) : Prop :=
  (∃ logs, body.field? "logs" = some (.str logs) ∧
      text = String.ofList (logs.toList.map fun c => if c = '|' then '\n' else c)) ∨
    (∀ logs, body.field? "logs" ≠ some (.str logs)) ∧ text = ""

/-- Whether a body names a version that does not fit in 32 bits. -/
def Parcel.HasOverlongVersion (parcel : Parcel) : Prop :=
  parcel.kind = "version" ∧
    ∃ number, UInt32.size ≤ number ∧ parcel.body.field? "version" = some (natJson number)

/-- Whether what a session does about an envelope is all in the envelope, and nothing is sent. -/
structure Transition.Faithful {τ : Type} (parcel : Parcel) (transition : Transition τ) : Prop where
  said : ∀ event ∈ transition.events, event.IsSaid parcel
  answered : ∀ reply ∈ transition.replies, parcel.kind = "logs" ∧ IsLogOf parcel.body reply.2
  silent : transition.outbound = []

namespace Session

variable {τ : Type} {session : Session τ} {parcel : Parcel}

/-! ## What each reader takes -/

theorem faithful_silent {transition : Transition τ} (h : transition.IsSilent)
    (hsaid : ∀ event ∈ transition.events, event.IsSaid parcel) : transition.Faithful parcel := by
  refine ⟨hsaid, ?_, h.outbound⟩
  intro reply hreply
  rw [h.replies] at hreply
  cases hreply

theorem faithful_takeStatus (hkind : parcel.kind = "status") :
    (takeStatus parcel.body : Transition τ).Faithful parcel := by
  apply faithful_silent (isSilent_takeStatus _)
  unfold takeStatus
  split
  · rename_i gateway device sent received hgateway hdevice hsent hreceived
    intro event hevent
    rw [List.mem_singleton.mp hevent]
    exact ⟨hkind, Json.field?_eq_of_text? hgateway, Json.field?_eq_of_text? hdevice,
      Json.field?_eq_of_natural? hsent, Json.field?_eq_of_natural? hreceived⟩
  · nofun

/-- The exit hop's events are told by the integer 0 alone. -/
theorem faithful_takeHopEvent (kind : String) {event : SessionEvent}
    (hsaid : parcel.body.field? "hopindex" = some (natJson 0) → event.IsSaid parcel) :
    (takeHopEvent kind event parcel.body : Transition τ).Faithful parcel := by
  apply faithful_silent (isSilent_takeHopEvent _ _ _)
  unfold takeHopEvent
  split
  · nofun
  · rename_i hexit
    intro surfaced hsurfaced
    rw [List.mem_singleton.mp hsurfaced]
    exact hsaid (Json.field?_eq_of_natural? hexit)
  · nofun

theorem isLogOf_logText (body : Json) : IsLogOf body (logText body) := by
  unfold logText
  split
  · rename_i logs hlogs
    exact .inl ⟨logs, Json.field?_eq_of_text? hlogs, rfl⟩
  · rename_i hnone
    refine .inr ⟨?_, rfl⟩
    intro logs hlogs
    rw [hlogs] at hnone
    cases hnone

theorem faithful_takeLogs (hkind : parcel.kind = "logs") :
    (session.takeLogs parcel.body).1.Faithful parcel := by
  refine ⟨nofun, ?_, rfl⟩
  intro reply hreply
  obtain ⟨tag, -, rfl⟩ := List.mem_map.mp hreply
  exact ⟨hkind, isLogOf_logText parcel.body⟩

theorem faithful_becomeReady (hkind : parcel.kind = "status") :
    (session.becomeReady parcel.body).1.Faithful parcel := by
  refine faithful_silent ⟨rfl, rfl⟩ ?_
  intro event hevent
  rw [List.mem_singleton.mp hevent]
  have hflag (htrue : ((parcel.body.field? "connected").bind Json.flag?).getD false = true) :
      parcel.body.field? "connected" = some (.bool true) := by
    apply Json.field?_eq_of_flag?
    cases hread : (parcel.body.field? "connected").bind Json.flag? with
    | none => simp [hread] at htrue
    | some flag => simpa [hread] using htrue
  refine ⟨hkind, rfl, hflag, ?_⟩
  intro instant hsince
  split at hsince
  · rename_i htrue
    obtain ⟨date, hdate, hparse⟩ := Option.bind_eq_some_iff.mp hsince
    exact ⟨htrue, date, Json.field?_eq_of_text? hdate, hparse⟩
  · cases hsince

/-- The number of a version is taken modulo 2³². -/
theorem events_takeVersion {body : Json} {number : Nat}
    (h : body.field? "version" = some (natJson number)) :
    (takeVersion body : Transition τ).events = [.version (UInt32.ofNat number)] := by
  unfold takeVersion
  rw [h, Option.bind_some, Json.natural?_natJson]
  rfl

theorem faithful_takeVersion_iff (hkind : parcel.kind = "version") :
    (takeVersion parcel.body : Transition τ).Faithful parcel ↔ ¬ parcel.HasOverlongVersion := by
  constructor
  · rintro hfaithful ⟨-, number, hoverlong, hfield⟩
    have hsaid : (SessionEvent.version (UInt32.ofNat number)).IsSaid parcel := by
      apply hfaithful.said
      rw [events_takeVersion hfield]
      exact List.mem_singleton_self _
    -- The body would have to name the number that is left of it, which is smaller.
    have hnumber : number = (UInt32.ofNat number).toNat :=
      Json.natJson_inj (Option.some.inj (hfield.symm.trans hsaid.2))
    have hlt : (UInt32.ofNat number).toNat < UInt32.size := UInt32.toNat_lt_size _
    omega
  · intro hfits
    apply faithful_silent (isSilent_takeVersion _)
    intro event hevent
    cases hread : (parcel.body.field? "version").bind Json.natural? with
    | none =>
      rw [takeVersion, hread] at hevent
      cases hevent
    | some number =>
      have hfield := Json.field?_eq_of_natural? hread
      rw [events_takeVersion hfield, List.mem_singleton] at hevent
      have hlt : number < UInt32.size := by
        apply Nat.lt_of_not_le
        intro hoverlong
        exact hfits ⟨hkind, number, hoverlong, hfield⟩
      rw [hevent]
      refine ⟨hkind, ?_⟩
      rw [hfield, UInt32.toNat_ofNat_of_lt' hlt]

theorem faithful_handleReady (session : Session τ) (parcel : Parcel) :
    (session.handleReady parcel).1.Faithful parcel := by
  unfold handleReady
  split
  · rename_i hkind
    exact faithful_takeStatus hkind
  · rename_i hkind
    exact faithful_takeHopEvent _ fun hexit => ⟨hkind, hexit⟩
  · rename_i hkind
    exact faithful_takeHopEvent _ fun hexit => ⟨hkind, hexit⟩
  · rename_i hkind
    refine faithful_silent ⟨rfl, rfl⟩ ?_
    intro event hevent
    rw [List.mem_singleton.mp hevent]
    exact hkind
  · rename_i hkind
    exact faithful_takeLogs hkind
  · exact faithful_silent ⟨rfl, rfl⟩ nofun

/-- **A session is faithful but for overlong versions.** Whatever envelope reaches a session, in
whatever phase it is, all that it surfaces and answers is what the body says, and nothing is sent;
unless the body names a version that does not fit in 32 bits. Of such a version the low 32 bits are
surfaced. -/
theorem faithful_handle_iff (session : Session τ) (parcel : Parcel) :
    ((session.handle parcel).1.Faithful parcel ↔ ¬ parcel.HasOverlongVersion) ∧
      ∀ number, parcel.kind = "version" → parcel.body.field? "version" = some (natJson number) →
        (session.handle parcel).1.events = [.version (UInt32.ofNat number)] := by
  unfold handle
  by_cases hversion : parcel.kind = "version"
  · rw [if_pos hversion]
    exact ⟨faithful_takeVersion_iff hversion, fun number _ hfield => events_takeVersion hfield⟩
  rw [if_neg hversion]
  refine ⟨iff_of_true ?_ fun hoverlong => hversion hoverlong.1,
    fun number hkind _ => absurd hkind hversion⟩
  by_cases hreport : session.phase = .initializing ∧ parcel.kind = "status"
  · rw [if_pos hreport]
    exact faithful_becomeReady hreport.2
  rw [if_neg hreport]
  by_cases hready : session.phase = .ready
  · rw [if_pos hready]
    exact session.faithful_handleReady parcel
  · rw [if_neg hready]
    exact faithful_silent ⟨rfl, rfl⟩ nofun

/-- An answer to a version query with a number one above 32 bits and one. -/
def overlongVersion : Parcel :=
  ⟨"version", .obj [("type", .str "version"), ("version", natJson 4294967297)]⟩

/-- It is surfaced as version 1, which its body does not say. -/
theorem not_faithful_overlongVersion :
    (Session.handle (⟨.ready, 0, none⟩ : Session Nat) overlongVersion).1.events = [.version 1] ∧
      ¬ (SessionEvent.version 1).IsSaid overlongVersion ∧
      ¬ (Session.handle (⟨.ready, 0, none⟩ : Session Nat) overlongVersion).1.Faithful
        overlongVersion := by
  have hevents : (Session.handle (⟨.ready, 0, none⟩ : Session Nat) overlongVersion).1.events =
      [.version 1] := by decide +kernel
  have hfield : overlongVersion.body.field? "version" = some (natJson 4294967297) := by
    simp [overlongVersion, Json.field?, List.lookup_cons]
  have hunsaid : ¬ (SessionEvent.version 1).IsSaid overlongVersion := by
    rintro ⟨-, hone⟩
    rw [hfield] at hone
    simp [natJson] at hone
  refine ⟨hevents, hunsaid, ?_⟩
  intro hfaithful
  apply hunsaid
  apply hfaithful.said
  rw [hevents]
  exact List.mem_singleton_self _

end Session

end TunnelChain
