import TunnelChain.Proofs.Attending
import TunnelChain.Proofs.Rejection
import TunnelChain.Proofs.Request

/-!
# The hop of a refusal

The hop of an activation is read twice: with the other fields when the request is read, and by
itself when the request is refused. Both readings come to the same hop, so that a failed activation
is always answered with the hop that it asked for.
-/

namespace TunnelChain

open Json Json.Record Json.Reader

/-! ## Two readings of one field -/

namespace Json

variable {value : Json}

theorem toDraft_eq_null_iff : value.toDraft = .null ↔ value = .null := by
  cases value <;> simp [toDraft]

theorem toDraft_eq_num_iff {number : Number} :
    value.toDraft = .num number ↔ value = .num number := by
  cases value <;> simp [toDraft]

namespace Reader

theorem natural_eq_ok {expected : String} {bound : Nat} {source : Source} {draft : Draft} {n : Nat}
    (h : natural expected bound source draft = .ok n) : draft = .num (.int n) ∧ n < bound := by
  have hrefuse : ∀ draft, (refuse expected draft : Except Fault Nat) ≠ .ok n := by
    intro draft h
    unfold refuse at h
    split at h <;> cases h
  unfold natural at h
  split at h
  · split at h
    · rename_i value hbounds
      cases h
      rw [Int.toNat_of_nonneg hbounds.1]
      exact ⟨rfl, by omega⟩
    · cases h
  · exact absurd h (hrefuse _)

theorem natural32_eq_ok {source : Source} {draft : Draft} {n : UInt32}
    (h : natural32 source draft = .ok n) : draft = .num (.int n.toNat) := by
  obtain ⟨m, hm, rfl⟩ := map_eq_ok.mp h
  obtain ⟨rfl, hbound⟩ := natural_eq_ok hm
  rw [UInt32.toNat_ofNat_of_lt' hbound]

end Reader

end Json

/-- Which hop a body names: that of its field, if the field holds the number of a hop, and the exit
hop otherwise. -/
inductive NamesHop (body : Json) : HopIndex → Prop where
  | given {hop : HopIndex} (h : body.field? "hopindex" = some (natJson hop.toNat)) :
      NamesHop body hop
  | absent (h : ∀ hop : HopIndex, body.field? "hopindex" ≠ some (natJson hop.toNat)) :
      NamesHop body 0

/-- What a body hints at is what it names, whatever else it holds in place of a number. -/
theorem namesHop_hopHint (body : Json) : NamesHop body (hopHint body) := by
  by_cases hgiven : ∃ hop : HopIndex, body.field? "hopindex" = some (natJson hop.toNat)
  · obtain ⟨hop, hfield⟩ := hgiven
    have hhint : hopHint body = (some hop).getD 0 := hopHint_of_field? hfield
    rw [hhint]
    exact .given hfield
  · have habsent : ∀ hop : HopIndex, body.field? "hopindex" ≠ some (natJson hop.toNat) :=
      fun hop hfield => hgiven ⟨hop, hfield⟩
    have hzero : hopHint body = 0 := by
      by_contra hhint
      obtain ⟨n, hn, hfield⟩ := exists_of_hopHint_ne hhint
      refine habsent (.ofNat n) ?_
      rw [UInt32.toNat_ofNat_of_lt' hn]
      exact hfield
    rw [hzero]
    exact .absent habsent

section Fields

variable {fields : List (String × Json)} {source : Source}

/-- An optional number that is read is one that is written as such, and one that is not read is left
out or null. -/
theorem lookup_of_optional_natural32 {name : String} {read : Option UInt32}
    (h : (optional name natural32).build source (fun name => (fields.lookup name).map toDraft) =
      .ok read) :
    (∃ n, read = some n ∧ fields.lookup name = some (natJson n.toNat)) ∨
      (read = none ∧ (fields.lookup name = none ∨ fields.lookup name = some .null)) := by
  simp only [Record.optional, withDefault] at h
  cases hlookup : fields.lookup name with
  | none =>
    rw [hlookup] at h
    cases h
    exact .inr ⟨rfl, .inl rfl⟩
  | some value =>
    rw [hlookup] at h
    change option natural32 source value.toDraft = _ at h
    by_cases hnull : value.toDraft = .null
    · rw [hnull] at h
      cases h
      exact .inr ⟨rfl, .inr (congrArg some (toDraft_eq_null_iff.mp hnull))⟩
    · rw [option_of_ne_null hnull] at h
      obtain ⟨n, hn, rfl⟩ := map_eq_ok.mp h
      exact .inl ⟨n, rfl, congrArg some (toDraft_eq_num_iff.mp (natural32_eq_ok hn))⟩

/-- What the first part of a record decides holds of the record whatever the rest of it is. -/
theorem forall_build_seq {α β : Type} {given : String → Option Draft} {builder : Record (α → β)}
    {rest : Record α} {P : β → Prop}
    (h : ∀ f, builder.build source given = .ok f → ∀ input, P (f input)) (value : β)
    (hvalue : (builder <*> rest).build source given = .ok value) : P value := by
  obtain ⟨f, input, hf, -, rfl⟩ := build_seq_ok hvalue
  exact h f hf input

theorem TunnelRequest.build_hop (request : TunnelRequest)
    (h : TunnelRequest.reader source (Json.obj fields).toDraft = .ok request) :
    (optional "hopindex" natural32).build source (fun name => (fields.lookup name).map toDraft) =
      .ok request.hop := by
  replace h := build_of_read h
  revert request
  -- The hop is the first of the fields: each of the others is peeled off the end.
  iterate 11 refine forall_build_seq ?_
  intro f hf
  obtain ⟨_, hop, hmk, hhop, rfl⟩ := build_seq_ok hf
  cases hmk
  intros
  exact hhop

/-- **Two readings.** The hop that is read with a request is the one that its body hints at. -/
theorem hopHint_of_reader {request : TunnelRequest}
    (h : TunnelRequest.reader source (Json.obj fields).toDraft = .ok request) :
    hopHint (.obj fields) = request.hop.getD 0 := by
  obtain ⟨hop, hhop, hgiven⟩ | ⟨hhop, hleft⟩ := lookup_of_optional_natural32 (request.build_hop h)
  · rw [hhop]
    have hfield : (Json.obj fields).field? "hopindex" = (some hop).map fun hop =>
      natJson hop.toNat := hgiven
    exact hopHint_of_field? hfield
  · rw [hhop]
    by_contra hhint
    obtain ⟨n, -, hgiven⟩ := exists_of_hopHint_ne hhint
    obtain hnone | hnull := hleft
    · cases hnone.symm.trans hgiven
    · cases hnull.symm.trans hgiven

end Fields

theorem Parcel.Read.hopHint_eq {parcel : Parcel} {fields : List (String × Json)}
    (h : parcel.Read fields) {nameOf : HopIndex → String} {tunnel : Tunnel}
    (hbody : Tunnel.ofBody nameOf parcel.body = .ok tunnel) : hopHint parcel.body = tunnel.hop := by
  obtain ⟨request, hread, hrequest⟩ := Tunnel.exists_request_of_ofBody hbody
  rw [h.body] at hread ⊢
  rw [Tunnel.hop_of_ofRequest hrequest]
  exact hopHint_of_reader hread

/-! ## What is answered -/

namespace Service

section Activate

variable {σ : Type} {engine : Engine σ} {now : String} {service : Service σ} {body : Json}

/-- A body that describes no tunnel is answered with the hop that it hints at. -/
theorem replies_activate_of_error {error : TunnelError}
    (hbody : Tunnel.ofBody service.naming.name body = .error error) :
    (service.activate engine now body).1 = [.disconnected (hopHint body)] := by
  unfold Service.activate
  rw [hbody]

/-- A body that describes a tunnel is answered, if at all, with the hop of the tunnel. -/
theorem mem_replies_activate {tunnel : Tunnel}
    (hbody : Tunnel.ofBody service.naming.name body = .ok tunnel) {reply : DaemonMessage}
    (hreply : reply ∈ (service.activate engine now body).1) : reply = .disconnected tunnel.hop := by
  unfold Service.activate at hreply
  rw [hbody] at hreply
  dsimp only at hreply
  split at hreply
  · cases hreply
  · exact List.mem_singleton.mp hreply

end Activate

variable {σ : Type} {parcel : Parcel}

/-- What a service is but for its log decides what it tells next. -/
theorem takeEvents_of_unlogged {service other : Service σ} (h : service.unlogged = other.unlogged) :
    service.takeEvents.1 = other.takeEvents.1 := by
  have hevents := congrArg (fun service : Service σ => service.core.controller.events) h
  exact congrArg (List.map HopEvent.toMessage) hevents

/-- **Refusal.** Whatever an activation is answered with is the hop that its body names, which is
that of the tunnel if the body describes one. If the body describes none, there is one answer,
nothing is asked of the system, no hop changes and nothing is told to anyone else. -/
theorem refusal_names_hop {line : Bytes} (hline : Parcel.ofLine line = .ok parcel)
    (hkind : parcel.kind = "activate") (engine : Engine σ) (now : String)
    (service : Service (Transcript σ)) :
    let reaction := service.react engine.transcribed now parcel
    (∀ tunnel, Tunnel.ofBody service.naming.name parcel.body = .ok tunnel →
        hopHint parcel.body = tunnel.hop ∧ NamesHop parcel.body tunnel.hop) ∧
      (∀ error, Tunnel.ofBody service.naming.name parcel.body = .error error →
        (∃ hop, NamesHop parcel.body hop ∧ reaction.replies = [.disconnected hop]) ∧
          reaction.events = service.takeEvents.1 ∧
          (service.handle engine.transcribed now parcel).2.unlogged = service.unlogged) ∧
      ∀ reply ∈ reaction.replies, ∃ hop, NamesHop parcel.body hop ∧ reply = .disconnected hop := by
  intro reaction
  obtain ⟨fields, hread⟩ := Parcel.read_of_ofLine hline
  have hnames := namesHop_hopHint parcel.body
  have hreplies : reaction.replies =
      ((service.note .debug "Handling message: activate").activate engine.transcribed now
        parcel.body).1 :=
    congrArg Prod.fst (handle_eq_activate hkind engine.transcribed now service)
  have hrefused (error : TunnelError)
      (hbody : Tunnel.ofBody service.naming.name parcel.body = .error error) :
      reaction.replies = [.disconnected (hopHint parcel.body)] :=
    hreplies.trans (replies_activate_of_error hbody)
  refine ⟨fun tunnel hbody => ?_, fun error hbody => ?_, fun reply hreply => ⟨_, hnames, ?_⟩⟩
  · have hhint := hread.hopHint_eq hbody
    exact ⟨hhint, hhint ▸ hnames⟩
  · have hsame : (service.handle engine.transcribed now parcel).2.unlogged = service.unlogged := by
      rw [handle_eq_activate hkind]
      refine unlogged_activate (fun tunnel hok => ?_) now
      cases hbody.symm.trans hok
    exact ⟨⟨_, hnames, hrefused error hbody⟩, takeEvents_of_unlogged hsame, hsame⟩
  · cases hbody : Tunnel.ofBody service.naming.name parcel.body with
    | error error =>
      rw [hrefused error hbody] at hreply
      exact List.mem_singleton.mp hreply
    | ok tunnel =>
      rw [hread.hopHint_eq hbody]
      have hnoted :
          Tunnel.ofBody (service.note .debug "Handling message: activate").naming.name parcel.body =
            .ok tunnel := hbody
      rw [hreplies] at hreply
      exact mem_replies_activate hnoted hreply

/-- An activation of hop 7 that says nothing of its tunnel. -/
def unfinishedRelay : List (String × Json) :=
  [("type", .str "activate"), ("hopindex", natJson 7)]

theorem ofLine_unfinishedRelay :
    Parcel.ofLine (trimBytes (Utf8.encode (Json.obj unfinishedRelay).text)) =
      .ok ⟨"activate", (Json.obj unfinishedRelay).sorted⟩ := by
  refine (ofLine_of_receive (receive_text (.obj ?_) (by decide) rfl)).1
  simp only [unfinishedRelay, List.forall_mem_cons]
  exact ⟨.str _ _, faithful_natJson _ (by decide), List.forall_mem_nil _⟩

/-- While the exit hop is up, a relay is asked for without its tunnel: the answer is of the
relay. -/
theorem refusal_names_hop_unfinishedRelay :
    let parcel : Parcel := ⟨"activate", (Json.obj unfinishedRelay).sorted⟩
    let reaction := withExit.react Memory.engine.transcribed "now" parcel
    Parcel.ofLine (trimBytes (Utf8.encode (Json.obj unfinishedRelay).text)) = .ok parcel ∧
      parcel.kind = "activate" ∧
      Tunnel.ofBody withExit.naming.name parcel.body =
        .error (.undecodable (.missing "privateKey")) ∧
      NamesHop parcel.body 7 ∧ reaction.replies = [.disconnected 7] ∧
      (withExit.handle Memory.engine.transcribed "now" parcel).2.unlogged = withExit.unlogged := by
  intro parcel reaction
  have hbody : Tunnel.ofBody withExit.naming.name parcel.body =
      .error (.undecodable (.missing "privateKey")) := by decide +kernel
  obtain ⟨-, hrefused, -⟩ :=
    refusal_names_hop ofLine_unfinishedRelay rfl Memory.engine "now" withExit
  obtain ⟨⟨hop, hnames, hreplies⟩, -, hsame⟩ := hrefused _ hbody
  have hhop : hop = 7 := by
    have hseven : reaction.replies = [.disconnected 7] := by decide +kernel
    cases hreplies.symm.trans hseven
    rfl
  subst hhop
  exact ⟨ofLine_unfinishedRelay, rfl, hbody, hnames, hreplies, hsame⟩

end Service

end TunnelChain
