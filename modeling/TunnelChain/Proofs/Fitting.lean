import TunnelChain.Engine.Memory
import TunnelChain.Proofs.Operation
import TunnelChain.Settings

/-!
# Names that fit

Settings are accepted only with a stem from which the names of the first hundred hops can be made:
plain characters, and no more bytes than the system takes. So no activation of such a hop is refused
for its name.
-/

namespace TunnelChain

/-! ## Stems and the names made of them -/

/-- Whether the system takes the name of a hop. -/
structure Naming.Fits (naming : Naming) (hop : HopIndex) : Prop where
  ne_empty : naming.name hop ≠ ""
  plain : ∀ c ∈ (naming.name hop).toList, c.isAlphanum ∨ c = '-' ∨ c = '_'
  short : Utf8.size (naming.name hop) ≤ 15

/-- What follows the stem in a name consists of letters and digits. -/
theorem Naming.exists_tail (naming : Naming) (hop : HopIndex) :
    ∃ tail, (naming.name hop).toList = naming.stem.toList ++ tail ∧ ∀ c ∈ tail, c.isAlphanum := by
  by_cases hexit : hop = 0
  · refine ⟨[], ?_, List.forall_mem_nil _⟩
    rw [name, if_pos hexit, List.append_nil]
  · refine ⟨_, naming.toList_name_relay hexit, fun c hc => ?_⟩
    rcases List.mem_append.mp hc with hword | hnumber
    · have hletters : "hop".toList.all Char.isAlphanum = true := by decide
      exact List.all_eq_true.mp hletters c hword
    · rw [Decimal.toList_toString] at hnumber
      rw [Char.isAlphanum, Decimal.isDigit_of_mem_toDigits hnumber, Bool.or_true]

namespace Settings

theorem isStemChar_iff {c : Char} : isStemChar c ↔ c.isAlphanum ∨ c = '-' ∨ c = '_' := by
  simp [isStemChar, or_assoc]

theorem stemFault?_eq_none_iff {stem : String} :
    stemFault? stem = none ↔
      stem ≠ "" ∧ (∀ c ∈ stem.toList, isStemChar c) ∧ Utf8.size stem + 5 ≤ Naming.maxBytes := by
  have hchars : ¬ (stem.isEmpty || !stem.toList.all isStemChar) ↔
      stem ≠ "" ∧ ∀ c ∈ stem.toList, isStemChar c := by
    simp
  rw [← and_assoc, ← hchars, ← Nat.not_lt]
  unfold stemFault?
  split
  · rename_i hfault
    exact iff_of_false (Option.some_ne_none _) fun h => h.1 hfault
  · rename_i hclean
    split
    · rename_i hlong
      exact iff_of_false (Option.some_ne_none _) fun h => h.2 hlong
    · rename_i hshort
      exact iff_of_true rfl ⟨hclean, hshort⟩

theorem size_of_stemFault? {stem : String} (h : stemFault? stem = none) :
    Utf8.size stem + 5 ≤ Naming.maxBytes :=
  (stemFault?_eq_none_iff.mp h).2.2

/-- Settings that are accepted have a stem without fault. -/
theorem stemFault?_of_validate {settings accepted : Settings}
    (h : settings.validate = .ok accepted) :
    stemFault? settings.stem = none := by
  unfold validate fault? at h
  cases hstem : stemFault? settings.stem with
  | none => rfl
  | some reason =>
    rw [hstem] at h
    cases h

/-- A stem is without fault exactly if the names of the first hundred hops fit: the name of hop 10
is already as long as theirs can be. -/
theorem stemFault?_eq_none_iff_fits (naming : Naming) :
    stemFault? naming.stem = none ↔ ∀ hop : HopIndex, hop ≤ 99 → naming.Fits hop := by
  rw [stemFault?_eq_none_iff]
  constructor
  · rintro ⟨hne, hplain, hshort⟩ hop hhop
    obtain ⟨tail, htail, halphanum⟩ := naming.exists_tail hop
    refine ⟨fun hempty => hne ?_, fun c hc => ?_, ?_⟩
    · rw [hempty] at htail
      exact String.toList_injective (List.append_eq_nil_iff.mp htail.symm).1
    · rw [htail] at hc
      rcases List.mem_append.mp hc with hstem | htail
      · exact isStemChar_iff.mp (hplain c hstem)
      · exact .inl (halphanum c htail)
    · have hfew : hop.toNat < 100 := Nat.lt_succ_of_le (UInt32.le_iff_toNat_le.mp hhop)
      exact Nat.le_trans (naming.size_name_le hfew) hshort
  · intro hfits
    have hexit : naming.name 0 = naming.stem := rfl
    have hzero := hfits 0 (by decide)
    have hten := hfits 10 (by decide)
    refine ⟨hexit ▸ hzero.ne_empty, fun c hc => isStemChar_iff.mpr (hzero.plain c hc), ?_⟩
    -- the exit hop's name is the stem itself, but only a number of two digits says how long it may
    -- be
    have hlong : ¬ Utf8.size (naming.name 10) ≤ Utf8.size naming.stem + 3 + 1 := fun hle =>
      absurd ((naming.size_name_le_iff (by decide) Nat.one_pos).mp hle) (by decide)
    have hshort := hten.short
    unfold Naming.maxBytes
    omega

end Settings

/-! ## Refusals of a name -/

section Refusals

variable {now name : String} {tunnel : Tunnel} {chain next : Chain} {said : List HopEvent}
  {result : Except OperationError Unit} {xs : List Exchange}

theorem Clearing.ne_interfaceName {stale : String} (h : Clearing stale result xs) :
    result ≠ .error (.interfaceName name) := by
  cases h with
  | absent => nofun
  | removed => nofun
  | stuck failure => nofun

theorem Building.ne_interfaceName (h : Building now tunnel chain result xs next said) :
    result ≠ .error (.interfaceName name) := by
  cases h with
  | uncleared hclear => exact hclear.ne_interfaceName
  | failed hclear hscript => nofun
  | built hclear => nofun

theorem Teardown.ne_interfaceName {hop : HopIndex} {announce : Bool}
    (h : Teardown hop announce chain result xs next said) :
    result ≠ .error (.interfaceName name) := by
  cases h with
  | inactive hdown => nofun
  | unrestored hup hexit => nofun
  | undeleted hup => nofun
  | vanished hup => nofun
  | removed hup => nofun

theorem Activation.eq_interfaceName_iff {switching : Bool}
    (h : Activation switching now tunnel chain result xs next said) :
    result = .error (.interfaceName name) ↔
      Naming.maxBytes < Utf8.size tunnel.name ∧ name = tunnel.name := by
  constructor
  · intro hresult
    cases h with
    | overlong hlong =>
      cases hresult
      exact ⟨hlong, rfl⟩
    | fresh _ _ hbuild => exact absurd hresult hbuild.ne_interfaceName
    | switched => cases hresult
    | unswitched => cases hresult
    | kept _ _ _ hteardown _ => exact absurd hresult hteardown.ne_interfaceName
    | rebuilt _ _ _ _ _ hbuild => exact absurd hresult hbuild.ne_interfaceName
  · rintro ⟨hlong, rfl⟩
    exact (h.of_overlong hlong).1

/-- An activation is refused for a name exactly if that is the tunnel's own and too long. -/
theorem Controller.activate_eq_interfaceName_iff {σ : Type} (engine : Engine σ) (now : String)
    (tunnel : Tunnel) (controller : Controller σ) :
    (controller.activate engine now tunnel).1 = .error (.interfaceName name) ↔
      15 < Utf8.size tunnel.name ∧ name = tunnel.name := by
  obtain ⟨xs, next, said, hactivation, -⟩ := controller.activate_law engine now tunnel
  exact hactivation.eq_interfaceName_iff

/-- The longest stem without fault leaves room for two digits: every hop past the first hundred is
refused. -/
theorem Controller.activate_past_hundred {σ : Type} {naming : Naming} {hop : HopIndex}
    (hstem : Utf8.size naming.stem + 5 = Naming.maxBytes) (hhop : 99 < hop)
    (hname : tunnel.name = naming.name hop) (engine : Engine σ) (now : String)
    (controller : Controller σ) :
    (controller.activate engine now tunnel).1 = .error (.interfaceName tunnel.name) := by
  have hmany : 99 < hop.toNat := UInt32.lt_iff_toNat_lt.mp hhop
  have hrelay : hop ≠ 0 := fun hexit => by simp [hexit] at hmany
  have hlong : ¬ Utf8.size (naming.name hop) ≤ Utf8.size naming.stem + 3 + 2 := fun hle =>
    absurd ((naming.size_name_le_iff hrelay Nat.two_pos).mp hle) (Nat.not_lt.mpr hmany)
  rw [activate_eq_interfaceName_iff, hname]
  unfold Naming.maxBytes at hstem
  exact ⟨by omega, rfl⟩

end Refusals

/-- **Names.** Whatever the stem, hops that differ have names that differ. With settings that are
accepted, the name of each of the first hundred hops fits, and an activation under it is never
refused for its name, whatever the system and whatever is up. -/
theorem Settings.names_differ_and_fit :
    (∀ (naming : Naming) (left right : HopIndex),
      naming.name left = naming.name right ↔ left = right) ∧
      ∀ settings accepted : Settings, settings.validate = .ok accepted →
        ∀ hop : HopIndex, hop ≤ 99 →
        (Naming.mk settings.stem).Fits hop ∧
          ∀ (σ : Type) (engine : Engine σ) (now : String) (tunnel : Tunnel)
            (controller : Controller σ),
            tunnel.name = (Naming.mk settings.stem).name hop →
              ∀ name, (controller.activate engine now tunnel).1 ≠ .error (.interfaceName name) := by
  constructor
  · exact fun naming left right => naming.name_eq_iff
  · intro settings accepted haccepted hop hhop
    have hstem := stemFault?_of_validate haccepted
    have hfits := (stemFault?_eq_none_iff_fits ⟨settings.stem⟩).mp hstem hop hhop
    refine ⟨hfits, fun σ engine now tunnel controller hname name hrefused => ?_⟩
    obtain ⟨hlong, -⟩ :=
      (Controller.activate_eq_interfaceName_iff engine now tunnel controller).mp hrefused
    rw [hname] at hlong
    exact absurd hfits.short (Nat.not_le.mpr hlong)

/-- Settings with one of the longest stems that are accepted, which looks like the name of a
relay. -/
def Settings.relayLike : Settings :=
  { Settings.standard with stem := "edge-7hop1" }

theorem Settings.names_differ_and_fit_relayLike :
    let naming := Naming.mk Settings.relayLike.stem
    let tunnel := plainTunnel naming 99 "AA=="
    Settings.relayLike.validate = .ok .relayLike ∧ (99 : HopIndex) ≤ 99 ∧
      tunnel.name = naming.name 99 ∧ naming.name 1 ≠ naming.name 11 ∧
      naming.name 99 = "edge-7hop1hop99" ∧ naming.Fits 99 ∧
      ∀ name, (Controller.activate Memory.engine "now" tunnel (.fresh .fresh)).1 ≠
        .error (.interfaceName name) := by
  intro naming tunnel
  have haccepted : Settings.relayLike.validate = .ok .relayLike := by rfl
  have hname : tunnel.name = naming.name 99 := by decide +kernel
  obtain ⟨hdiffer, hfit⟩ := Settings.names_differ_and_fit
  obtain ⟨hfits, hallowed⟩ := hfit .relayLike .relayLike haccepted 99 (by decide)
  exact ⟨haccepted, by decide, hname, (hdiffer naming 1 11).not.mpr (by decide), by decide +kernel,
    hfits, hallowed Memory Memory.engine "now" tunnel (.fresh .fresh) hname⟩

end TunnelChain
