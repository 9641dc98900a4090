import Mathlib.Data.List.Basic
import TunnelChain.Address

/-!
# How addresses are written

The text of an address holds digits and the marks between them, and nothing else. An IPv4 address is
read back from its own text.
-/

namespace TunnelChain.Ip

/-! ## Letters -/

variable {P Q : Char → Prop} {text middle rest : List Char}

/-- Whether `rest` is left of a text when characters with a property are taken off its front. -/
def Leaves (P : Char → Prop) (text rest : List Char) : Prop :=
  ∃ taken, text = taken ++ rest ∧ ∀ c ∈ taken, P c

namespace Leaves

theorem refl (text : List Char) : Leaves P text text :=
  ⟨[], rfl, List.forall_mem_nil _⟩

theorem cons {c : Char} (hc : P c) (h : Leaves P text rest) : Leaves P (c :: text) rest := by
  obtain ⟨taken, rfl, htaken⟩ := h
  exact ⟨c :: taken, rfl, List.forall_mem_cons.mpr ⟨hc, htaken⟩⟩

theorem trans (h : Leaves P text middle) (hrest : Leaves P middle rest) : Leaves P text rest := by
  obtain ⟨first, rfl, hfirst⟩ := h
  obtain ⟨second, rfl, hsecond⟩ := hrest
  exact ⟨first ++ second, (List.append_assoc _ _ _).symm,
    List.forall_mem_append.mpr ⟨hfirst, hsecond⟩⟩

theorem mono (h : Leaves P text rest) (hPQ : ∀ c, P c → Q c) : Leaves Q text rest := by
  obtain ⟨taken, htext, htaken⟩ := h
  exact ⟨taken, htext, fun c hc => hPQ c (htaken c hc)⟩

theorem forall_mem (h : Leaves P text []) : ∀ c ∈ text, P c := by
  obtain ⟨taken, rfl, htaken⟩ := h
  rwa [List.append_nil]

end Leaves

theorem leaves_readDigits (radix : Nat) (text : List Char) :
    Leaves (fun c => (digit? radix c).isSome) text (readDigits radix text).2 := by
  induction text with
  | nil => exact .refl []
  | cons c text ih =>
    unfold readDigits
    split
    · rename_i value hvalue
      exact ih.cons (by rw [hvalue]; rfl)
    · exact .refl _

theorem leaves_of_readMark {mark : Char} (h : readMark mark text = some rest) :
    Leaves (· = mark) text rest := by
  cases text with
  | nil => cases h
  | cons c text =>
    by_cases hc : c = mark
    · rw [readMark, if_pos hc, Option.some.injEq] at h
      exact h ▸ (Leaves.refl _).cons hc
    · rw [readMark, if_neg hc] at h
      cases h

theorem leaves_of_readOctet {octet : Nat} (h : readOctet text = some (octet, rest)) :
    Leaves (fun c => (digit? 10 c).isSome) text rest := by
  have hdigits := leaves_readDigits 10 text
  unfold readOctet at h
  dsimp only at h
  split at h
  · cases h
  · cases h
    exact hdigits

theorem leaves_of_readGroup {group : Nat} (h : readGroup text = some (group, rest)) :
    Leaves (fun c => (digit? 16 c).isSome) text rest := by
  have hdigits := leaves_readDigits 16 text
  unfold readGroup at h
  dsimp only at h
  split at h
  · cases h
  · cases h
    exact hdigits

/-- Whether an address of a family can be written with a character. -/
def Writes : Family → Char → Prop
  | .ipv4, c => (digit? 10 c).isSome ∨ c = '.'
  | .ipv6, c => (digit? 16 c).isSome ∨ c = '.' ∨ c = ':'

theorem leaves_start {first : Bool} {mark : Char}
    (h : (if first then some text else readMark mark text) = some rest) :
    Leaves (· = mark) text rest := by
  cases first with
  | true =>
    cases h
    exact .refl _
  | false => exact leaves_of_readMark h

theorem readOctets_succ (first : Bool) (count : Nat) (text : List Char) :
    readOctets first (count + 1) text =
      (if first then some text else readMark '.' text).bind fun start =>
        (readOctet start).bind fun octet =>
          (readOctets false count octet.2).bind fun others =>
            some (octet.1 :: others.1, others.2) := by
  cases first <;> rfl

theorem leaves_of_readOctets {first : Bool} {count : Nat} {octets : List Nat}
    (h : readOctets first count text = some (octets, rest)) : Leaves (Writes .ipv4) text rest := by
  induction count generalizing first text octets with
  | zero =>
    cases h
    exact .refl _
  | succ count ih =>
    rw [readOctets_succ] at h
    obtain ⟨start, hstart, h⟩ := Option.bind_eq_some_iff.mp h
    obtain ⟨⟨octet, next⟩, hoctet, h⟩ := Option.bind_eq_some_iff.mp h
    obtain ⟨⟨others, last⟩, hothers, h⟩ := Option.bind_eq_some_iff.mp h
    cases h
    exact ((leaves_start hstart).mono fun _ => .inr).trans
      (((leaves_of_readOctet hoctet).mono fun _ => .inl).trans (ih hothers))

theorem digit?_mono {c : Char} (h : (digit? 10 c).isSome) : (digit? 16 c).isSome := by
  unfold digit? at h ⊢
  dsimp only at h ⊢
  generalize (if 48 ≤ c.toNat ∧ c.toNat ≤ 57 then c.toNat - 48 else _) = value at h ⊢
  by_cases hvalue : value < 10
  · rw [if_pos (Nat.lt_trans hvalue (by decide))]
    rfl
  · rw [if_neg hvalue] at h
    cases h

theorem leaves_readGroups (first : Bool) (room : Nat) (text : List Char) :
    Leaves (Writes .ipv6) text (readGroups first room text).2.2 := by
  induction room generalizing first text with
  | zero => exact .refl _
  | succ room ih =>
    unfold readGroups
    split
    · exact .refl _
    · rename_i start hstart
      have hmark : Leaves (Writes .ipv6) text start :=
        (leaves_start hstart).mono fun _ h => .inr (.inr h)
      split
      · rename_i octets last hoctets
        split at hoctets
        · refine hmark.trans ((leaves_of_readOctets hoctets).mono fun c hc => ?_)
          rcases hc with hc | hc
          · exact .inl (digit?_mono hc)
          · exact .inr (.inl hc)
        · cases hoctets
      · split
        · exact .refl _
        · rename_i group last hgroup
          exact hmark.trans
            (((leaves_of_readGroup hgroup).mono fun _ => .inl).trans (ih false last))

theorem writes_of_parseV4? {text : String} {value : BitVec 32} (h : parseV4? text = some value) :
    ∀ c ∈ text.toList, Writes .ipv4 c := by
  unfold parseV4? at h
  split at h
  · rename_i octets hoctets
    exact (leaves_of_readOctets hoctets).forall_mem
  · cases h

theorem writes_of_parseV6? {text : String} {value : BitVec 128} (h : parseV6? text = some value) :
    ∀ c ∈ text.toList, Writes .ipv6 c := by
  have hhead := leaves_readGroups true 8 text.toList
  unfold parseV6? at h
  dsimp only at h
  split at h
  · split at h
    · rename_i hrest
      rw [List.isEmpty_iff.mp hrest] at hhead
      exact hhead.forall_mem
    · cases h
  · split at h
    · cases h
    · split at h
      · rename_i rest hrest
        have htail := leaves_readGroups true (7 - (readGroups true 8 text.toList).1.length) rest
        split at h
        · rename_i hempty
          rw [List.isEmpty_iff.mp hempty] at htail
          rw [hrest] at hhead
          exact (hhead.trans ((htail.cons (.inr (.inr rfl))).cons (.inr (.inr rfl)))).forall_mem
        · cases h
      · cases h

/-- The text of an address holds nothing but digits and the marks between them. -/
theorem writes_of_isText {family : Family} {text : String} (h : isText family text = true) :
    ∀ c ∈ text.toList, Writes family c := by
  cases family with
  | ipv4 =>
    obtain ⟨value, hvalue⟩ := Option.isSome_iff_exists.mp h
    exact writes_of_parseV4? hvalue
  | ipv6 =>
    obtain ⟨value, hvalue⟩ := Option.isSome_iff_exists.mp h
    exact writes_of_parseV6? hvalue

theorem parse?_of_parseV4? {text : String} {value : BitVec 32} (h : parseV4? text = some value) :
    parse? text = some (.v4 value) := by
  unfold parse?
  rw [h]

theorem ne_of_parseV4? {text other : String} {value : BitVec 32} (h : parseV4? text = some value)
    (hother : parseV4? other = none) : text ≠ other := by
  rintro rfl
  cases hother.symm.trans h

/-! ## Reading back -/

theorem readDigits_append {radix : Nat} (h : (readDigits radix text).2 = [])
    (hrest : ∀ c ∈ rest.head?, digit? radix c = none) :
    readDigits radix (text ++ rest) = ((readDigits radix text).1, rest) := by
  induction text with
  | nil =>
    cases rest with
    | nil => rfl
    | cons c rest =>
      have hstop : digit? radix c = none := hrest c (Option.mem_some_self c)
      simp only [List.nil_append, readDigits, hstop]
  | cons c text ih =>
    rw [List.cons_append]
    unfold readDigits at h ⊢
    cases hdigit : digit? radix c with
    | none =>
      rw [hdigit] at h
      cases h
    | some value =>
      rw [hdigit] at h
      simp only [ih h]

theorem readOctet_append {octet : Nat} (h : readOctet text = some (octet, []))
    (hrest : ∀ c ∈ rest.head?, digit? 10 c = none) :
    readOctet (text ++ rest) = some (octet, rest) := by
  have hend : (readDigits 10 text).2 = [] := by
    unfold readOctet at h
    dsimp only at h
    split at h
    · cases h
    · exact (Prod.mk.inj (Option.some.inj h)).2
  unfold readOctet at h ⊢
  rw [readDigits_append hend hrest]
  dsimp only at h ⊢
  split at h
  · cases h
  · rename_i hfits
    rw [if_neg hfits, (Prod.mk.inj (Option.some.inj h)).1]

theorem readOctet_toString {octet : Nat} (h : octet < 256) :
    readOctet (toString octet).toList = some (octet, []) := by
  have hall : ∀ octet < 256, readOctet (toString octet).toList = some (octet, []) := by
    decide +kernel
  exact hall octet h

theorem ofOctets_octets (value : BitVec 32) : ofOctets (octets value) = value := by
  apply BitVec.eq_of_toNat_eq
  have hvalue := value.isLt
  simp only [ofOctets, octets, List.map_cons, List.map_nil, List.foldl_cons, List.foldl_nil,
    BitVec.toNat_ofNat, BitVec.toNat_ushiftRight, Nat.shiftRight_eq_div_pow]
  omega

/-- Octets in decimal, each with a point before it. -/
def pointed (octets : List Nat) : List Char :=
  octets.flatMap fun octet => '.' :: (toString octet).toList

theorem pointed_cons (octet : Nat) (rest : List Nat) :
    pointed (octet :: rest) = '.' :: ((toString octet).toList ++ pointed rest) := rfl

theorem digit?_head_pointed (octets : List Nat) :
    ∀ c ∈ (pointed octets).head?, digit? 10 c = none := by
  intro c hc
  cases octets with
  | nil => cases hc
  | cons octet rest =>
    cases hc
    decide

theorem readOctets_pointed {octets : List Nat} (h : ∀ octet ∈ octets, octet < 256) :
    readOctets false octets.length (pointed octets) = some (octets, []) := by
  induction octets with
  | nil => rfl
  | cons octet rest ih =>
    obtain ⟨hoctet, hrest⟩ := List.forall_mem_cons.mp h
    have hread := readOctet_append (readOctet_toString hoctet) (digit?_head_pointed rest)
    rw [List.length_cons, readOctets_succ, pointed_cons]
    simp only [Bool.false_eq_true, if_false, readMark, if_true, Option.bind_some, hread, ih hrest]

theorem toList_intercalate_points (octet : Nat) (rest : List Nat) :
    (".".intercalate ((octet :: rest).map toString)).toList =
      (toString octet).toList ++ pointed rest := by
  induction rest generalizing octet with
  | nil => simp [pointed]
  | cons next rest ih =>
    rw [List.map_cons, List.map_cons, String.intercalate_cons_cons, ← List.map_cons,
      String.toList_append, String.toList_append, ih, pointed_cons]
    simp

theorem readOctets_intercalate {octet : Nat} {rest : List Nat}
    (h : ∀ other ∈ octet :: rest, other < 256) :
    readOctets true (rest.length + 1) (".".intercalate ((octet :: rest).map toString)).toList =
      some (octet :: rest, []) := by
  obtain ⟨hoctet, hrest⟩ := List.forall_mem_cons.mp h
  have hread := readOctet_append (readOctet_toString hoctet) (digit?_head_pointed rest)
  rw [toList_intercalate_points, readOctets_succ]
  simp only [if_true, Option.bind_some, hread, readOctets_pointed hrest]

/-- An IPv4 address is read back from its text. -/
theorem parseV4?_textV4 (value : BitVec 32) : parseV4? (textV4 value) = some value := by
  have hsmall : ∀ octet ∈ octets value, octet < 256 := by
    intro octet hoctet
    obtain ⟨shift, -, rfl⟩ := List.mem_map.mp hoctet
    exact Nat.mod_lt _ (by decide)
  have hread : readOctets true 4 (textV4 value).toList = some (octets value, []) :=
    readOctets_intercalate hsmall
  rw [parseV4?, hread]
  exact congrArg some (ofOctets_octets value)

end TunnelChain.Ip
