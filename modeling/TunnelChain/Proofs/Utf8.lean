import Mathlib.Data.List.Basic
import TunnelChain.Wire.Line

/-!
# UTF-8

Every text reads back from its bytes, and the only character whose bytes hold a line feed is the
line feed itself.
-/

namespace TunnelChain.Utf8

namespace Reader

variable {parts : List (Option Char)}

theorem step_ascii {n : Nat} (h : n < 0x80) :
    step ⟨parts, none⟩ (UInt8.ofNat n) = ⟨some (Char.ofNat n) :: parts, none⟩ := by
  have hnat : (UInt8.ofNat n).toNat = n := UInt8.toNat_ofNat_of_lt' (by change _ < 256; omega)
  have hlt : UInt8.ofNat n < 0x80 := UInt8.lt_iff_toNat_lt.mpr (by rw [hnat]; exact h)
  simp only [step, first, if_pos hlt, hnat]

theorem step_lead {n : Nat} {part : Partial} (hlow : 0x80 ≤ n) (hhigh : n < 0x100)
    (hlead : lead n = some part) : step ⟨parts, none⟩ (UInt8.ofNat n) = ⟨parts, some part⟩ := by
  have hnat : (UInt8.ofNat n).toNat = n := UInt8.toNat_ofNat_of_lt' (by change _ < 256; omega)
  have hlt : ¬UInt8.ofNat n < 0x80 := by
    rw [UInt8.lt_iff_toNat_lt, hnat]
    exact Nat.not_lt.mpr hlow
  simp only [step, first, if_neg hlt, hnat, hlead]

theorem step_tail {owed low high bits k : Nat} (hk : k < 64) (hlow : low ≤ 0x80 + k)
    (hhigh : 0x80 + k ≤ high) :
    step ⟨parts, some ⟨owed + 2, low, high, bits⟩⟩ (UInt8.ofNat (0x80 + k)) =
      ⟨parts, some ⟨owed + 1, 0x80, 0xBF, bits * 64 + k⟩⟩ := by
  have hnat : (UInt8.ofNat (0x80 + k)).toNat = 0x80 + k :=
    UInt8.toNat_ofNat_of_lt' (by change _ < 256; omega)
  have howed : ¬owed + 2 = 1 := by omega
  simp only [step, hnat, if_pos (And.intro hlow hhigh), if_neg howed, Nat.add_sub_cancel_left]
  rfl

theorem step_last {low high bits k : Nat} (hk : k < 64) (hlow : low ≤ 0x80 + k)
    (hhigh : 0x80 + k ≤ high) :
    step ⟨parts, some ⟨1, low, high, bits⟩⟩ (UInt8.ofNat (0x80 + k)) =
      ⟨some (Char.ofNat (bits * 64 + k)) :: parts, none⟩ := by
  have hnat : (UInt8.ofNat (0x80 + k)).toNat = 0x80 + k :=
    UInt8.toNat_ofNat_of_lt' (by change _ < 256; omega)
  simp only [step, hnat, if_pos (And.intro hlow hhigh), if_true, Nat.add_sub_cancel_left]

end Reader

theorem lead_two {k : Nat} (hlow : 2 ≤ k) (hhigh : k < 32) :
    lead (0xC0 + k) = some ⟨1, 0x80, 0xBF, k⟩ := by
  have hbounds : 0xC2 ≤ 0xC0 + k ∧ 0xC0 + k ≤ 0xDF := by omega
  simp only [lead, if_pos hbounds, Nat.add_sub_cancel_left]

/-- The bounds on the second byte exclude overlong forms and surrogates, but no character. -/
theorem lead_three : ∀ k < 16, lead (0xE0 + k) =
    some ⟨2, if k = 0 then 0xA0 else 0x80, if k = 13 then 0x9F else 0xBF, k⟩ := by
  decide

theorem lead_four : ∀ k < 5, lead (0xF0 + k) =
    some ⟨3, if k = 0 then 0x90 else 0x80, if k = 4 then 0x8F else 0xBF, k⟩ := by
  decide

theorem toNat_bounds (c : Char) : c.toNat < 0xD800 ∨ 0xDFFF < c.toNat ∧ c.toNat < 0x110000 :=
  c.valid

theorem foldl_encodeChar (c : Char) (parts : List (Option Char)) :
    (encodeChar c).foldl Reader.step ⟨parts, none⟩ = ⟨some c :: parts, none⟩ := by
  have hbounds := toNat_bounds c
  have hchar : Char.ofNat c.toNat = c := Char.ofNat_toNat c
  unfold encodeChar
  dsimp only
  generalize c.toNat = n at hbounds hchar
  subst hchar
  split
  · rename_i hone
    exact Reader.step_ascii hone
  · split
    · rename_i hone htwo
      have hsum : n / 64 * 64 + n % 64 = n := Nat.div_add_mod' n 64
      simp only [List.foldl_cons, List.foldl_nil]
      rw [Reader.step_lead (by omega) (by omega) (lead_two (by omega) (by omega)),
        Reader.step_last (by omega) (by omega) (by omega), hsum]
    · split
      · rename_i hone htwo hthree
        have hsum : (n / 4096 * 64 + n / 64 % 64) * 64 + n % 64 = n := by omega
        simp only [List.foldl_cons, List.foldl_nil]
        rw [Reader.step_lead (by omega) (by omega) (lead_three _ (by omega)),
          Reader.step_tail (by omega) (by split <;> omega) (by split <;> omega),
          Reader.step_last (by omega) (by omega) (by omega), hsum]
      · rename_i hone htwo hthree
        have hsum : ((n / 262144 * 64 + n / 4096 % 64) * 64 + n / 64 % 64) * 64 + n % 64 = n := by
          omega
        simp only [List.foldl_cons, List.foldl_nil]
        rw [Reader.step_lead (by omega) (by omega) (lead_four _ (by omega)),
          Reader.step_tail (by omega) (by split <;> omega) (by split <;> omega),
          Reader.step_tail (by omega) (by omega) (by omega),
          Reader.step_last (by omega) (by omega) (by omega), hsum]

theorem foldl_encode (text : List Char) (parts : List (Option Char)) :
    (text.flatMap encodeChar).foldl Reader.step ⟨parts, none⟩ =
      ⟨(text.map some).reverse ++ parts, none⟩ := by
  induction text generalizing parts with
  | nil => rfl
  | cons c rest ih =>
    rw [List.flatMap_cons, List.foldl_append, foldl_encodeChar, ih, List.map_cons,
      List.reverse_cons, List.append_assoc]
    rfl

theorem pieces_encode (text : String) : pieces (encode text) = text.toList.map some := by
  rw [pieces, encode, Reader.start, foldl_encode]
  simp [Reader.finish]

theorem decode_encode (text : String) : decode (encode text) = some text := by
  have hjoin (chars : List Char) : (chars.map some).mapM id = some chars := by
    induction chars with
    | nil => rfl
    | cons c rest ih => simp [ih]
  rw [decode, pieces_encode, hjoin, Option.map_some, String.ofList_toList]

theorem decodeLossy_encode (text : String) : decodeLossy (encode text) = text := by
  have hread : (fun part : Option Char => part.getD '\uFFFD') ∘ some = id := rfl
  rw [decodeLossy, pieces_encode, List.map_map, hread, List.map_id, String.ofList_toList]

/-- Only the line feed has a line feed among its bytes. -/
theorem lineFeed_mem_encodeChar {c : Char} (h : lineFeed ∈ encodeChar c) : c = '\n' := by
  have hbounds := toNat_bounds c
  have hbyte {n : Nat} (hn : n < 0x100) (heq : lineFeed = UInt8.ofNat n) : n = 10 := by
    have hnat := congrArg UInt8.toNat heq
    rw [UInt8.toNat_ofNat_of_lt' hn] at hnat
    exact hnat.symm
  unfold encodeChar at h
  dsimp only at h
  have hten : c.toNat = 10 := by
    split at h
    · exact hbyte (by omega) (List.mem_singleton.mp h)
    · -- every byte of a longer form is at least 0x80
      have hfar {n : Nat} (hlow : 0x80 ≤ n) (hhigh : n < 0x100) (heq : lineFeed = UInt8.ofNat n) :
          c.toNat = 10 := by
        have hten := hbyte hhigh heq
        omega
      split at h
      · simp only [List.mem_cons, List.not_mem_nil, or_false] at h
        rcases h with h | h <;> exact hfar (by omega) (by omega) h
      · split at h
        · simp only [List.mem_cons, List.not_mem_nil, or_false] at h
          rcases h with h | h | h <;> exact hfar (by omega) (by omega) h
        · simp only [List.mem_cons, List.not_mem_nil, or_false] at h
          rcases h with h | h | h | h <;> exact hfar (by omega) (by omega) h
  exact Char.toNat_inj.mp hten

theorem lineFeed_notMem_encode {text : List Char} (h : '\n' ∉ text) :
    lineFeed ∉ text.flatMap encodeChar := by
  intro hmem
  obtain ⟨c, hc, hbyte⟩ := List.mem_flatMap.mp hmem
  rw [lineFeed_mem_encodeChar hbyte] at hc
  exact h hc

end TunnelChain.Utf8
