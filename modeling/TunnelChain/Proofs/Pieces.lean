import Mathlib.Data.List.Induction
import TunnelChain.Wire.Line

/-!
# Text in pieces

Where bytes end between two characters, what follows is read as if it stood alone. A line feed ends
every character that is under way, so that a text can be cut after any of its line feeds.
-/

namespace TunnelChain.Utf8

namespace Reader

variable {reader : Reader} {bytes : Bytes}

/-- The reader with other parts read before. -/
def after (parts : List (Option Char)) (reader : Reader) : Reader :=
  ⟨reader.parts ++ parts, reader.current⟩

theorem first_after (parts : List (Option Char)) (reader : Reader) (byte : UInt8) :
    (reader.after parts).first byte = (reader.first byte).after parts := by
  unfold first
  split
  · rfl
  · cases lead byte.toNat <;> rfl

theorem step_after (parts : List (Option Char)) (reader : Reader) (byte : UInt8) :
    (reader.after parts).step byte = (reader.step byte).after parts := by
  obtain ⟨read, current⟩ := reader
  cases current with
  | none => exact first_after parts ⟨read, none⟩ byte
  | some part =>
    simp only [step, after]
    split
    · split
      · rfl
      · rfl
    · exact first_after parts ⟨none :: read, none⟩ byte

theorem foldl_step_after (parts : List (Option Char)) (reader : Reader) (bytes : Bytes) :
    bytes.foldl step (reader.after parts) = (bytes.foldl step reader).after parts := by
  induction bytes generalizing reader with
  | nil => rfl
  | cons byte rest ih => rw [List.foldl_cons, List.foldl_cons, step_after, ih]

theorem finish_after (parts : List (Option Char)) (reader : Reader) :
    (reader.after parts).finish = parts.reverse ++ reader.finish := by
  obtain ⟨read, current⟩ := reader
  cases current <;> simp [finish, after]

/-- Whether the next byte of the character under way, if there is one, is no ASCII character. -/
def IsTailed (reader : Reader) : Prop :=
  ∀ part ∈ reader.current, 0x80 ≤ part.low

theorem le_low_of_lead {byte : Nat} {part : Partial} (h : lead byte = some part) :
    0x80 ≤ part.low := by
  unfold lead at h
  grind

theorem IsTailed.first (reader : Reader) (byte : UInt8) : (reader.first byte).IsTailed := by
  intro part hpart
  unfold Reader.first at hpart
  split at hpart
  · cases hpart
  · cases hlead : lead byte.toNat with
    | none =>
      rw [hlead] at hpart
      cases hpart
    | some read =>
      rw [hlead] at hpart
      obtain rfl : read = part := Option.some.inj hpart
      exact le_low_of_lead hlead

theorem IsTailed.step (reader : Reader) (byte : UInt8) : (reader.step byte).IsTailed := by
  unfold Reader.step
  cases reader.current with
  | none => exact .first reader byte
  | some part =>
    dsimp only
    split
    · split
      · exact fun part hpart => nomatch hpart
      · intro part hpart
        obtain rfl := Option.some.inj hpart
        exact Nat.le_refl _
    · exact .first _ byte

theorem isTailed_foldl_step (bytes : Bytes) : (bytes.foldl Reader.step start).IsTailed := by
  induction bytes using List.reverseRecOn with
  | nil => exact fun part hpart => nomatch hpart
  | append_singleton bytes byte _ =>
    rw [List.foldl_append]
    exact .step _ byte

/-- A line feed ends the character under way, if there is one. -/
theorem IsTailed.current_step_lineFeed (h : reader.IsTailed) :
    (reader.step lineFeed).current = none := by
  have hfirst (reader : Reader) : (reader.first lineFeed).current = none := rfl
  unfold Reader.step
  cases hcurrent : reader.current with
  | none => exact hfirst reader
  | some part =>
    have hlow := h part hcurrent
    have hbelow : ¬ (part.low ≤ lineFeed.toNat ∧ lineFeed.toNat ≤ part.high) := by
      intro hbounds
      have hten : lineFeed.toNat = 10 := rfl
      omega
    dsimp only
    rw [if_neg hbelow]
    exact hfirst _

end Reader

/-- Whether bytes end between characters. -/
def IsSettled (bytes : Bytes) : Prop :=
  (bytes.foldl Reader.step Reader.start).current = none

variable {bytes : Bytes}

/-- After bytes that end between characters the rest is read as if it stood alone. -/
theorem IsSettled.pieces_append (h : IsSettled bytes) (rest : Bytes) :
    pieces (bytes ++ rest) = pieces bytes ++ pieces rest := by
  have hfinish : pieces bytes = (bytes.foldl Reader.step Reader.start).parts.reverse := by
    rw [pieces, Reader.finish, h]
    rfl
  have hstart : bytes.foldl Reader.step Reader.start =
      Reader.start.after (bytes.foldl Reader.step Reader.start).parts :=
    congrArg (Reader.mk _) h
  rw [hfinish, pieces, List.foldl_append, hstart, Reader.foldl_step_after, Reader.finish_after]
  rfl

theorem isSettled_of_lineFeed (h : bytes.getLast? = some lineFeed) : IsSettled bytes := by
  obtain ⟨earlier, rfl⟩ := List.getLast?_eq_some_iff.mp h
  rw [IsSettled, List.foldl_append]
  exact (Reader.isTailed_foldl_step earlier).current_step_lineFeed

/-- Bytes that are read without a part that is ill-formed end between characters. -/
theorem isSettled_of_pieces (h : none ∉ pieces bytes) : IsSettled bytes := by
  rw [IsSettled]
  by_contra hcurrent
  refine h ?_
  rw [pieces, Reader.finish, if_pos (Option.isSome_iff_ne_none.mpr hcurrent)]
  exact List.mem_reverse.mpr List.mem_cons_self

theorem mapM_id_eq_some_iff {pieces : List (Option Char)} {text : List Char} :
    pieces.mapM id = some text ↔ pieces = text.map some := by
  induction pieces generalizing text with
  | nil =>
    rw [List.mapM_nil, eq_comm (a := []), List.map_eq_nil_iff, eq_comm]
    exact Option.some_inj
  | cons piece rest ih =>
    cases piece with
    | none => cases text <;> simp
    | some c =>
      have hmap : (some c :: rest).mapM id = (rest.mapM id).map (c :: ·) := by
        cases hrest : rest.mapM id <;> simp [hrest]
      rw [hmap, Option.map_eq_some_iff]
      constructor
      · rintro ⟨later, hlater, rfl⟩
        rw [ih.mp hlater, List.map_cons]
      · intro h
        cases text with
        | nil => cases h
        | cons d later =>
          obtain ⟨hc, hlater⟩ := List.cons.inj h
          obtain rfl := Option.some.inj hc
          exact ⟨later, ih.mpr hlater, rfl⟩

/-- Bytes are a text exactly if they are read as its characters, one by one. -/
theorem decode_eq_some_iff {text : String} :
    decode bytes = some text ↔ pieces bytes = text.toList.map some := by
  rw [decode, Option.map_eq_some_iff, ← mapM_id_eq_some_iff]
  constructor
  · rintro ⟨chars, hchars, rfl⟩
    rw [String.toList_ofList]
    exact hchars
  · exact fun hchars => ⟨text.toList, hchars, String.ofList_toList⟩

theorem isSettled_of_decode {text : String} (h : decode bytes = some text) : IsSettled bytes := by
  refine isSettled_of_pieces ?_
  rw [decode_eq_some_iff.mp h]
  simp

/-- Texts one after another are read as one text. -/
theorem pieces_flatten {chunks : List Bytes} {texts : List String}
    (h : chunks.map decode = texts.map some) :
    pieces chunks.flatten = (texts.flatMap String.toList).map some := by
  induction chunks generalizing texts with
  | nil =>
    obtain rfl : texts = [] := by simpa using h.symm
    rfl
  | cons chunk rest ih =>
    cases texts with
    | nil => cases h
    | cons text texts =>
      obtain ⟨hchunk, hrest⟩ := List.cons.inj h
      rw [List.flatten_cons, (isSettled_of_decode hchunk).pieces_append,
        decode_eq_some_iff.mp hchunk, ih hrest, List.flatMap_cons, List.map_append]

end TunnelChain.Utf8
