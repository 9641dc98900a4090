import TunnelChain.Log.Buffer
import TunnelChain.Proofs.Framing
import TunnelChain.Proofs.Pieces

/-!
# What a log buffer holds

A buffer holds a window on the newest log: never more than it has room for, always the end of what
has been logged since it was last cleared, and whole lines and characters if these are logged whole.
Lines are evicted up to the first line feed after the excess, so that where the excess ends with a
line itself, the next line goes with it in vain.
-/

namespace TunnelChain

/-! ## Lines at the end of some bytes -/

/-- Whether some bytes are the end of others, from the start of a line on. -/
def IsLineTail (kept bytes : Bytes) : Prop :=
  ∃ dropped, bytes = dropped ++ kept ∧ ∀ last ∈ dropped.getLast?, last = lineFeed

variable {bytes kept other : Bytes}

theorem IsLineTail.refl (bytes : Bytes) : IsLineTail bytes bytes :=
  ⟨[], rfl, fun _ hlast => nomatch hlast⟩

theorem isLineTail_of_append (dropped kept : Bytes) :
    IsLineTail kept (dropped ++ lineFeed :: kept) := by
  refine ⟨dropped ++ [lineFeed], by simp, fun last hlast => ?_⟩
  rw [List.getLast?_concat] at hlast
  exact (Option.some.inj hlast).symm

theorem isLineTail_nil (h : ∀ last ∈ bytes.getLast?, last = lineFeed) : IsLineTail [] bytes :=
  ⟨bytes, (List.append_nil bytes).symm, h⟩

/-- What follows the first line feed is the longest that follows any. -/
theorem length_le_of_first {line front : Bytes} (hline : lineFeed ∉ line)
    (h : line ++ lineFeed :: kept = front ++ lineFeed :: other) : other.length ≤ kept.length := by
  obtain ⟨between, -, hrest⟩ | ⟨between, rfl, hrest⟩ := List.append_eq_append_iff.mp h
  · have hlength := congrArg List.length hrest
    rw [List.length_append, List.length_cons, List.length_cons] at hlength
    omega
  · cases between with
    | nil => exact (List.cons.inj hrest).2 ▸ Nat.le_refl _
    | cons byte between =>
      obtain ⟨rfl, -⟩ := List.cons.inj hrest
      exact absurd (List.mem_append_right _ List.mem_cons_self) hline

namespace IsLineTail

theorem suffix (h : IsLineTail kept bytes) : kept <:+ bytes := by
  obtain ⟨dropped, rfl, -⟩ := h
  exact List.suffix_append _ _

theorem append (h : IsLineTail kept bytes) (more : Bytes) :
    IsLineTail (kept ++ more) (bytes ++ more) := by
  obtain ⟨dropped, rfl, hlast⟩ := h
  exact ⟨dropped, List.append_assoc _ _ _, hlast⟩

theorem trans (h : IsLineTail other kept) (hkept : IsLineTail kept bytes) :
    IsLineTail other bytes := by
  obtain ⟨first, rfl, hfirst⟩ := hkept
  obtain ⟨second, rfl, hsecond⟩ := h
  refine ⟨first ++ second, (List.append_assoc _ _ _).symm, fun last hlast => ?_⟩
  rw [List.getLast?_append] at hlast
  cases hend : second.getLast? with
  | none =>
    rw [hend] at hlast
    exact hfirst last hlast
  | some byte =>
    rw [hend] at hlast
    exact hsecond last (hend ▸ hlast)

/-- A tail of whole lines is whole lines. -/
theorem eq_lineFeed (h : IsLineTail kept bytes) (hlast : ∀ last ∈ bytes.getLast?, last = lineFeed) :
    ∀ last ∈ kept.getLast?, last = lineFeed := by
  obtain ⟨dropped, rfl, -⟩ := h
  intro last hkept
  refine hlast last ?_
  rw [List.getLast?_append, hkept]
  rfl

/-- Before a tail that leaves some of the room at the end of some bytes, this room has a line feed,
unless the tail is empty. -/
theorem exists_front (h : IsLineTail kept bytes) {room : Nat} (hkept : kept.length ≤ room - 1)
    (hroom : room ≤ bytes.length) :
    kept = [] ∨ ∃ front, bytes.drop (bytes.length - room) = front ++ lineFeed :: kept := by
  obtain rfl | hpos := Nat.eq_zero_or_pos room
  · exact .inl (List.eq_nil_of_length_eq_zero (Nat.le_zero.mp hkept))
  refine .inr ?_
  obtain ⟨dropped, rfl, hlast⟩ := h
  rw [List.length_append] at hroom ⊢
  cases dropped using List.reverseRecOn with
  | nil =>
    rw [List.length_nil] at hroom
    omega
  | append_singleton front last =>
    obtain rfl := hlast last (List.getLast?_concat ..)
    rw [List.length_append, List.length_singleton] at hroom ⊢
    refine ⟨front.drop (front.length + 1 + kept.length - room), ?_⟩
    rw [List.append_assoc, List.drop_append_of_le_length (by omega)]
    rfl

/-- The lines of a tail are the last lines of the whole. -/
theorem completeLines_suffix (h : IsLineTail kept bytes) :
    completeLines kept <:+ completeLines bytes := by
  obtain ⟨dropped, rfl, hlast⟩ := h
  cases dropped using List.reverseRecOn with
  | nil => exact List.suffix_rfl
  | append_singleton front last =>
    obtain rfl := hlast last (List.getLast?_concat ..)
    have hlines := Inbox.completeLines_eq (front ++ [lineFeed] ++ kept)
    rw [List.foldl_append, List.foldl_append, List.foldl_cons, List.foldl_nil, Inbox.step_lineFeed,
      Inbox.foldl_step_done, List.reverse_append, ← Inbox.completeLines_eq] at hlines
    exact ⟨_, hlines.symm⟩

/-- The characters of a tail are the last characters of the whole. -/
theorem pieces_suffix (h : IsLineTail kept bytes) : Utf8.pieces kept <:+ Utf8.pieces bytes := by
  obtain ⟨dropped, rfl, hlast⟩ := h
  cases hend : dropped.getLast? with
  | none =>
    rw [List.getLast?_eq_none_iff.mp hend]
    exact List.suffix_rfl
  | some last =>
    obtain rfl := hlast last hend
    rw [(Utf8.isSettled_of_lineFeed hend).pieces_append]
    exact List.suffix_append _ _

end IsLineTail

/-- Whether some bytes are the longest end of others that there is room for and that starts a line,
or nothing where there is none. -/
structure IsWindow (room : Nat) (bytes kept : Bytes) : Prop where
  fits : kept.length ≤ room
  tail : kept = [] ∨ IsLineTail kept bytes
  longest : ∀ other, IsLineTail other bytes → other.length ≤ room → other.length ≤ kept.length

theorem IsWindow.suffix {room : Nat} (h : IsWindow room bytes kept) : kept <:+ bytes := by
  obtain rfl | htail := h.tail
  · exact List.nil_suffix
  · exact htail.suffix

theorem IsWindow.isLineTail {room : Nat} (h : IsWindow room bytes kept)
    (hlast : ∀ last ∈ bytes.getLast?, last = lineFeed) : IsLineTail kept bytes := by
  obtain rfl | htail := h.tail
  · exact isLineTail_nil hlast
  · exact htail

namespace LogBuffer

/-! ## Eviction -/

variable {capacity : Nat} {data : Bytes}

theorem evict_of_le (h : data.length ≤ capacity) : evict capacity data = data :=
  if_pos h

/-- What does not fit is cut after the first line feed that follows the excess, or dropped whole if
there is none. -/
theorem evict_of_lt (h : capacity < data.length) :
    (lineFeed ∉ data.drop (data.length - capacity) ∧ evict capacity data = []) ∨
      ∃ line, data.drop (data.length - capacity) = line ++ lineFeed :: evict capacity data ∧
        lineFeed ∉ line := by
  have hevict : evict capacity data =
      ((data.drop (data.length - capacity)).dropWhile (· ≠ lineFeed)).drop 1 :=
    if_neg (Nat.not_le.mpr h)
  rw [hevict]
  generalize data.drop (data.length - capacity) = newest
  by_cases hmem : lineFeed ∈ newest
  · obtain ⟨line, rest, rfl, hline⟩ := List.eq_append_cons_of_mem hmem
    have hpass : ∀ byte ∈ line, decide (byte ≠ lineFeed) = true :=
      fun byte hbyte => decide_eq_true fun heq => hline (heq ▸ hbyte)
    refine .inr ⟨line, ?_, hline⟩
    rw [List.dropWhile_append_of_pos hpass, List.dropWhile_cons_of_neg (by simp)]
    rfl
  · refine .inl ⟨hmem, ?_⟩
    have hpass : newest.dropWhile (· ≠ lineFeed) = [] :=
      List.dropWhile_eq_nil_iff.mpr fun byte hbyte => decide_eq_true fun heq => hmem (heq ▸ hbyte)
    rw [hpass, List.drop_nil]

/-- Where bytes have to go, what is kept is the longest end from a line on that leaves some room. -/
theorem isWindow_evict (capacity : Nat) (data : Bytes) :
    IsWindow (if data.length ≤ capacity then
      capacity else capacity - 1) data (evict capacity data) := by
  by_cases hfits : data.length ≤ capacity
  · rw [if_pos hfits, evict_of_le hfits]
    exact ⟨hfits, .inr (.refl data), fun other hother _ => hother.suffix.length_le⟩
  rw [if_neg hfits]
  have hlt := Nat.lt_of_not_le hfits
  obtain ⟨hnone, hempty⟩ | ⟨line, hnewest, hline⟩ := evict_of_lt hlt
  · rw [hempty]
    refine ⟨Nat.zero_le _, .inl rfl, fun other hother hroom => ?_⟩
    obtain rfl | ⟨front, hfront⟩ := hother.exists_front hroom hlt.le
    · exact Nat.le_refl _
    · exact absurd (hfront ▸ List.mem_append_right _ List.mem_cons_self) hnone
  · generalize evict capacity data = kept at hnewest ⊢
    have hlength := congrArg List.length hnewest
    rw [List.length_drop, List.length_append, List.length_cons] at hlength
    refine ⟨by omega, .inr ?_, fun other hother hroom => ?_⟩
    · rw [← List.take_append_drop (data.length - capacity) data, hnewest, ← List.append_assoc]
      exact isLineTail_of_append _ _
    · obtain rfl | ⟨front, hfront⟩ := hother.exists_front hroom hlt.le
      · exact Nat.zero_le _
      · exact length_le_of_first hline (hnewest.symm.trans hfront)

/-- **Eviction.** After bytes have been appended, a buffer holds as many whole lines as it has room
for, unless some have to go and the newest bytes that it has room for start with a line: then it
holds as many as leave some room, and the first of these lines is lost in vain. -/
theorem isWindow_append_iff (buffer : LogBuffer) (bytes : Bytes) :
    let grown := buffer.data ++ bytes
    let newest := grown.drop (grown.length - buffer.capacity)
    let kept := (buffer.append bytes).data
    (IsWindow buffer.capacity grown kept ↔
      ¬ (0 < buffer.capacity ∧ buffer.capacity < grown.length ∧ IsLineTail newest grown)) ∧
    (buffer.capacity < grown.length → IsWindow (buffer.capacity - 1) grown kept) := by
  intro grown newest kept
  have hwindow :
      IsWindow (if grown.length ≤ buffer.capacity then buffer.capacity else buffer.capacity - 1)
      grown kept := isWindow_evict buffer.capacity grown
  have hroomless (hlt : buffer.capacity < grown.length) :
      IsWindow (buffer.capacity - 1) grown kept := by
    rwa [if_neg (Nat.not_le.mpr hlt)] at hwindow
  have hnewest (hlt : buffer.capacity < grown.length) : newest.length = buffer.capacity := by
    rw [List.length_drop]
    omega
  refine ⟨⟨?_, fun hnot => ?_⟩, hroomless⟩
  · rintro hkept ⟨hpos, hlt, htail⟩
    have hlongest := hkept.longest newest htail (hnewest hlt).le
    have hfits := (hroomless hlt).fits
    rw [hnewest hlt] at hlongest
    omega
  · by_cases hfits : grown.length ≤ buffer.capacity
    · rwa [if_pos hfits] at hwindow
    have hlt := Nat.lt_of_not_le hfits
    have hkept := hroomless hlt
    refine ⟨hkept.fits.trans (Nat.sub_le _ _), hkept.tail, fun other hother hroom => ?_⟩
    obtain hless | heq := hroom.lt_or_eq
    · exact hkept.longest other hother (Nat.le_sub_one_of_lt hless)
    · -- the one end of this length is `newest`, which starts a line only if it is empty
      obtain rfl : other = newest := by
        rw [List.suffix_iff_eq_drop.mp hother.suffix, heq]
      have hzero : buffer.capacity = 0 := by
        by_contra hpos
        exact hnot ⟨Nat.pos_of_ne_zero hpos, hlt, hother⟩
      rw [heq, hzero]
      exact Nat.zero_le _

/-- Two lines fill the buffer, and a third of their length comes. -/
def twoLines : LogBuffer :=
  ((empty 10).append (Utf8.encode "aaaa\n")).append (Utf8.encode "bbbb\n")

/-- The last two of three lines are as long as the buffer, but only one of them is held. -/
theorem not_isWindow_thirdLine :
    twoLines.contents = "aaaa\nbbbb\n" ∧ (Utf8.encode "bbbb\ncccc\n").length = twoLines.capacity ∧
      (twoLines.append (Utf8.encode "cccc\n")).contents = "cccc\n" ∧
      ¬ IsWindow twoLines.capacity (twoLines.data ++ Utf8.encode "cccc\n")
        (twoLines.append (Utf8.encode "cccc\n")).data := by
  refine ⟨by decide +kernel, by decide +kernel, by decide +kernel, fun hwindow => ?_⟩
  have htail : IsLineTail (Utf8.encode "bbbb\ncccc\n") (twoLines.data ++ Utf8.encode "cccc\n") :=
    ⟨Utf8.encode "aaaa\n", by decide +kernel, by decide +kernel⟩
  exact absurd (hwindow.longest _ htail (by decide +kernel)) (by decide +kernel)

/-! ## Runs -/

/-- What can be done to a buffer: bytes come as they are or through a writer, or it is cleared. -/
inductive Deed where
  | append (bytes : Bytes)
  | write (bytes : Bytes)
  | clear

def undergo (buffer : LogBuffer) : Deed → LogBuffer
  | .append bytes => buffer.append bytes
  | .write bytes => (buffer.write bytes).2
  | .clear => buffer.clear

/-- What has been appended since the last clearing, one by one, after one deed more. -/
def record (chunks : List Bytes) : Deed → List Bytes
  | .append bytes => chunks ++ [bytes]
  | .write bytes => chunks ++ [bytes]
  | .clear => []

/-- Whether all that was appended ended with a line. -/
def WholeLines (chunks : List Bytes) : Prop :=
  ∀ chunk ∈ chunks, chunk.getLast? = some lineFeed

theorem WholeLines.eq_lineFeed {chunks : List Bytes} (h : WholeLines chunks) :
    ∀ last ∈ chunks.flatten.getLast?, last = lineFeed := by
  intro last hlast
  cases chunks using List.reverseRecOn with
  | nil => cases hlast
  | append_singleton chunks chunk =>
    have hchunk : chunk.getLast? = some lineFeed := h chunk List.mem_concat_self
    rw [List.flatten_append, List.flatten_singleton, List.getLast?_append, hchunk] at hlast
    exact (Option.some.inj hlast).symm

/-- What a buffer has to do with all that was appended since it was last cleared. -/
structure Keeps (buffer : LogBuffer) (chunks : List Bytes) : Prop where
  fits : buffer.data.length ≤ buffer.capacity
  suffix : buffer.data <:+ chunks.flatten
  tail : WholeLines chunks → IsLineTail buffer.data chunks.flatten

namespace Keeps

variable {buffer : LogBuffer} {chunks : List Bytes}

theorem of_nil (capacity : Nat) : Keeps ⟨capacity, []⟩ [] :=
  ⟨Nat.zero_le _, List.nil_suffix, fun _ => .refl []⟩

theorem append (h : buffer.Keeps chunks) (bytes : Bytes) :
    (buffer.append bytes).Keeps (chunks ++ [bytes]) := by
  have hwindow := isWindow_evict buffer.capacity (buffer.data ++ bytes)
  have hflatten : (chunks ++ [bytes]).flatten = chunks.flatten ++ bytes := by
    rw [List.flatten_append, List.flatten_singleton]
  refine ⟨hwindow.fits.trans ?_, ?_, fun hwhole => ?_⟩
  · change _ ≤ buffer.capacity
    split <;> omega
  · obtain ⟨dropped, hdropped⟩ := h.suffix
    rw [hflatten, ← hdropped, List.append_assoc]
    exact hwindow.suffix.trans (List.suffix_append _ _)
  · obtain ⟨hearlier, hlast⟩ := List.forall_mem_append.mp hwhole
    rw [hflatten]
    refine (hwindow.isLineTail fun last hmem => ?_).trans ((h.tail hearlier).append bytes)
    rw [List.getLast?_append, hlast bytes (List.mem_singleton.mpr rfl)] at hmem
    exact (Option.some.inj hmem).symm

theorem undergo (h : buffer.Keeps chunks) (deed : Deed) :
    (buffer.undergo deed).Keeps (record chunks deed) := by
  cases deed with
  | append bytes => exact h.append bytes
  | write bytes => exact h.append bytes
  | clear => exact of_nil buffer.capacity

end Keeps

theorem keeps_foldl (capacity : Nat) (deeds : List Deed) :
    (deeds.foldl undergo (empty capacity)).capacity = capacity ∧
      (deeds.foldl undergo (empty capacity)).Keeps (deeds.foldl record []) := by
  induction deeds using List.reverseRecOn with
  | nil => exact ⟨rfl, .of_nil capacity⟩
  | append_singleton deeds deed ih =>
    rw [List.foldl_append, List.foldl_append]
    refine ⟨?_, ih.2.undergo deed⟩
    cases deed <;> exact ih.1

/-- What ends with a line leaves none open. -/
theorem openLine_eq_nil (h : ∀ last ∈ bytes.getLast?, last = lineFeed) : openLine bytes = [] := by
  refine List.rtakeWhile_eq_nil_iff.mpr fun hne => ?_
  rw [h (bytes.getLast hne) (List.getLast?_eq_some_getLast hne)]
  simp

/-- Where the whole is a text, so is any end of it that starts a line, and reads as the end of that
text. -/
theorem decode_of_isLineTail (h : IsLineTail kept bytes) {text : List Char}
    (hbytes : Utf8.pieces bytes = text.map some) :
    Utf8.decode kept = some (Utf8.decodeLossy kept) ∧ (Utf8.decodeLossy kept).toList <:+ text := by
  have hkept := h.pieces_suffix
  rw [hbytes, List.suffix_iff_eq_drop, ← List.map_drop] at hkept
  generalize (text.map some).length - (Utf8.pieces kept).length = dropped at hkept
  have hlossy : (Utf8.decodeLossy kept).toList = text.drop dropped := by
    have hread : (fun part : Option Char => part.getD '\uFFFD') ∘ some = id := rfl
    rw [Utf8.decodeLossy, hkept, List.map_map, hread, List.map_id, String.toList_ofList]
  refine ⟨Utf8.decode_eq_some_iff.mpr ?_, ?_⟩
  · rw [hlossy, hkept]
  · rw [hlossy]
    exact List.drop_suffix _ _

/-- **The log window.** Whatever is done to a buffer, it never holds more than it has room for, and
what it holds is the end of all that was appended since it was last cleared. If all this was whole
lines, so is what the buffer holds: the newest of these lines, and no part of another. If it was
text besides, so is what the buffer holds, and it reads as the end of that text, without a character
that was not logged. -/
theorem holds_newest (capacity : Nat) (deeds : List Deed) :
    let buffer := deeds.foldl undergo (empty capacity)
    let chunks := deeds.foldl record []
    buffer.data.length ≤ capacity ∧ buffer.data <:+ chunks.flatten ∧
      (WholeLines chunks →
        IsLineTail buffer.data chunks.flatten ∧ openLine buffer.data = [] ∧
        completeLines buffer.data <:+ completeLines chunks.flatten ∧
        ∀ texts : List String, chunks.map Utf8.decode = texts.map some →
          Utf8.decode buffer.data = some buffer.contents ∧
          buffer.contents.toList <:+ texts.flatMap String.toList ∧
          ('\uFFFD' ∈ buffer.contents.toList → ∃ text ∈ texts, '\uFFFD' ∈ text.toList)) := by
  intro buffer chunks
  obtain ⟨hcapacity, hkeeps⟩ := keeps_foldl capacity deeds
  refine ⟨hkeeps.fits.trans hcapacity.le, hkeeps.suffix, fun hwhole => ?_⟩
  have htail : IsLineTail buffer.data chunks.flatten := hkeeps.tail hwhole
  refine ⟨htail, openLine_eq_nil (htail.eq_lineFeed hwhole.eq_lineFeed), htail.completeLines_suffix,
    fun texts htexts => ?_⟩
  obtain ⟨hdecode, hcontents⟩ := decode_of_isLineTail htail (Utf8.pieces_flatten htexts)
  exact ⟨hdecode, hcontents, fun hmem => List.mem_flatMap.mp (hcontents.subset hmem)⟩

end LogBuffer

end TunnelChain
