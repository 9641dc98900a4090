import Mathlib.Data.List.DropRight
import TunnelChain.Wire.Line

/-!
# Framing

A stream is cut into lines at its line feeds, whatever chunks it arrives in: what an inbox holds
between two chunks is the open line of the stream so far, and nothing else.
-/

namespace TunnelChain

/-- The lines of a stream that have their line feed. -/
def completeLines (stream : Bytes) : List Bytes :=
  (stream.splitOn lineFeed).dropLast

/-- What follows the last line feed of a stream. -/
def openLine (stream : Bytes) : Bytes :=
  stream.rtakeWhile (· ≠ lineFeed)

theorem completeLines_append_cons {line : Bytes} (h : lineFeed ∉ line) (rest : Bytes) :
    completeLines (line ++ lineFeed :: rest) = line :: completeLines rest := by
  rw [completeLines, List.splitOn_append_cons_self_of_not_mem h,
    List.dropLast_cons_of_ne_nil (List.splitOn_ne_nil _ _)]
  rfl

/-- The messages among some lines: blanks around a line do not count, and lines that are empty or
are no message are skipped. -/
def parcelsOf (lines : List Bytes) : List Parcel :=
  ((lines.map trimBytes).filter (!·.isEmpty)).filterMap fun line => (Parcel.ofLine line).toOption

theorem parcels_map_receive (lines : List Bytes) :
    parcels (lines.map receive) = parcelsOf lines := by
  have hreceive (line : Bytes) : (receive line).parcel =
      if (trimBytes line).isEmpty then none else (Parcel.ofLine (trimBytes line)).toOption := by
    unfold receive
    dsimp only
    split
    · rfl
    · cases Parcel.ofLine (trimBytes line) <;> rfl
  induction lines with
  | nil => rfl
  | cons line rest ih =>
    unfold parcels parcelsOf at ih ⊢
    rw [List.map_cons, List.filterMap_cons, List.map_cons, List.filter_cons, hreceive, ih]
    cases hempty : (trimBytes line).isEmpty with
    | true => rfl
    | false =>
      simp only [Bool.not_false, if_true, List.filterMap_cons]
      rfl

namespace Inbox

theorem step_lineFeed (done : List Bytes) (unread : Bytes) :
    step (done, unread) lineFeed = (unread.reverse :: done, []) := by
  unfold step
  exact if_pos rfl

theorem step_of_ne {byte : UInt8} (h : byte ≠ lineFeed) (done : List Bytes) (unread : Bytes) :
    step (done, unread) byte = (done, byte :: unread) :=
  if_neg h

theorem foldl_step_done (done : List Bytes) (unread chunk : Bytes) :
    chunk.foldl step (done, unread) =
      ((chunk.foldl step ([], unread)).1 ++ done, (chunk.foldl step ([], unread)).2) := by
  induction chunk generalizing done unread with
  | nil => rfl
  | cons byte rest ih =>
    rw [List.foldl_cons, List.foldl_cons]
    by_cases hbyte : byte = lineFeed
    · rw [hbyte, step_lineFeed, step_lineFeed, ih, ih [unread.reverse], List.append_assoc]
      rfl
    · rw [step_of_ne hbyte, step_of_ne hbyte]
      exact ih done (byte :: unread)

theorem length_foldl_step (unread chunk : Bytes) :
    (chunk.foldl step ([], unread)).1.length = chunk.count lineFeed := by
  induction chunk generalizing unread with
  | nil => rfl
  | cons byte rest ih =>
    rw [List.foldl_cons]
    by_cases hbyte : byte = lineFeed
    · rw [hbyte, step_lineFeed, foldl_step_done, List.length_append, ih, List.count_cons_self]
      rfl
    · rw [step_of_ne hbyte, ih, List.count_cons_of_ne hbyte]

/-- Taking bytes one by one splits them at the line feeds. -/
theorem splitOnPPrepend_eq (unread chunk : Bytes) :
    List.splitOnPPrepend (· == lineFeed) chunk unread =
      (chunk.foldl step ([], unread)).1.reverse ++ [(chunk.foldl step ([], unread)).2.reverse] := by
  induction chunk generalizing unread with
  | nil => rfl
  | cons byte rest ih =>
    rw [List.foldl_cons]
    by_cases hbyte : byte = lineFeed
    · rw [List.splitOnPPrepend_cons_pos (by simpa using hbyte), hbyte, step_lineFeed,
        foldl_step_done, ← List.splitOnPPrepend_nil_right, ih, List.reverse_append]
      rfl
    · rw [List.splitOnPPrepend_cons_neg (by simpa using hbyte), step_of_ne hbyte, ih]

theorem completeLines_eq (stream : Bytes) :
    completeLines stream = (stream.foldl step ([], [])).1.reverse := by
  rw [completeLines, List.splitOn_eq_splitOnP, List.splitOnP_eq_splitOnPPrepend, splitOnPPrepend_eq,
    List.dropLast_concat]

theorem completeLines_prefix (stream chunk : Bytes) :
    completeLines stream <+: completeLines (stream ++ chunk) := by
  rw [completeLines_eq, completeLines_eq, List.foldl_append]
  obtain ⟨done, unread⟩ := stream.foldl step ([], [])
  rw [foldl_step_done, List.reverse_append]
  exact List.prefix_append _ _

theorem openLine_eq (stream : Bytes) :
    openLine stream = (stream.foldl step ([], [])).2.reverse := by
  induction stream using List.reverseRecOn with
  | nil => rfl
  | append_singleton stream byte ih =>
    rw [List.foldl_append, List.foldl_cons, List.foldl_nil]
    unfold openLine at ih ⊢
    by_cases hbyte : byte = lineFeed
    · rw [hbyte, step_lineFeed, List.rtakeWhile_concat_neg _ _ _ (by simp)]
      rfl
    · rw [step_of_ne hbyte, List.rtakeWhile_concat_pos _ _ _ (by simpa using hbyte), ih,
        List.reverse_cons]

theorem pending_injective : Function.Injective pending := by
  rintro ⟨left⟩ ⟨right⟩ h
  exact congrArg mk (List.reverse_injective h)

/-- A chunk completes as many lines as it has line feeds, and gives exactly what these lines
give. -/
theorem feed_law {inbox : Inbox} {stream : Bytes} (h : inbox.pending = openLine stream)
    (chunk : Bytes) :
    ∃ completed, completeLines (stream ++ chunk) = completeLines stream ++ completed ∧
      completed.length = chunk.count lineFeed ∧ (inbox.feed chunk).1 = completed.map receive ∧
      (inbox.feed chunk).2.pending = openLine (stream ++ chunk) := by
  have hunread : inbox.unread = (stream.foldl step ([], [])).2 := by
    rw [openLine_eq] at h
    exact List.reverse_injective h
  refine ⟨(chunk.foldl step ([], inbox.unread)).1.reverse, ?_, ?_, rfl, ?_⟩
  · rw [completeLines_eq, completeLines_eq, List.foldl_append, foldl_step_done, hunread,
      List.reverse_append]
  · rw [List.length_reverse, length_foldl_step]
  · rw [openLine_eq, List.foldl_append, foldl_step_done, ← hunread]
    rfl

/-- What each of some chunks gives, and the inbox after them all. -/
def feedAll (inbox : Inbox) : List Bytes → List (List Receipt) × Inbox
  | [] => ([], inbox)
  | chunk :: rest =>
    let (receipts, next) := inbox.feed chunk
    let (later, last) := next.feedAll rest
    (receipts :: later, last)

theorem feedAll_cons (inbox : Inbox) (chunk : Bytes) (rest : List Bytes) :
    inbox.feedAll (chunk :: rest) =
      ((inbox.feed chunk).1 :: ((inbox.feed chunk).2.feedAll rest).1,
        ((inbox.feed chunk).2.feedAll rest).2) := rfl

theorem feedAll_append (inbox : Inbox) (fed rest : List Bytes) :
    inbox.feedAll (fed ++ rest) =
      ((inbox.feedAll fed).1 ++ ((inbox.feedAll fed).2.feedAll rest).1,
        ((inbox.feedAll fed).2.feedAll rest).2) := by
  induction fed generalizing inbox with
  | nil => rfl
  | cons chunk fed ih => rw [List.cons_append, feedAll_cons, ih, feedAll_cons, List.cons_append]

theorem length_feedAll (inbox : Inbox) (chunks : List Bytes) :
    (inbox.feedAll chunks).1.length = chunks.length := by
  induction chunks generalizing inbox with
  | nil => rfl
  | cons chunk rest ih => rw [feedAll_cons, List.length_cons, List.length_cons, ih]

/-- The inbox holds the open line of the stream so far, and every complete line has been read. -/
theorem feedAll_law (chunks : List Bytes) :
    (empty.feedAll chunks).1.flatten = (completeLines chunks.flatten).map receive ∧
      (empty.feedAll chunks).2.pending = openLine chunks.flatten := by
  induction chunks using List.reverseRecOn with
  | nil => exact ⟨rfl, rfl⟩
  | append_singleton chunks chunk ih =>
    obtain ⟨hreceipts, hpending⟩ := ih
    obtain ⟨completed, hlines, -, hfeed, hnext⟩ := feed_law hpending chunk
    rw [feedAll_append, feedAll_cons, List.flatten_append, List.flatten_append, hreceipts, hfeed,
      List.flatten_singleton, hlines, List.map_append]
    exact ⟨by simp [feedAll], hnext⟩

/-- **Framing.** Whatever chunks a stream arrives in, the messages are those of its complete lines;
each chunk gives the messages of the lines whose line feeds it brings, and leaves the bytes after
the last line feed so far. So chunks of the same bytes give the same messages and leave the same
inbox. -/
theorem feedAll_spec (chunks : List Bytes) :
    parcels (empty.feedAll chunks).1.flatten = parcelsOf (completeLines chunks.flatten) ∧
      (∀ fed chunk rest, chunks = fed ++ chunk :: rest →
        ∃ receipts completed, (empty.feedAll chunks).1[fed.length]? = some receipts ∧
          completeLines (fed.flatten ++ chunk) = completeLines fed.flatten ++ completed ∧
          completed.length = chunk.count lineFeed ∧ parcels receipts = parcelsOf completed ∧
          (empty.feedAll (fed ++ [chunk])).2.pending = openLine (fed.flatten ++ chunk)) ∧
      ∀ others : List Bytes, others.flatten = chunks.flatten →
        parcels (empty.feedAll others).1.flatten = parcels (empty.feedAll chunks).1.flatten ∧
          (empty.feedAll others).2 = (empty.feedAll chunks).2 := by
  refine ⟨?_, ?_, ?_⟩
  · rw [(feedAll_law chunks).1, parcels_map_receive]
  · rintro fed chunk rest rfl
    obtain ⟨completed, hlines, hcount, hfeed, hnext⟩ := feed_law (feedAll_law fed).2 chunk
    refine ⟨((empty.feedAll fed).2.feed chunk).1, completed, ?_, hlines, hcount, ?_, ?_⟩
    · rw [feedAll_append, feedAll_cons, List.getElem?_append_right (length_feedAll _ _).le,
        length_feedAll, Nat.sub_self, List.getElem?_cons_zero]
    · rw [hfeed, parcels_map_receive]
    · rw [feedAll_append]
      exact hnext
  · intro others hothers
    obtain ⟨hreceipts, hpending⟩ := feedAll_law chunks
    obtain ⟨hreceipts', hpending'⟩ := feedAll_law others
    rw [hothers] at hreceipts' hpending'
    exact ⟨by rw [hreceipts, hreceipts'], pending_injective (hpending'.trans hpending.symm)⟩

end Inbox

end TunnelChain
