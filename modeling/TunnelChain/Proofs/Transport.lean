import Mathlib.Data.List.Forall2
import TunnelChain.Proofs.Framing
import TunnelChain.Proofs.Json.Printing
import TunnelChain.Proofs.Message
import TunnelChain.Proofs.Utf8

/-!
# Transport

Messages that are written one after another arrive as they are, whatever chunks their bytes are cut
into: each is one line, and this line reads as the message.
-/

namespace TunnelChain

open Json

theorem trimBy_eq_self {α : Type} {p : α → Bool} {xs : List α} (hhead : ∀ x ∈ xs.head?, p x = false)
    (hlast : ∀ x ∈ xs.getLast?, p x = false) : trimBy p xs = xs := by
  have hdrop (ys : List α) (hys : ∀ y ∈ ys.head?, p y = false) : ys.dropWhile p = ys := by
    cases ys with
    | nil => rfl
    | cons y rest => exact List.dropWhile_cons_of_neg (by simp [hys y rfl])
  rw [trimBy, hdrop xs hhead, hdrop xs.reverse (by rwa [List.head?_reverse]), List.reverse_reverse]

theorem trimBytes_encode_obj (fields : List (String × Json)) :
    trimBytes (Utf8.encode (Json.obj fields).text) = Utf8.encode (Json.obj fields).text ∧
      Utf8.encode (Json.obj fields).text ≠ [] := by
  obtain ⟨inner, hinner⟩ := chars_obj fields
  have hbytes : Utf8.encode (Json.obj fields).text =
      0x7B :: (inner.flatMap Utf8.encodeChar ++ [0x7D]) := by
    rw [Utf8.encode, text, String.toList_ofList, hinner, List.cons_append, List.flatMap_cons,
      List.flatMap_append]
    rfl
  rw [hbytes]
  refine ⟨trimBy_eq_self ?_ ?_, List.cons_ne_nil _ _⟩
  · rintro _ ⟨⟩
    decide
  · rw [← List.cons_append, List.getLast?_concat]
    rintro _ ⟨⟩
    decide

/-- Whether these chunks bring this parcel and no other, and leave nothing over. -/
def Brings (chunks : List Bytes) (parcel : Parcel) : Prop :=
  parcels (Inbox.empty.feedAll chunks).1.flatten = [parcel] ∧
    (Inbox.empty.feedAll chunks).2 = Inbox.empty

/-- Two chunks of a stream, and between them one that brings nothing. -/
def cutAt (size : Nat) (stream : Bytes) : List Bytes :=
  [stream.take size, [], stream.drop size]

theorem flatten_cutAt (size : Nat) (stream : Bytes) : (cutAt size stream).flatten = stream := by
  rw [cutAt, List.flatten_cons, List.flatten_cons, List.flatten_singleton, List.nil_append,
    List.take_append_drop]

/-- A message of either side. -/
inductive Message where
  | client (message : ClientMessage)
  | daemon (message : DaemonMessage)

namespace Message

def toJson : Message → Json
  | .client message => message.toJson
  | .daemon message => message.toJson

def kind : Message → String
  | .client message => message.kind
  | .daemon message => message.kind

def encode : Message → Bytes
  | .client message => message.encode
  | .daemon message => message.encode

/-- Whether a parcel is of the message's kind and is read as the message. -/
def Arrives (message : Message) (parcel : Parcel) : Prop :=
  parcel.kind = message.kind ∧
    match message with
    | .client message => parcel.client = .ok message
    | .daemon message => parcel.daemon = .ok message

def line (message : Message) : Bytes :=
  Utf8.encode message.toJson.text

def parcel (message : Message) : Parcel :=
  ⟨message.kind, message.toJson.sorted⟩

variable (message : Message)

theorem encode_eq : message.encode = message.line ++ [lineFeed] := by
  cases message <;> rfl

theorem exists_fields : ∃ fields, message.toJson = .obj (("type", .str message.kind) :: fields) ∧
    ((("type", Json.str message.kind) :: fields).map (·.1)).Nodup := by
  cases message with
  | client message => exact ⟨message.fields, rfl, message.nodup_names⟩
  | daemon message => exact ⟨message.fields, rfl, message.nodup_names⟩

theorem faithful_toJson : Faithful maxDepth message.toJson := by
  cases message with
  | client message => exact message.faithful_toJson 124
  | daemon message => exact message.faithful_toJson 124

theorem lineFeed_notMem_line : lineFeed ∉ message.line := by
  rw [line, Utf8.encode, text, String.toList_ofList]
  exact Utf8.lineFeed_notMem_encode (lineFeed_notMem_chars message.faithful_toJson)

theorem trimBytes_line : trimBytes message.line = message.line ∧ message.line ≠ [] := by
  obtain ⟨fields, hfields, -⟩ := message.exists_fields
  rw [line, hfields]
  exact trimBytes_encode_obj _

theorem ofLine_line : Parcel.ofLine message.line = .ok message.parcel := by
  obtain ⟨fields, hfields, hnodup⟩ := message.exists_fields
  have htype : (message.toJson.sorted.field? "type").bind text? = some message.kind := by
    rw [hfields, field?_sorted hnodup, List.lookup_cons_self]
    rfl
  have hobject : message.toJson.sorted.isObject = true := by
    rw [hfields]
    rfl
  rw [Parcel.ofLine, line, Utf8.decode_encode, Option.bind_some,
    parse?_text message.faithful_toJson]
  simp only [hobject, if_true, htype]
  rfl

theorem arrives_parcel : message.Arrives message.parcel := by
  refine ⟨rfl, ?_⟩
  cases message with
  | client message =>
    change (ClientMessage.ofJson message.toJson.sorted).mapError LineError.badField = .ok message
    rw [message.ofJson_sorted]
    rfl
  | daemon message =>
    change (DaemonMessage.ofJson message.toJson.sorted).mapError LineError.badField = .ok message
    rw [message.ofJson_sorted]
    rfl

theorem completeLines_flatMap_encode (messages : List Message) :
    completeLines (messages.flatMap encode) = messages.map line := by
  induction messages with
  | nil => rfl
  | cons message rest ih =>
    rw [List.flatMap_cons, encode_eq, List.append_assoc, List.singleton_append,
      completeLines_append_cons message.lineFeed_notMem_line, ih, List.map_cons]

theorem openLine_flatMap_encode (messages : List Message) :
    openLine (messages.flatMap encode) = [] := by
  induction messages using List.reverseRecOn with
  | nil => rfl
  | append_singleton messages message _ =>
    rw [List.flatMap_append, List.flatMap_singleton, encode_eq, ← List.append_assoc, openLine]
    exact List.rtakeWhile_concat_neg _ _ _ (by simp)

theorem parcelsOf_map_line (messages : List Message) :
    parcelsOf (messages.map line) = messages.map parcel := by
  induction messages with
  | nil => rfl
  | cons message rest ih =>
    obtain ⟨htrim, hne⟩ := message.trimBytes_line
    unfold parcelsOf at ih ⊢
    rw [List.map_cons, List.map_cons, htrim, List.filter_cons_of_pos (by simpa using hne),
      List.filterMap_cons, ofLine_line, ih, List.map_cons]
    rfl

/-- The parcels of messages that arrive in chunks, and what is left over: nothing. -/
theorem parcels_feedAll {messages : List Message} {chunks : List Bytes}
    (h : chunks.flatten = messages.flatMap encode) :
    parcels (Inbox.empty.feedAll chunks).1.flatten = messages.map parcel ∧
      (Inbox.empty.feedAll chunks).2 = Inbox.empty := by
  obtain ⟨hreceipts, hpending⟩ := Inbox.feedAll_law chunks
  rw [h, completeLines_flatMap_encode] at hreceipts
  rw [h, openLine_flatMap_encode] at hpending
  exact ⟨by rw [hreceipts, parcels_map_receive, parcelsOf_map_line],
    Inbox.pending_injective hpending⟩

theorem brings_encode {chunks : List Bytes} (h : chunks.flatten = message.encode) :
    Brings chunks message.parcel := by
  have hstream : chunks.flatten = [message].flatMap encode := by rw [h, List.flatMap_singleton]
  exact parcels_feedAll hstream

theorem feed_encode :
    parcels (Inbox.empty.feed message.encode).1 = [message.parcel] ∧
      (Inbox.empty.feed message.encode).2 = Inbox.empty := by
  have hbrings := message.brings_encode List.flatten_singleton
  simpa [Brings, Inbox.feedAll] using hbrings

/-- **Transport.** The bytes of any messages, one after another and in whatever chunks, give exactly
these messages in order and leave nothing behind; each message has one line feed, at its end. -/
theorem arrive_in_order {messages : List Message} {chunks : List Bytes}
    (h : chunks.flatten = messages.flatMap encode) :
    List.Forall₂ Arrives messages (parcels (Inbox.empty.feedAll chunks).1.flatten) ∧
      (Inbox.empty.feedAll chunks).2.pending = [] ∧
      ∀ message : Message, ∃ line, message.encode = line ++ [lineFeed] ∧ lineFeed ∉ line := by
  obtain ⟨hreceipts, hpending⟩ := Inbox.feedAll_law chunks
  rw [h, completeLines_flatMap_encode] at hreceipts
  rw [h, openLine_flatMap_encode] at hpending
  refine ⟨?_, hpending, fun message => ⟨_, message.encode_eq, message.lineFeed_notMem_line⟩⟩
  rw [hreceipts, parcels_map_receive, parcelsOf_map_line, List.forall₂_map_right_iff,
    List.forall₂_same]
  exact fun message _ => message.arrives_parcel

/-- A message of each side, with characters that are escaped and some that take several bytes. -/
def twoMessages : List Message :=
  [.client (.deactivate (some 2)), .daemon (.logs "a\n\"b\"|\\ \u0007 \u00e9 🔑")]

/-- Their bytes, cut within the first `type` and within the last character. -/
def twoMessagesCut : List Bytes :=
  let stream := twoMessages.flatMap encode
  [stream.take 5, [], (stream.drop 5).take 77, stream.drop 82]

theorem arrive_in_order_cut :
    twoMessagesCut.flatten = twoMessages.flatMap encode ∧
      List.Forall₂ Arrives twoMessages (parcels (Inbox.empty.feedAll twoMessagesCut).1.flatten) ∧
      (Inbox.empty.feedAll twoMessagesCut).2.pending = [] ∧
      ∀ message : Message, ∃ line, message.encode = line ++ [lineFeed] ∧ lineFeed ∉ line := by
  have hcut : twoMessagesCut.flatten = twoMessages.flatMap encode := by decide +kernel
  exact ⟨hcut, arrive_in_order hcut⟩

end Message

end TunnelChain
