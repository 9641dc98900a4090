import TunnelChain.Engine.Memory
import TunnelChain.Proofs.Course
import TunnelChain.Proofs.Transport
import TunnelChain.Service.Dispatch

/-!
# How a log travels

The answer to a log query carries a bar for each line break, and whoever hears it puts a line break
for each bar. So a log arrives as it is, but for the bars in it.
-/

namespace TunnelChain

/-! ## Bars and line breaks -/

/-- What a character of a log is once it has arrived. -/
def unbar (c : Char) : Char :=
  if c = '|' then '\n' else c

/-- A text with a line break for each bar. -/
def unbarred (text : String) : String :=
  String.ofList (text.toList.map unbar)

theorem toList_unbarred (text : String) : (unbarred text).toList = text.toList.map unbar :=
  String.toList_ofList

theorem unbar_eq_self_iff {c : Char} : unbar c = c ↔ c ≠ '|' := by
  unfold unbar
  by_cases hbar : c = '|'
  · subst hbar
    decide
  · rw [if_neg hbar]
    exact iff_of_true rfl hbar

/-- A line break that travels as a bar is a line break again. -/
theorem unbar_of_barred (c : Char) : unbar (if c = '\n' then '|' else c) = unbar c := by
  by_cases hbreak : c = '\n'
  · subst hbreak
    rfl
  · rw [if_neg hbreak]

theorem unbarred_eq_self_iff (text : String) : unbarred text = text ↔ '|' ∉ text.toList := by
  calc
    unbarred text = text ↔ text.toList.map unbar = text.toList := by
      rw [← String.toList_inj, toList_unbarred]
    _ ↔ ∀ c ∈ text.toList, unbar c = id c := by rw [← List.map_inj_left, List.map_id]
    _ ↔ ∀ c ∈ text.toList, c ≠ '|' := forall₂_congr fun _ _ => unbar_eq_self_iff
    _ ↔ '|' ∉ text.toList := ⟨fun h hbar => h _ hbar rfl, fun h c hc heq => h (heq ▸ hc)⟩

/-- A log is the text that was written to it. -/
theorem LogBuffer.contents_encode {buffer : LogBuffer} {text : String}
    (h : buffer.data = Utf8.encode text) : buffer.contents = text := by
  rw [contents, h, Utf8.decodeLossy_encode]

variable {τ : Type}

namespace Session

theorem logText_ofLog (text : String) :
    logText (Message.daemon (.ofLog text)).parcel.body = unbarred text := by
  have hnodup := (DaemonMessage.ofLog text).nodup_names
  have hfield : (Message.daemon (.ofLog text)).parcel.body.field? "logs" = _ :=
    Json.field?_sorted hnodup "logs"
  rw [logText, hfield]
  change String.ofList ((String.ofList _).toList.map unbar) = _
  rw [String.toList_ofList, List.map_map, unbarred]
  congr 2
  exact funext unbar_of_barred

theorem handle_logs {session : Session τ} (h : session.phase = .ready) (text : String) :
    session.handle (Message.daemon (.ofLog text)).parcel =
      (Transition.none.withReplies (session.waiting.toList.map fun tag => (tag, unbarred text)),
        { session with waiting := none }) := by
  have hkind : (Message.daemon (.ofLog text)).parcel.kind = "logs" := rfl
  unfold handle
  rw [hkind, if_neg (by decide), if_neg (by simp [h]), if_pos h]
  change session.takeLogs (Message.daemon (.ofLog text)).parcel.body = _
  rw [takeLogs, logText_ofLog]

end Session

/-! ## A client that hears a stream in chunks -/

namespace Client

theorem hearAll_eq_run (client : Client τ) (parcels : List Parcel) :
    client.hearAll parcels =
      ((client.session.run (parcels.map .handle)).1,
        { client with session := (client.session.run (parcels.map .handle)).2 }) := by
  induction parcels generalizing client with
  | nil => rfl
  | cons parcel rest ih =>
    rw [hearAll]
    dsimp only
    rw [ih]
    rfl

def receiveAll (client : Client τ) : List Bytes → Transition τ × Client τ
  | [] => (.none, client)
  | chunk :: rest =>
    let (first, client) := client.receive chunk
    let (second, client) := client.receiveAll rest
    (first.append second, client)

/-- What a stream brings to the session of a client. -/
def brought (client : Client τ) (chunks : List Bytes) : List (Session.Input τ) :=
  (parcels (client.inbox.feedAll chunks).1.flatten).map .handle

theorem receive_eq_run {client : Client τ} (hopen : client.isOpen = true) (chunk : Bytes) :
    ∃ log, client.receive chunk =
      ({ (client.session.run ((parcels (client.inbox.feed chunk).1).map .handle)).1 with log },
        ⟨(client.session.run ((parcels (client.inbox.feed chunk).1).map .handle)).2,
          (client.inbox.feed chunk).2, true⟩) := by
  unfold receive
  rw [if_pos hopen]
  dsimp only
  rw [hearAll_eq_run, hopen]
  exact ⟨_, rfl⟩

theorem brought_cons (client : Client τ) (chunk : Bytes) (rest : List Bytes) (session : Session τ) :
    client.brought (chunk :: rest) =
      (parcels (client.inbox.feed chunk).1).map .handle ++
        brought ⟨session, (client.inbox.feed chunk).2, true⟩ rest := by
  rw [brought, brought, Inbox.feedAll_cons, List.flatten_cons, ← List.map_append]
  exact congrArg _ List.filterMap_append

/-- However a stream is cut, its messages are handled one after another; nothing else is done but
that it is logged. -/
theorem receiveAll_eq_run {client : Client τ} (hopen : client.isOpen = true) (chunks : List Bytes) :
    ∃ log, client.receiveAll chunks =
      ({ (client.session.run (client.brought chunks)).1 with log },
        ⟨(client.session.run (client.brought chunks)).2, (client.inbox.feedAll chunks).2,
          true⟩) := by
  induction chunks generalizing client with
  | nil =>
    obtain ⟨session, inbox, isOpen⟩ := client
    obtain rfl : isOpen = true := hopen
    exact ⟨[], rfl⟩
  | cons chunk rest ih =>
    obtain ⟨first, hfirst⟩ := receive_eq_run hopen chunk
    have hnext : (client.receive chunk).2.isOpen = true := by rw [hfirst]
    obtain ⟨second, hsecond⟩ := ih hnext
    rw [hfirst] at hsecond
    rw [receiveAll, hfirst]
    dsimp only at hsecond ⊢
    rw [hsecond, brought_cons, Session.run_append]
    exact ⟨first ++ second, rfl⟩

/-- A message that comes in chunks to a client with nothing left over from before is all that is
handled. -/
theorem receiveAll_encode {client : Client τ} (hopen : client.isOpen = true)
    (hinbox : client.inbox = .empty) (message : Message) {chunks : List Bytes}
    (h : chunks.flatten = message.encode) :
    ∃ log, client.receiveAll chunks =
      ({ (client.session.handle message.parcel).1 with log },
        { client with session := (client.session.handle message.parcel).2 }) := by
  obtain ⟨hparcels, hrest⟩ := message.brings_encode h
  have hbrought : client.brought chunks = [.handle message.parcel] := by
    rw [brought, hinbox, hparcels]
    rfl
  obtain ⟨log, hlog⟩ := receiveAll_eq_run hopen chunks
  rw [hbrought, hinbox, hrest, ← hinbox, ← hopen] at hlog
  refine ⟨log, hlog.trans ?_⟩
  simp only [Session.run, Session.step, Transition.append_none]

/-- **A log arrives but for its bars.** Whatever the log holds, the answer to a query for it is one
message, which is one line on the wire. However the bytes of this line are cut on their way to a
client that is ready and has a request for the log waiting, they answer this request and do nothing
else: with the log, a line break in the place of each bar, and every other character in its place as
it is. So what arrives is the log exactly if it has no bar. -/
theorem log_arrives {σ : Type} (engine : Engine σ) (now : String) (service : Service σ)
    {query : Parcel} (hquery : query.kind = "logs") {client : Client τ} {tag : τ}
    (hopen : client.isOpen = true) (hinbox : client.inbox = .empty)
    (hready : client.session.phase = .ready) (hwaiting : client.session.waiting = some tag) :
    let text := service.logs.contents
    ∃ message, (service.handle engine now query).1 = [message] ∧
      (∃ line, message.encode = line ++ [lineFeed] ∧ lineFeed ∉ line) ∧
      (∀ chunks, chunks.flatten = message.encode →
        (client.receiveAll chunks).1.replies = [(tag, unbarred text)] ∧
          (client.receiveAll chunks).1.outbound = [] ∧ (client.receiveAll chunks).1.events = [] ∧
          (client.receiveAll chunks).2 =
            { client with session := { client.session with waiting := none } }) ∧
      (∀ i : Nat, (unbarred text).toList[i]? =
        (text.toList[i]?).map fun c => if c = '|' then '\n' else c) ∧
      (unbarred text = text ↔ '|' ∉ text.toList) ∧
      ∀ written, service.logs.data = Utf8.encode written → text = written := by
  refine ⟨.ofLog service.logs.contents, ?_, ?_, ?_, ?_, ?_, ?_⟩
  · simp only [Service.handle, hquery]
    rfl
  · exact ⟨_, (Message.daemon _).encode_eq, (Message.daemon _).lineFeed_notMem_line⟩
  · intro chunks hchunks
    obtain ⟨log, hlog⟩ := receiveAll_encode hopen hinbox (.daemon _) hchunks
    rw [Session.handle_logs hready, hwaiting] at hlog
    rw [hlog]
    exact ⟨rfl, rfl, rfl, rfl⟩
  · intro i
    rw [toList_unbarred, List.getElem?_map]
    rfl
  · exact unbarred_eq_self_iff _
  · intro written hdata
    exact LogBuffer.contents_encode hdata

end Client

/-- A service whose log has a bar, a line break, characters that are escaped, and some that take
several bytes. -/
def withOddLog : Service Memory :=
  { (Service.start Memory.engine ⟨"hl"⟩ 0 .fresh).2 with
    logs := ⟨64, Utf8.encode "a|b\r\n\"\\\u0007 \u00e9 🔑\n"⟩ }

def awaitsLog : Client Nat :=
  ⟨⟨.ready, 1, some 7⟩, .empty, true⟩

theorem log_arrives_withOddLog :
    ∃ message, (withOddLog.handle Memory.engine "now" (Message.client .logs).parcel).1 = [message] ∧
      (awaitsLog.receiveAll (cutAt 30 message.encode)).1.replies =
        [(7, "a\nb\r\n\"\\\u0007 \u00e9 🔑\n")] := by
  have hquery : (Message.client .logs).parcel.kind = "logs" := rfl
  have hopen : awaitsLog.isOpen = true := rfl
  obtain ⟨message, hanswer, -, harrives, -⟩ :=
    Client.log_arrives Memory.engine "now" withOddLog hquery hopen rfl rfl rfl
  have htext : unbarred withOddLog.logs.contents = "a\nb\r\n\"\\\u0007 \u00e9 🔑\n" := by
    decide +kernel
  refine ⟨message, hanswer, ?_⟩
  rw [(harrives _ (flatten_cutAt 30 _)).1, htext]

end TunnelChain
