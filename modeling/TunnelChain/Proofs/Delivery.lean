import TunnelChain.Proofs.Table
import TunnelChain.Service.Connection

/-!
# What a connection delivers

The events that everybody is told of and the replies to the messages of one peer arrive there in the
order in which they were raised and written, as long as no event is missed.
-/

namespace TunnelChain

namespace Backlog

theorem pushAll_of_missed {backlog : Backlog} {events : List DaemonMessage}
    (h : (backlog.pushAll events).missed = 0) :
    backlog.missed = 0 ∧ (backlog.pushAll events).events = backlog.events ++ events := by
  induction events generalizing backlog with
  | nil => exact ⟨h, (List.append_nil _).symm⟩
  | cons event rest ih =>
    obtain ⟨hmissed, hevents⟩ := ih h
    change (pushAll (backlog.push event) rest).events =
      (backlog.push event).events ++ rest at hevents
    change _ ∧ (pushAll (backlog.push event) rest).events = _
    rw [hevents]
    unfold push at hmissed ⊢
    split at hmissed
    · rename_i hroom
      rw [if_pos hroom]
      exact ⟨hmissed, List.append_assoc _ _ _⟩
    · cases hmissed

theorem pushAll_of_room {backlog : Backlog} {events : List DaemonMessage}
    (h : backlog.events.length + events.length ≤ capacity) :
    backlog.pushAll events = ⟨backlog.missed, backlog.events ++ events⟩ := by
  induction events generalizing backlog with
  | nil => rw [List.append_nil]; rfl
  | cons event rest ih =>
    rw [List.length_cons] at h
    have hroom : backlog.events.length < capacity := by omega
    have hpush : backlog.push event = { backlog with events := backlog.events ++ [event] } :=
      if_pos hroom
    change pushAll (backlog.push event) rest = _
    rw [hpush, ih, List.append_assoc, List.singleton_append]
    rw [List.length_append, List.length_singleton]
    omega

end Backlog

namespace Connection

/-- Passes on the oldest event that has not been passed on. -/
def pass (connection : Connection) : Connection :=
  match connection.backlog with
  | some ⟨missed, event :: rest⟩ => { connection with backlog := some ⟨missed, rest⟩ }.write event
  | _ => connection

/-- What will arrive at the peer if nothing more is raised or answered. -/
def upcoming (connection : Connection) : List DaemonMessage :=
  connection.written ++ (connection.backlog.map (·.events)).getD []

/-- How many events the connection has missed since it last passed all on. -/
def missed (connection : Connection) : Nat :=
  (connection.backlog.map (·.missed)).getD 0

variable {connection : Connection}

theorem writeAll_law (connection : Connection) (messages : List DaemonMessage) :
    (connection.writeAll messages).written = connection.written ++ messages ∧
      (connection.writeAll messages).backlog = connection.backlog ∧
      (connection.writeAll messages).inbox = connection.inbox := by
  induction messages generalizing connection with
  | nil => exact ⟨(List.append_nil _).symm, rfl, rfl⟩
  | cons message rest ih =>
    obtain ⟨hwritten, hbacklog, hinbox⟩ := ih (connection.write message)
    refine ⟨?_, hbacklog, hinbox⟩
    exact hwritten.trans (List.append_assoc _ _ _)

theorem upcoming_notify (hsubscribed : connection.backlog.isSome = true)
    {events : List DaemonMessage} (hmissed : (connection.notify events).missed = 0) :
    (connection.notify events).upcoming = connection.upcoming ++ events := by
  obtain ⟨backlog, hbacklog⟩ := Option.isSome_iff_exists.mp hsubscribed
  unfold missed at hmissed
  unfold upcoming
  simp only [notify, hbacklog, Option.map_some, Option.getD_some] at hmissed ⊢
  rw [(Backlog.pushAll_of_missed hmissed).2, List.append_assoc]

theorem pass_law (connection : Connection) :
    connection.pass.upcoming = connection.upcoming ∧ connection.pass.inbox = connection.inbox ∧
      connection.pass.backlog.isSome = connection.backlog.isSome := by
  unfold pass
  split
  · rename_i missed event rest hbacklog
    refine ⟨?_, rfl, by rw [hbacklog]; rfl⟩
    unfold upcoming
    rw [hbacklog]
    exact List.append_assoc _ _ _
  · exact ⟨rfl, rfl, rfl⟩

theorem backlog_flush (connection : Connection) :
    connection.flush.backlog = connection.backlog.map fun _ => .empty := by
  unfold flush
  cases hbacklog : connection.backlog with
  | none => exact hbacklog
  | some backlog => exact (writeAll_law _ _).2.1

theorem flush_reply (connection : Connection) (replies : List DaemonMessage) :
    (connection.reply replies).flush = connection.reply replies := by
  have hbacklog : (connection.reply replies).backlog = connection.backlog.map fun _ => .empty :=
    (writeAll_law _ _).2.1.trans connection.backlog_flush
  generalize connection.reply replies = replied at hbacklog
  obtain ⟨inbox, backlog, written, log⟩ := replied
  subst hbacklog
  unfold flush
  cases connection.backlog with
  | none => rfl
  | some backlog => rfl

theorem notify_nil (connection : Connection) : connection.notify [] = connection := by
  obtain ⟨inbox, backlog, written, log⟩ := connection
  cases backlog <;> rfl

theorem notify_notify (connection : Connection) (events more : List DaemonMessage) :
    (connection.notify events).notify more = connection.notify (events ++ more) := by
  unfold notify
  cases connection.backlog with
  | none => rfl
  | some backlog =>
    simp only [Option.map_some, Backlog.pushAll, List.foldl_append]

theorem reply_law (hsubscribed : connection.backlog.isSome = true) (replies : List DaemonMessage) :
    (connection.reply replies).upcoming = connection.upcoming ++ replies ∧
      (connection.reply replies).inbox = connection.inbox ∧
      (connection.reply replies).backlog.isSome = true := by
  obtain ⟨backlog, hbacklog⟩ := Option.isSome_iff_exists.mp hsubscribed
  have hflush : connection.flush.written = connection.upcoming ∧
      connection.flush.backlog = some .empty ∧ connection.flush.inbox = connection.inbox := by
    unfold flush upcoming
    rw [hbacklog]
    dsimp only
    split
    · exact writeAll_law _ _
    · exact writeAll_law _ _
  obtain ⟨hwritten, hempty, hinbox⟩ := hflush
  obtain ⟨hwritten', hbacklog', hinbox'⟩ := writeAll_law connection.flush replies
  refine ⟨?_, hinbox'.trans hinbox, by rw [reply, hbacklog', hempty]; rfl⟩
  rw [reply, upcoming, hwritten', hbacklog', hempty, hwritten]
  exact List.append_nil _

end Connection

/-- Where one message is handled at a time, every connection is told of the events, and the one that
it came from is answered. -/
theorem Switchboard.get?_react {σ : Type} (handler : Handler σ) (name other : String)
    (board : Switchboard σ) (parcel : Parcel) :
    (board.react handler name parcel).connections.get? other =
      (board.connections.get? other).map fun connection =>
        if other = name then
          (connection.notify (handler parcel board.state).events).reply
            (handler parcel board.state).replies
        else (connection.notify (handler parcel board.state).events).flush := by
  unfold react settle update
  dsimp only
  rw [Table.get?_mapValues, Table.get?_modify, Table.get?_mapValues]
  cases board.connections.get? other with
  | none => split <;> rfl
  | some connection =>
    by_cases hname : other = name
    · rw [if_pos hname, Option.map_some, Option.map_some, Option.map_some, Option.map_some,
        if_pos hname, Connection.flush_reply]
    · rw [if_neg hname, Option.map_some, Option.map_some, Option.map_some, if_neg hname]

end TunnelChain
