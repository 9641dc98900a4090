import Mathlib.Logic.Function.Basic
import TunnelChain.Proofs.Issuing
import TunnelChain.Proofs.Looping
import TunnelChain.Proofs.Transport

/-!
# The peers of an interface

A system keeps for each interface the peers that were set on it, each with the ranges that are
allowed for it. Setting the peer of a tunnel leaves no other. Ranges that were allowed for it before
are only replaced if the tunnel has some to put in their place.
-/

namespace TunnelChain

variable {ρ : Type}

/-! ## Listings -/

theorem foldr_step_plain {plain : List Char} (rest : List Char) (h : '\n' ∉ plain) :
    (plain ++ rest).foldr lines.step ([], []) =
      (plain ++ (rest.foldr lines.step ([], [])).1, (rest.foldr lines.step ([], [])).2) := by
  induction plain with
  | nil => rfl
  | cons c plain ih =>
    obtain ⟨hc, hplain⟩ := not_or.mp (mt List.mem_cons.mpr h)
    rw [List.cons_append, List.foldr_cons, ih hplain, lines.step, if_neg (Ne.symm hc)]
    rfl

theorem IsWord.not_mem_blank {word : String} (h : IsWord word) {c : Char}
    (hblank : isBlank c = true) :
    c ∉ word.toList :=
  fun hmem => absurd (h.solid c hmem) (by simp [hblank])

theorem IsWord.withoutReturn {word : String} (h : IsWord word) :
    TunnelChain.withoutReturn word.toList = word.toList := by
  refine if_neg fun hlast => ?_
  exact h.not_mem_blank (by decide : isBlank '\r' = true) (List.mem_of_getLast? hlast)

/-- Words on a line each are read back. -/
theorem lines_join {texts : List String} (h : ∀ text ∈ texts, IsWord text) :
    lines (String.join (texts.map (· ++ "\n"))) = texts := by
  unfold lines
  induction texts with
  | nil => rfl
  | cons text rest ih =>
    obtain ⟨htext, hrest⟩ := List.forall_mem_cons.mp h
    have hchars : (String.join ((text :: rest).map (· ++ "\n"))).toList =
        text.toList ++ '\n' :: (String.join (rest.map (· ++ "\n"))).toList := by
      simp [String.toList_join, String.toList_append]
    rw [hchars, foldr_step_plain _ (htext.not_mem_blank (by decide : isBlank '\n' = true)),
      List.foldr_cons]
    dsimp only [lines.step]
    rw [if_pos rfl, List.append_nil, lines.ended, htext.withoutReturn, String.ofList_toList]
    exact congrArg (text :: ·) (ih hrest)

theorem trimText_of_isWord {word : String} (h : IsWord word) : trimText word = word := by
  rw [trimText, trimBy_eq_self (fun c hc => h.solid c (List.mem_of_head? hc))
    (fun c hc => h.solid c (List.mem_of_getLast? hc)), String.ofList_toList]

theorem mem_stalePeers {listing : String} (h : ∀ key ∈ lines listing, IsWord key)
    (kept key : String) :
    key ∈ stalePeers listing kept ↔ key ∈ lines listing ∧ key ≠ kept := by
  have htrim : (lines listing).map trimText = lines listing := by
    rw [List.map_congr_left fun key hkey => trimText_of_isWord (h key hkey), List.map_id']
  rw [stalePeers, htrim, List.mem_filter]
  refine and_congr_right fun hkey => ?_
  have hne : key.isEmpty = false := by
    rw [← Bool.not_eq_true, String.isEmpty_iff]
    rintro rfl
    exact (h "" hkey).nonempty rfl
  rw [hne, Bool.not_false, Bool.true_and, decide_eq_true_iff]

/-! ## Ranges -/

/-- The ranges of a list with commas between them. -/
def rangesOf (text : String) : List String :=
  if text.isEmpty then [] else (text.toList.splitOn ',').map String.ofList

/-- Texts with commas between them are read back. -/
theorem rangesOf_intercalate {texts : List String}
    (h : ∀ text ∈ texts, text.toList ≠ [] ∧ ',' ∉ text.toList) :
    rangesOf (",".intercalate texts) = texts := by
  by_cases hnone : texts = []
  · rw [hnone]
    rfl
  have hsplit : (",".intercalate texts).toList.splitOn ',' = texts.map String.toList := by
    rw [String.toList_intercalate]
    refine List.splitOn_intercalate ',' (fun chars hchars => ?_) (mt List.map_eq_nil_iff.mp hnone)
    obtain ⟨text, htext, rfl⟩ := List.mem_map.mp hchars
    exact (h text htext).2
  rw [rangesOf, if_neg, hsplit]
  · simp [Function.comp_def]
  · intro hempty
    rw [String.isEmpty_iff.mp hempty] at hsplit
    obtain ⟨text, htext, heq⟩ :=
      List.mem_map.mp (hsplit ▸ List.mem_singleton_self [] : [] ∈ texts.map String.toList)
    exact (h text htext).1 heq

theorem AddressRange.text_plain {range : AddressRange}
    (h : Ip.isText range.family range.address = true) :
    range.text.toList ≠ [] ∧ ',' ∉ range.text.toList := by
  have htext :
      range.text.toList = range.address.toList ++ '/' :: Nat.toDigits 10 range.length.toNat := by
    have hlength : (toString range.length).toList = Nat.toDigits 10 range.length.toNat := by
      change (toString range.length.toNat).toList = _
      rw [Nat.toString_eq_repr, Nat.toList_repr]
    simp [AddressRange.text, String.toList_append, hlength]
  rw [htext, List.mem_append, List.mem_cons]
  refine ⟨List.append_ne_nil_of_right_ne_nil _ (List.cons_ne_nil _ _), ?_⟩
  rintro (hmem | heq | hmem)
  · have hwrites := Ip.writes_of_isText h _ hmem
    cases hfamily : range.family with
    | ipv4 =>
      rw [hfamily] at hwrites
      exact absurd hwrites (by decide : ¬ ((Ip.digit? 10 ',').isSome = true ∨ ',' = '.'))
    | ipv6 =>
      rw [hfamily] at hwrites
      exact absurd hwrites
        (by decide : ¬ ((Ip.digit? 16 ',').isSome = true ∨ ',' = '.' ∨ ',' = ':'))
  · exact absurd heq (by decide)
  · exact absurd (Decimal.isDigit_of_mem_toDigits hmem) (by decide)

/-! ## Peers -/

/-- What is kept of a peer: where it is, and the ranges that are allowed for it. -/
structure Peer where
  endpoint : String
  allowed : List String
deriving DecidableEq, Repr

/-- The peers of each interface, by their keys. -/
abbrev Peers := String → String → Option Peer

namespace Peers

def allowed (peers : Peers) (name key : String) : List String :=
  (peers name key).elim [] Peer.allowed

def set (peers : Peers) (name key : String) (peer : Option Peer) : Peers :=
  Function.update peers name (Function.update (peers name) key peer)

/-- The peers of an interface that has this one alone. -/
def only (key : String) (peer : Peer) : String → Option Peer :=
  Function.update (fun _ => none) key (some peer)

theorem only_inj {key : String} {peer other : Peer} :
    only key peer = only key other ↔ peer = other :=
  (Function.update_injective _ key).eq_iff.trans Option.some_inj

end Peers

/-- The peer that a tunnel comes to have. Without ranges of its own it keeps those that were allowed
for it. -/
def Tunnel.peer (tunnel : Tunnel) (endpoint : Endpoint) (peers : Peers) : Peer :=
  ⟨endpoint.text, if tunnel.ranges = [] then peers.allowed tunnel.name tunnel.publicKey
    else tunnel.ranges.map AddressRange.text⟩

namespace Tunnel

variable (tunnel : Tunnel) (endpoint : Endpoint) (peers : Peers)

theorem peer_eq_iff :
    tunnel.peer endpoint peers = ⟨endpoint.text, tunnel.ranges.map AddressRange.text⟩ ↔
      tunnel.ranges ≠ [] ∨ peers.allowed tunnel.name tunnel.publicKey = [] := by
  by_cases hnone : tunnel.ranges = []
  · simp [peer, hnone]
  · simp [peer, hnone]

/-- A second time changes nothing. -/
theorem peer_again :
    tunnel.peer endpoint
        (Function.update peers tunnel.name
          (Peers.only tunnel.publicKey (tunnel.peer endpoint peers))) =
      tunnel.peer endpoint peers := by
  by_cases hnone : tunnel.ranges = []
  · simp [peer, Peers.allowed, Peers.only, hnone]
  · rw [peer, peer, if_neg hnone, if_neg hnone]

end Tunnel

/-- What a command can do to the peers of an interface. -/
inductive Repeering where
  | remove (name key : String)
  | set (name key endpoint : String) (allowed : Option String)

/-- A peer that is set keeps the ranges that were allowed for it, unless others are given. -/
def Repeering.onPeers (peers : Peers) : Repeering → Peers
  | .remove name key => peers.set name key none
  | .set name key endpoint given =>
    peers.set name key (some ⟨endpoint, given.elim (peers.allowed name key) rangesOf⟩)

namespace Command

def repeering? (command : Command) : Option Repeering :=
  match command.program, command.arguments with
  | "wg", ["set", name, "peer", key, "remove"] => some (.remove name key)
  | "wg", ["set", name, "private-key", _, "peer", key, "endpoint", endpoint] =>
    some (.set name key endpoint none)
  | "wg",
      ["set", name, "private-key", _, "peer", key, "endpoint", endpoint, "allowed-ips", allowed] =>
    some (.set name key endpoint (some allowed))
  | _, _ => none

end Command

namespace Peers

open Command

variable {peers : Peers}

def after (peers : Peers) (command : Command) : Peers :=
  command.repeering?.elim peers (Repeering.onPeers peers)

theorem after_ip (arguments : List String) : peers.after (ip arguments) = peers := rfl

theorem after_showPeers (name : String) : peers.after (showPeers name) = peers := rfl

theorem after_removePeer (name key : String) :
    peers.after (removePeer name key) = peers.set name key none := rfl

theorem foldl_removePeer (name : String) (keys : List String) (peers : Peers) :
    (keys.map (removePeer name)).foldl Peers.after peers =
      Function.update peers name fun key => if key ∈ keys then none else peers name key := by
  induction keys generalizing peers with
  | nil => simp
  | cons key rest ih =>
    rw [List.map_cons, List.foldl_cons, ih, after_removePeer, Peers.set, Function.update_idem,
      Function.update_self]
    congr 1
    funext other
    by_cases hother : other = key <;> simp [hother]

theorem foldl_route {commands : List Command}
    (h : ∀ command ∈ commands, ∃ flag arguments, command = .ip (flag :: "route" :: arguments))
    (peers : Peers) :
    commands.foldl Peers.after peers = peers := by
  induction commands with
  | nil => rfl
  | cons command rest ih =>
    obtain ⟨⟨flag, arguments, rfl⟩, hrest⟩ := List.forall_mem_cons.mp h
    rw [List.foldl_cons, after_ip, ih hrest]

section Set

variable {tunnel : Tunnel} (endpoint : Endpoint)
  (hranges : ∀ range ∈ tunnel.ranges, Ip.isText range.family range.address = true)

include hranges

/-- The ranges of a tunnel are given with its peer if there are any. -/
theorem after_setPeer : peers.after (.setPeer tunnel endpoint) =
    peers.set tunnel.name tunnel.publicKey (some (tunnel.peer endpoint peers)) := by
  have hread : rangesOf (",".intercalate (tunnel.ranges.map AddressRange.text)) =
      tunnel.ranges.map AddressRange.text := by
    refine rangesOf_intercalate fun text htext => ?_
    obtain ⟨range, hrange, rfl⟩ := List.mem_map.mp htext
    exact AddressRange.text_plain (hranges range hrange)
  unfold Command.setPeer
  dsimp only
  by_cases hnone : tunnel.ranges = []
  · rw [Tunnel.peer, if_pos hnone, hnone]
    rfl
  · have hgiven : ¬ (",".intercalate (tunnel.ranges.map AddressRange.text)).isEmpty = true := by
      intro hempty
      rw [String.isEmpty_iff.mp hempty] at hread
      exact hnone (List.map_eq_nil_iff.mp hread.symm)
    rw [Tunnel.peer, if_neg hnone, if_neg hgiven, after, repeering?]
    simp only [List.cons_append, List.nil_append, Option.elim_some, Repeering.onPeers, hread]

/-- Once the others are removed and the peer of a tunnel is set, it is the only one. -/
theorem after_setPeer_of_removed {stale : List String}
    (h : ∀ key, key ∈ stale ↔
      (∃ peer, peers tunnel.name key = some peer) ∧ key ≠ tunnel.publicKey) :
    ((stale.map (removePeer tunnel.name)).foldl Peers.after peers).after
      (.setPeer tunnel endpoint) =
      Function.update peers tunnel.name (only tunnel.publicKey (tunnel.peer endpoint peers)) := by
  have hkept : tunnel.publicKey ∉ stale := fun hmem => ((h _).mp hmem).2 rfl
  rw [foldl_removePeer, after_setPeer endpoint hranges, Peers.set, Function.update_idem,
    Function.update_self]
  congr 1
  have hpeer : tunnel.peer endpoint (Function.update peers tunnel.name fun key =>
      if key ∈ stale then none else peers tunnel.name key) = tunnel.peer endpoint peers := by
    rw [Tunnel.peer, Tunnel.peer, allowed, allowed, Function.update_self, if_neg hkept]
  rw [hpeer, only]
  funext key
  by_cases hkey : key = tunnel.publicKey
  · rw [hkey, Function.update_self, Function.update_self]
  · rw [Function.update_of_ne hkey, Function.update_of_ne hkey]
    cases hold : peers tunnel.name key with
    | none => exact ite_self none
    | some peer => exact if_pos ((h key).mpr ⟨⟨peer, hold⟩, hkey⟩)

end Set

end Peers

/-- What is relied on of `wg` and `ip`: the peers of an interface are listed by their keys, which
are words, one on a line; a `wg` that ends well does to the peers what its command says; and no
change of routes concerns them. -/
structure KeepsPeers (run : Runner ρ) (peers : ρ → Peers) : Prop where
  keys : ∀ commands name key peer, peers commands name key = some peer → IsWord key
  lists : ∀ commands name listing,
    (Command.showPeers name).result (run (.showPeers name) commands).1 = .ok listing →
    ∀ key, key ∈ lines listing ↔ ∃ peer, peers commands name key = some peer
  acts : ∀ command commands output, command.program = "wg" →
    command.result (run command commands).1 = .ok output →
    peers (run command commands).2 = (peers commands).after command
  routes : ∀ flag arguments commands,
    peers (run (.ip (flag :: "route" :: arguments)) commands).2 = peers commands

namespace KeepsPeers

variable {run : Runner ρ} {peers : ρ → Peers} {commands last : ρ} {issued : List Issue}

/-- Commands of which only those about routes fail do to the peers what they say. -/
theorem peers_after (h : KeepsPeers run peers) (hissues : Issues run commands issued last)
    (hissued : ∀ issue ∈ issued, (issue.command.program = "wg" ∧ issue.answer.isOk = true) ∨
      ∃ flag arguments, issue.command = .ip (flag :: "route" :: arguments)) :
    peers last = (issued.map Issue.command).foldl Peers.after (peers commands) := by
  induction hissues with
  | nil => rfl
  | unsent reason hnul _ ih =>
    obtain ⟨hfirst, hrest⟩ := List.forall_mem_cons.mp hissued
    obtain ⟨-, hok⟩ | ⟨flag, arguments, rfl⟩ := hfirst
    · cases hok
    · exact ih hrest
  | @sent commands last command issued hnul _ ih =>
    obtain ⟨hfirst, hrest⟩ := List.forall_mem_cons.mp hissued
    rw [ih hrest, List.map_cons, List.foldl_cons]
    obtain ⟨hwg, hok⟩ | ⟨flag, arguments, rfl⟩ := hfirst
    · cases hresult : command.result (run command commands).1 with
      | error reason =>
        rw [hresult] at hok
        cases hok
      | ok output => rw [h.acts command commands output hwg hresult]
    · rw [h.routes, Peers.after_ip]

end KeepsPeers

/-- The other peers are gone, and the peer has the ranges of the tunnel, or if there are none those
it had before. -/
theorem Linux.peers_configure {run : Runner ρ} {peers : ρ → Peers} (h : KeepsPeers run peers)
    {settings : LinuxSettings} {tunnel : Tunnel} {ip : Ip}
    (hip : Ip.parse? tunnel.serverIpv4 = some ip)
    (hranges : ∀ range ∈ tunnel.ranges, Ip.isText range.family range.address = true) (work : Work ρ)
    (hok : (configure settings run tunnel work).1 = .ok ()) :
    peers (configure settings run tunnel work).2.host.commands =
      Function.update (peers work.host.commands) tunnel.name
        (Peers.only tunnel.publicKey
          (tunnel.peer ⟨ip, tunnel.port⟩ (peers work.host.commands))) := by
  have hsearch : (endpointSearch settings tunnel).result = .ok ⟨ip, tunnel.port⟩ := by
    rw [endpointSearch, Search.resolve_literal hip]
  obtain ⟨issued, hissues, hconfiguring, -⟩ := configure_law run work hsearch
  generalize (configure settings run tunnel work).2.host.pinned = after at hconfiguring
  generalize (configure settings run tunnel work).1 = result at hconfiguring hok
  generalize (configure settings run tunnel work).2.host.commands = last at hissues
  cases hconfiguring with
  | unlisted reason => cases hok
  | unremoved hremovals => cases hok
  | @passed listing removals routing after hremovals hrouting answer =>
    obtain ⟨output, rfl⟩ : ∃ output, answer = .ok output := by
      cases answer with
      | error reason => cases hok
      | ok output => exact ⟨output, rfl⟩
    have hkeys := h.lists _ _ _ hissues.result_of_cons
    have hstale (key : String) : key ∈ stalePeers listing tunnel.publicKey ↔
        (∃ peer, peers work.host.commands tunnel.name key = some peer) ∧
          key ≠ tunnel.publicKey := by
      rw [mem_stalePeers, hkeys]
      intro key hkey
      obtain ⟨peer, hpeer⟩ := (hkeys key).mp hkey
      exact h.keys _ _ _ _ hpeer
    cases hremovals with
    | completed hcommands hall =>
      -- The call was granted, so no `wg` failed; an `ip` may have, but it is about routes.
      have hroutes := hrouting.isRoute
      rw [h.peers_after hissues]
      · have hrouted : ∀ command ∈ routing.map Issue.command,
            ∃ flag arguments, command = .ip (flag :: "route" :: arguments) := by
          intro command hcommand
          obtain ⟨issue, hissue, rfl⟩ := List.mem_map.mp hcommand
          exact hroutes issue hissue
        rw [List.map_append, List.map_append, List.map_cons, hcommands, List.foldl_append,
          List.foldl_append, List.foldl_cons, Peers.after_showPeers, Peers.foldl_route hrouted,
          List.map_singleton, List.foldl_cons, List.foldl_nil,
          Peers.after_setPeer_of_removed _ hranges hstale]
      · intro issue hissue
        rw [List.mem_append, List.mem_append, List.mem_cons] at hissue
        obtain ((rfl | hremoval) | hroute) | hset := hissue
        · exact .inl ⟨rfl, rfl⟩
        · obtain ⟨key, -, hkey⟩ := List.mem_map.mp (hcommands ▸ List.mem_map_of_mem hremoval)
          exact .inl ⟨congrArg Command.program hkey.symm, hall issue hremoval⟩
        · exact .inr (hroutes issue hroute)
        · exact .inl (List.mem_singleton.mp hset ▸ ⟨rfl, rfl⟩)

/-- **The peer of a tunnel.** Once the peer of a tunnel has been set, it is the only one of its
interface, and where the tunnel says; the ranges that are allowed for it are those of the tunnel,
unless there are none and the same peer had some before. Setting it a second time changes
nothing. -/
theorem Linux.only_tunnel_peer_iff {run : Runner ρ} {peers : ρ → Peers} (h : KeepsPeers run peers)
    (settings : LinuxSettings) {tunnel : Tunnel} {ip : Ip}
    (hip : Ip.parse? tunnel.serverIpv4 = some ip)
    (hranges : ∀ range ∈ tunnel.ranges, Ip.isText range.family range.address = true)
    (host : Linux ρ)
    (hok : ((engine settings run).perform (.configureInterface tunnel) host).answer = .ok ()) :
    let next := ((engine settings run).perform (.configureInterface tunnel) host).system
    let before := peers host.commands
    let after := peers next.commands
    (after tunnel.name = Peers.only tunnel.publicKey
        ⟨Endpoint.text ⟨ip, tunnel.port⟩, tunnel.ranges.map AddressRange.text⟩ ↔
      tunnel.ranges ≠ [] ∨ before.allowed tunnel.name tunnel.publicKey = []) ∧
    after = Function.update before tunnel.name
      (Peers.only tunnel.publicKey (tunnel.peer ⟨ip, tunnel.port⟩ before)) ∧
    (((engine settings run).perform (.configureInterface tunnel) next).answer = .ok () →
      peers ((engine settings run).perform (.configureInterface tunnel) next).system.commands =
        after) := by
  intro next before after
  have hset (start : Linux ρ)
      (hstart : ((engine settings run).perform (.configureInterface tunnel) start).answer =
        .ok ()) :
      peers ((engine settings run).perform (.configureInterface tunnel) start).system.commands =
        Function.update (peers start.commands) tunnel.name
          (Peers.only tunnel.publicKey (tunnel.peer ⟨ip, tunnel.port⟩ (peers start.commands))) :=
    peers_configure h hip hranges ⟨start, []⟩ ((answer_perform_eq_ok_iff _ _ _ _).mp hstart)
  have hafter : after = Function.update before tunnel.name
      (Peers.only tunnel.publicKey (tunnel.peer ⟨ip, tunnel.port⟩ before)) := hset host hok
  refine ⟨?_, hafter, fun hagain => ?_⟩
  · rw [hafter, Function.update_self, Peers.only_inj]
    exact tunnel.peer_eq_iff _ before
  · rw [hset next hagain]
    change Function.update after _ (Peers.only _ (tunnel.peer _ after)) = after
    rw [hafter, Tunnel.peer_again, Function.update_idem]

/-! ## A system of peers -/

namespace Repeering

def key : Repeering → String
  | .remove _ key => key
  | .set _ key _ _ => key

def onKeys (keys : String → List String) : Repeering → String → List String
  | .remove name key => Function.update keys name ((keys name).filter (· ≠ key))
  | .set name key _ _ => Function.update keys name (key :: (keys name).filter (· ≠ key))

theorem mem_onKeys {keys : String → List String} {peers : Peers}
    (h : ∀ name key, key ∈ keys name ↔ ∃ peer, peers name key = some peer) (change : Repeering)
    (name key : String) :
    key ∈ change.onKeys keys name ↔ ∃ peer, change.onPeers peers name key = some peer := by
  cases change with
  | remove target gone =>
    by_cases hname : name = target
    · rw [onKeys, onPeers, Peers.set, hname, Function.update_self, Function.update_self,
        List.mem_filter, h]
      by_cases hkey : key = gone <;> simp [hkey]
    · rw [onKeys, onPeers, Peers.set, Function.update_of_ne hname, Function.update_of_ne hname, h]
  | set target added endpoint given =>
    by_cases hname : name = target
    · rw [onKeys, onPeers, Peers.set, hname, Function.update_self, Function.update_self,
        List.mem_cons, List.mem_filter, h]
      by_cases hkey : key = added <;> simp [hkey]
    · rw [onKeys, onPeers, Peers.set, Function.update_of_ne hname, Function.update_of_ne hname, h]

theorem isWord_of_mem_onKeys {keys : String → List String}
    (hkeys : ∀ name, ∀ key ∈ keys name, IsWord key) {change : Repeering} (h : IsWord change.key)
    (name key : String) (hmem : key ∈ change.onKeys keys name) :
    IsWord key := by
  cases change with
  | remove target gone =>
    by_cases hname : name = target
    · rw [onKeys, hname, Function.update_self] at hmem
      exact hkeys target key (List.mem_of_mem_filter hmem)
    · rw [onKeys, Function.update_of_ne hname] at hmem
      exact hkeys name key hmem
  | set target added endpoint given =>
    by_cases hname : name = target
    · rw [onKeys, hname, Function.update_self] at hmem
      obtain rfl | hmem := List.mem_cons.mp hmem
      · exact h
      · exact hkeys target key (List.mem_of_mem_filter hmem)
    · rw [onKeys, Function.update_of_ne hname] at hmem
      exact hkeys name key hmem

end Repeering

/-- A system that is nothing but its interfaces with their peers. -/
structure Fleet where
  peers : Peers
  keys : String → List String
  words : ∀ name, ∀ key ∈ keys name, IsWord key
  listed : ∀ name key, key ∈ keys name ↔ ∃ peer, peers name key = some peer

namespace Fleet

def empty : Fleet :=
  ⟨fun _ _ => none, fun _ => [], by simp, by simp⟩

def after (fleet : Fleet) (change : Repeering) (h : IsWord change.key) : Fleet where
  peers := change.onPeers fleet.peers
  keys := change.onKeys fleet.keys
  words := Repeering.isWord_of_mem_onKeys fleet.words h
  listed := change.mem_onKeys fleet.listed

/-- What a command prints: the peers of an interface, by their keys. -/
def printed (fleet : Fleet) (command : Command) : Bytes :=
  match command.arguments with
  | ["show", name, "peers"] => Utf8.encode (String.join ((fleet.keys name).map (· ++ "\n")))
  | _ => []

/-- A peer with no proper key is refused, and no address is routed. -/
def run : Runner Fleet := fun command fleet =>
  match command.repeering? with
  | some change =>
    if h : IsWord change.key then (.ran (.exit 0) [], fleet.after change h)
    else (.ran (.exit 1) [], fleet)
  | none =>
    (.ran (if command.program = "wg" then .exit 0 else .exit 2) (fleet.printed command), fleet)

theorem keepsPeers_run : KeepsPeers run peers where
  keys fleet name key peer hpeer := fleet.words name key ((fleet.listed name key).mpr ⟨peer, hpeer⟩)
  lists fleet name listing hlisting key := by
    have hprinted :
        Utf8.decodeLossy (Utf8.encode (String.join ((fleet.keys name).map (· ++ "\n")))) =
          listing :=
      Except.ok.inj hlisting
    rw [← hprinted, Utf8.decodeLossy_encode, lines_join (fleet.words name), fleet.listed]
  acts command fleet output _ hok := by
    unfold run at hok ⊢
    unfold Peers.after
    cases hchange : command.repeering? with
    | none => rfl
    | some change =>
      rw [hchange] at hok
      dsimp only at hok ⊢
      split at hok
      · rename_i hkey
        rw [dif_pos hkey]
        rfl
      · cases hok
  routes flag arguments fleet := rfl

def exitKey : String :=
  "RhzQ0Yl1hVbX8v0tkq3hVqUQm5yP7Lr0bW2cD4eF6gE="

/-- The interface of the exit hop has two peers. -/
def twoPeers : Fleet :=
  (empty.after
    (.set "hl" "dm9sdW1lLW9uZS1pcy1ub3QtaGVyZS1hdC1hbGwhISE=" "203.0.113.9:51820"
      (some "10.64.255.1/32"))
    (by decide +kernel)).after (.set "hl" exitKey "203.0.113.5:51820" (some "0.0.0.0/0"))
      (by decide +kernel)

end Fleet

namespace Linux

def exitTunnel (ranges : List AddressRange) : Tunnel where
  hop := 0
  privateKey := "cHJpdmF0ZS1rZXktb2YtdGhlLWV4aXQtaG9wLSEhISE="
  deviceIpv4 := "10.0.0.2/32"
  deviceIpv6 := "fd00::2/128"
  gatewayIpv4 := "10.0.0.1"
  gatewayIpv6 := "fd00::1"
  publicKey := Fleet.exitKey
  serverIpv4 := "203.0.113.5"
  serverIpv6 := "2001:db8::5"
  port := 51820
  ipv6Enabled := false
  ranges
  name := "hl"

/-- What comes of setting the peer of the tunnel where there are two. -/
def exitConfigured (ranges : List AddressRange) : Outcome (Linux Fleet) (Except Failure Unit) :=
  (engine plainSettings Fleet.run).perform (.configureInterface (exitTunnel ranges))
    (fresh Fleet.twoPeers)

def narrowRanges : List AddressRange :=
  [⟨"10.0.0.0", 8, .ipv4⟩, ⟨"10.64.0.0", 10, .ipv4⟩]

/-- The peer that stays gets the ranges of the tunnel in place of those it had. -/
theorem only_tunnel_peer_narrowRanges :
    KeepsPeers Fleet.run Fleet.peers ∧
      Ip.parse? (exitTunnel narrowRanges).serverIpv4 = some (.v4 0xCB007105#32) ∧
      (∀ range ∈ narrowRanges, Ip.isText range.family range.address = true) ∧
      (exitConfigured narrowRanges).answer = .ok () ∧
      (exitConfigured narrowRanges).system.commands.peers "hl" =
        Peers.only Fleet.exitKey ⟨"203.0.113.5:51820", ["10.0.0.0/8", "10.64.0.0/10"]⟩ := by
  have hip :
      Ip.parse? (exitTunnel narrowRanges).serverIpv4 = some (.v4 0xCB007105#32) := by decide +kernel
  have hranges : ∀ range ∈ narrowRanges, Ip.isText range.family range.address =
      true := by decide +kernel
  have hok : (exitConfigured narrowRanges).answer = .ok () := by decide +kernel
  have honly := (only_tunnel_peer_iff Fleet.keepsPeers_run plainSettings hip hranges
    (fresh Fleet.twoPeers) hok).1.mpr (.inl (List.cons_ne_nil _ _))
  have hname : (exitTunnel narrowRanges).name = "hl" := rfl
  have hkey : (exitTunnel narrowRanges).publicKey = Fleet.exitKey := rfl
  have hendpoint : Endpoint.text ⟨.v4 0xCB007105#32, (exitTunnel narrowRanges).port⟩ =
      "203.0.113.5:51820" := by
    decide +kernel
  have htexts : (exitTunnel narrowRanges).ranges.map AddressRange.text =
      ["10.0.0.0/8", "10.64.0.0/10"] := by
    decide +kernel
  rw [hname, hkey, hendpoint, htexts] at honly
  refine ⟨Fleet.keepsPeers_run, hip, hranges, hok, ?_⟩
  rw [exitConfigured]
  exact honly

/-- A tunnel that is left without ranges leaves its peer those that it had. -/
theorem not_only_tunnel_peer_withoutRanges :
    KeepsPeers Fleet.run Fleet.peers ∧
      Ip.parse? (exitTunnel []).serverIpv4 = some (.v4 0xCB007105#32) ∧
      (exitConfigured []).answer = .ok () ∧
      (exitConfigured []).system.commands.peers "hl" Fleet.exitKey =
        some ⟨"203.0.113.5:51820", ["0.0.0.0/0"]⟩ ∧
      (exitConfigured []).system.commands.peers "hl" ≠
        Peers.only Fleet.exitKey ⟨Endpoint.text ⟨.v4 0xCB007105#32, 51820⟩, []⟩ := by
  have hkept : (exitConfigured []).answer = .ok () ∧
      (exitConfigured []).system.commands.peers "hl" Fleet.exitKey =
        some ⟨"203.0.113.5:51820", ["0.0.0.0/0"]⟩ := by
    decide +kernel
  refine ⟨Fleet.keepsPeers_run, by decide +kernel, hkept.1, hkept.2, fun honly => ?_⟩
  have hother := hkept.2
  rw [honly, Peers.only, Function.update_self] at hother
  exact List.cons_ne_nil _ _ (Peer.mk.inj (Option.some.inj hother)).2.symm

end Linux

end TunnelChain
