import TunnelChain.Address
import TunnelChain.Endpoint.Retry
import TunnelChain.Log.Line

/-!
Finding the address of a host. A literal address needs no lookup; any other name is looked up until
a lookup gives an address or a failure that is final, or the retries are used up.
-/
namespace TunnelChain

structure Endpoint where
  ip : Ip
  port : UInt16
deriving DecidableEq, Repr, Inhabited

def Endpoint.text (endpoint : Endpoint) : String :=
  endpoint.ip.endpointText endpoint.port

inductive Lookup where
  | found (endpoints : List Endpoint)
  | transient (reason : String)
  | permanent (reason : String)
deriving DecidableEq, Repr

inductive ResolveError where
  | permanent (host reason : String)
  | exhausted (host : String) (attempts : Nat) (reason : String)
deriving DecidableEq, Repr

def ResolveError.message : ResolveError → String
  | .permanent host reason => "`" ++ host ++ "` cannot be resolved: " ++ reason
  | .exhausted host attempts reason =>
    "`" ++ host ++ "` still unresolved after " ++ toString attempts ++ " attempts: " ++ reason

/-- What a search does while it goes on: it looks a host up, or waits for so many milliseconds. -/
inductive Search.Act where
  | look (host : String) (port : UInt16)
  | wait (delay : UInt64)
deriving DecidableEq, Repr

/-- What a search comes to, and what it has done, in order. -/
structure Search where
  result : Except ResolveError Endpoint
  acts : List Search.Act
  log : List LogLine
deriving Repr

namespace Search

def Act.isLook : Act → Bool
  | .look .. => true
  | .wait _ => false

def Act.delay? : Act → Option UInt64
  | .look .. => none
  | .wait delay => some delay

def lookups (search : Search) : Nat :=
  search.acts.countP Act.isLook

/-- The delays between lookups, in milliseconds. -/
def sleeps (search : Search) : List UInt64 :=
  search.acts.filterMap Act.delay?

/-- What one lookup decides: an address, a final failure, or the reason to try again. -/
inductive Verdict where
  | found (endpoint : Endpoint)
  | final (reason : String)
  | again (reason : String)
deriving DecidableEq, Repr

def verdict : Lookup → Verdict
  | .found (endpoint :: _) => .found endpoint
  | .found [] => .again "no addresses returned"
  | .transient reason => .again reason
  | .permanent reason => .final reason

/-- The search that a verdict ends, or the one that `again` goes on to make. -/
def conclude (host : String) (again : String → Search) : Verdict → Search
  | .found endpoint =>
    ⟨.ok endpoint, [], [⟨.debug, "Resolved " ++ host ++ " to " ++ endpoint.ip.text⟩]⟩
  | .final reason =>
    ⟨.error (.permanent host reason), [],
      [⟨.warn, "Resolving " ++ host ++ " failed permanently: " ++ reason⟩]⟩
  | .again reason => again reason

/-- A search that begins with a lookup and goes on as its verdict says. -/
def look (host : String) (port : UInt16) (found : Lookup) (again : String → Search) : Search :=
  let rest := conclude host again (verdict found)
  { rest with acts := .look host port :: rest.acts }

def giveUp (host : String) (attempts : Nat) (reason : String) : Search :=
  ⟨.error (.exhausted host attempts reason), [],
    [⟨.warn, "Giving up on resolving " ++ host ++ " after " ++ toString attempts ++ " attempts"⟩]⟩

/-- A search that waits and goes on with `rest`. -/
def waitAndRetry (host reason : String) (delay : UInt64) (rest : Search) : Search :=
  ⟨rest.result, .wait delay :: rest.acts,
    ⟨.debug, "Resolving " ++ host ++ " failed (" ++ reason ++ "), retrying in " ++
      durationText delay⟩ :: rest.log⟩

/-- Looks a host up from attempt number `retry` on, with so many retries left. -/
def attempt (host : String) (port : UInt16) (policy : RetryPolicy) (lookup : Nat → Lookup)
    (retry : Nat) :
    Nat → Search
  | 0 => look host port (lookup retry) (giveUp host (retry + 1))
  | remaining + 1 =>
    look host port (lookup retry) fun reason =>
      waitAndRetry host reason (policy.delay retry)
        (attempt host port policy lookup (retry + 1) remaining)

/-- Resolves a host; `lookup` tells what each attempt in turn brings. -/
def resolve (host : String) (port : UInt16) (policy : RetryPolicy)
    (lookup : Nat → Lookup) : Search :=
  match Ip.parse? host with
  | some ip => ⟨.ok ⟨ip, port⟩, [], []⟩
  | none => attempt host port policy lookup 0 policy.maxRetries.toNat

theorem resolve_literal {host : String} {ip : Ip} (h : Ip.parse? host = some ip) (port : UInt16)
    (policy : RetryPolicy) (lookup : Nat → Lookup) :
    resolve host port policy lookup = ⟨.ok ⟨ip, port⟩, [], []⟩ := by
  rw [resolve, h]

end Search

end TunnelChain
