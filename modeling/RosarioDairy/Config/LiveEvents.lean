import Mathlib.Data.Rat.Cast.Order
import RosarioDairy.Config.CacheNamespace
import RosarioDairy.Foundations.Extensions

/-!
# LiveEvents — hints for connected clients that the data has changed

A connection of `change_stream` subscribes to the published changes and then compares versions: it
announces the version its first check has found, and after every wakeup or timeout checks again and
sends `data_changed` where the version is another one, else a heartbeat.  Publications are wakeups
only; any of them may be lost.

The connections stand beside the world of `CacheNamespace`.  Of every frame they keep which writes the
check before it knew of, and which were visible when it was sent.
-/

namespace RosarioDairy
namespace LiveEvents

open Foundations CacheGuard

/-! ## Identities -/

/-- The user, the role and the expiry of the token. -/
structure Identity where
  pk : Nat
  role : String
  exp : Int
  deriving DecidableEq, Repr

/-- What `RevocableJWTAuthentication().authenticate` answers or raises. -/
inductive Authentication
  | user (pk : Nat) (role : String) (exp : Int)
  | missing
  | rejected
  | raised
  deriving DecidableEq, Repr

/-- `AuthenticationFailed`, `PermissionDenied`, or any other exception. -/
inductive Failure
  | authenticationFailed
  | permissionDenied
  | other
  deriving DecidableEq, Repr

/-- `_identity` -/
def identityOf : Authentication → Except Failure Identity
  | .user pk role exp =>
      if role = "admin" ∨ role = "staff" then
        .ok
          { pk := pk
            role := role
            exp := exp }
      else .error .permissionDenied
  | .missing => .error .authenticationFailed
  | .rejected => .error .authenticationFailed
  | .raised => .error .other

/-- The identity part of `_state`. -/
def expectIdentity (expected : Option Identity) (authentication : Authentication) :
    Except Failure Identity :=
  match identityOf authentication, expected with
  | .ok identity, some opened =>
      if identity ≠ opened then .error .authenticationFailed else .ok identity
  | answer, _ => answer

/-- `COMMON_GROUPS` -/
def commonGroups : List String :=
  ["sales", "orders", "inventory", "categories", "customers", "dashboard", "reports", "settings"]

def groupsOf (identity : Identity) : List String :=
  commonGroups ++ if identity.role = "admin" then ["users"] else []

/-! ## Connections -/

/-- What is sent; the versions are those of `data_version`. -/
inductive Frame (U : Type)
  | retry
  | ready (groups : List String) (version : NamespaceKey U)
  | dataChanged (groups : List String) (version : NamespaceKey U)
  | heartbeat
  | reconnect
  | authRequired
  | unavailable
  deriving DecidableEq, Repr

/-- A frame, whom the check before it has authenticated, what was left of the connection when its turn
began, the writes that were visible to that check, and those that were visible when it was sent. -/
structure Sent (U : Type) where
  frame : Frame U
  account : Option Identity
  remaining : Option ℚ
  known : List U
  visible : List U
  deriving DecidableEq, Repr

/-- A stream that was opened for `identity`; `queue` are the published changes it has not yet
received, while it is subscribed. -/
structure Connection (U : Type) where
  identity : Identity
  queue : Option (List U)
  sent : List (Sent U)

/-- The connection of each thread, if it serves one. -/
abbrev Connections (K U : Type) := K → Option (Connection U)

namespace Connections

variable {K U : Type} [DecidableEq K]

def opening (me : K) (identity : Identity) (s : Connections K U) : Connections K U :=
  Function.update s me (some
    { identity := identity
      queue := none
      sent := [] })

def setQueue (me : K) (queue : Option (List U)) (s : Connections K U) : Connections K U :=
  Function.update s me ((s me).map fun c => { c with queue := queue })

/-- The changes that are waiting for a thread. -/
def waiting (me : K) (s : Connections K U) : List U := ((s me).bind Connection.queue).getD []

def send (me : K) (sent : Sent U) (s : Connections K U) : Connections K U :=
  Function.update s me ((s me).map fun c => { c with sent := c.sent ++ [sent] })

/-- A message reaches those that are subscribed, or some of them. -/
def publish (reaches : K → Bool) (change : U) (s : Connections K U) : Connections K U :=
  fun k => (s k).map fun c =>
    if reaches k then { c with queue := c.queue.map (· ++ [change]) } else c

end Connections

/-! ## Statements -/

/-- Where a statement on the connections stands. -/
inductive LiveSite
  | opening
  | subscribe
  | receive
  | send
  | publish
  | close
  deriving DecidableEq, Repr

abbrev Live (K U ι : Type) := World K U ι × Connections K U

abbrev LiveSession (K U ι : Type) := Program (Site ⊕ LiveSite) (Live K U ι)

section Statements

variable {K U ι : Type} [DecidableEq K]

/-- `StreamingHttpResponse(change_stream(request, identity))` -/
def openStream (me : K) (identity : Identity) : LiveSession K U ι Unit :=
  .statement (.inr .opening) fun s => ((), (s.1, s.2.opening me identity))

/-- `subscription.subscribe(event_channel())` -/
def subscribe (me : K) : LiveSession K U ι Unit :=
  .statement (.inr .subscribe) fun s => ((), (s.1, s.2.setQueue me (some [])))

/-- `subscription.get_message`; `none` after a timeout. -/
def receive (me : K) : LiveSession K U ι (Option U) :=
  .statement (.inr .receive) fun s =>
    ((s.2.waiting me).head?,
      (s.1, s.2.setQueue me (((s.2 me).bind Connection.queue).map List.tail)))

/-- `client.aclose()` -/
def close (me : K) : LiveSession K U ι Unit :=
  .statement (.inr .close) fun s => ((), (s.1, s.2.setQueue me none))

/-- A frame that makes no client read anything. -/
def send (me : K) (frame : Frame U) (account : Option Identity) (remaining : Option ℚ)
    (known : List U) : LiveSession K U ι Unit :=
  .statement (.inr .send) fun s =>
    ((), (s.1, s.2.send me
      { frame := frame
        account := account
        remaining := remaining
        known := known
        visible := s.1.visible me }))

/-- A frame with a version; it stands for what its client reads now. -/
def announce (me : K) (address : ι) (version : NamespaceKey U) (frame : Frame U)
    (account : Identity) (remaining : Option ℚ) (known : List U) : LiveSession K U ι Unit :=
  .statement (.inr .send) fun s =>
    ((), (s.1.noteRead
        { namespaceKey := version
          identity := address } (s.1.visible me),
      s.2.send me
        { frame := frame
          account := some account
          remaining := remaining
          known := known
          visible := s.1.visible me }))

omit [DecidableEq K] in
/-- `publish_business_change`, whose failures are logged. -/
def publishBusinessChange (reaches : K → Bool) (change : U) : LiveSession K U ι Unit :=
  .statement (.inr .publish) fun s => ((), (s.1, s.2.publish reaches change))

end Statements

/-! ## Streams -/

/-- How a check goes: its authentication, whether the query of the markers raises, and the calls of
`cache_namespace`. -/
structure Check where
  authentication : Authentication
  queryFails : Bool
  faults : ReadFaults
  deriving DecidableEq, Repr

/-- One turn of the loop: the clocks, whether `get_message` raises while it waits, which of the calls
raise that drain the queue, and the check. -/
structure Turn where
  monotonic : ℚ
  time : ℚ
  waitFails : Bool
  drainFails : Nat → Bool
  check : Check

/-- How the calls of a stream go, turn after turn as long as it is served. -/
structure Stream (ι : Type) where
  address : ι
  started : ℚ
  connects : Bool
  acknowledged : Bool
  baseline : Check
  turns : List Turn

/-- A request of the view `events`: its method, its first check, whether it comes through ASGI, and
whether Redis is configured. -/
structure Request where
  method : String
  opening : Check
  asgi : Bool
  redis : Bool

/-- `MAX_STREAM_SECONDS` -/
def maxStreamSeconds : ℚ := 5 * 60

def remainingSeconds (identity : Identity) (started : ℚ) (turn : Turn) : ℚ :=
  min (maxStreamSeconds - (turn.monotonic - started)) (identity.exp - turn.time)

/-- The answer of `_state`: the identity, what `cache_namespace` has observed and the version. -/
structure Checked (U : Type) where
  identity : Identity
  seen : Observation U
  version : NamespaceKey U

section Programs

variable {K U ι : Type} [DecidableEq K]

/-- `_state` -/
def state [LinearOrder U] (env : Uuid4 K U) (me : K) (expected : Option Identity) (check : Check) :
    LiveSession K U ι (Except Failure (Checked U)) :=
  match expectIdentity expected check.authentication with
  | .error failure => pure (.error failure)
  | .ok identity =>
      if check.queryFails then pure (.error .other)
      else do
        let seen ← (readPending env me).onFirst
        let version ← (cacheVersion env me check.faults seen).onFirst
        pure (.ok
          { identity := identity
            seen := seen
            version :=
              { version := version
                digest := seen.digest } })

/-- The `except` clauses of `change_stream`, and its `finally`. -/
def interrupted (me : K) (remaining : Option ℚ) : Failure → LiveSession K U ι Unit
  | .authenticationFailed => do
      send me .authRequired none remaining []
      close me
  | .permissionDenied => do
      send me .authRequired none remaining []
      close me
  | .other => do
      send me .unavailable none remaining []
      close me

/-- At most `n` more messages are taken; the answer is whether no call has raised. -/
def drain (me : K) (fails : Nat → Bool) : Nat → LiveSession K U ι Bool
  | 0 => pure true
  | n + 1 =>
      if fails n then pure false
      else do
        match ← receive me with
        | some _ => drain me fails n
        | none => pure true

/-- A wakeup, and the burst of messages behind it. -/
def awaitChange (me : K) (turn : Turn) : LiveSession K U ι Bool :=
  if turn.waitFails then pure false
  else do
    match ← receive me with
    | some _ => drain me turn.drainFails 100
    | none => pure true

/-- The loop of `change_stream`, which has announced `version`. -/
def serve [LinearOrder U] (env : Uuid4 K U) (me : K) (identity : Identity) (address : ι)
    (started : ℚ) : List Turn → NamespaceKey U → LiveSession K U ι Unit
  | [], _ => pure ()
  | turn :: rest, version =>
      let remaining := remainingSeconds identity started turn
      if remaining ≤ 0 then do
        send me .reconnect none (some remaining) []
        close me
      else do
        if ← awaitChange me turn then
          match ← state env me (some identity) turn.check with
          | .error failure => interrupted me (some remaining) failure
          | .ok checked =>
              if checked.version ≠ version then do
                announce me address checked.version
                  (.dataChanged (groupsOf identity) checked.version) checked.identity
                  (some remaining) checked.seen.known
                serve env me identity address started rest checked.version
              else do
                send me .heartbeat (some checked.identity) (some remaining) checked.seen.known
                serve env me identity address started rest version
        else interrupted me (some remaining) .other

/-- `change_stream` -/
def changeStream [LinearOrder U] (env : Uuid4 K U) (me : K) (identity : Identity)
    (stream : Stream ι) : LiveSession K U ι Unit :=
  if stream.connects then do
    subscribe me
    if stream.acknowledged then
      match ← state env me (some identity) stream.baseline with
      | .error failure => interrupted me none failure
      | .ok checked => do
          send me .retry none none []
          announce me stream.address checked.version (.ready (groupsOf identity) checked.version)
            checked.identity none checked.seen.known
          serve env me identity stream.address stream.started stream.turns checked.version
    else interrupted me none .other
  else interrupted me none .other

/-- The view `events`; the answer is the status. -/
def events [LinearOrder U] (env : Uuid4 K U) (me : K) (request : Request) (stream : Stream ι) :
    LiveSession K U ι Nat :=
  if request.method ≠ "GET" then pure 405
  else do
    match ← state env me none request.opening with
    | .error .authenticationFailed => pure 401
    | .error .permissionDenied => pure 403
    | .error .other => pure 503
    | .ok checked =>
        if request.asgi = false ∨ request.redis = false then pure 503
        else do
          openStream me checked.identity
          changeStream env me checked.identity stream
          pure 200

/-! ## Writers that publish -/

/-- The `on_commit` hooks of a transaction, each of which publishes its change. -/
def runHooks [DecidableEq U] (env : Uuid4 K U) (me : K) (outcome : U → SetOutcome × RemoveOutcome)
    (reaches : U → K → Bool) : List U → LiveSession K U ι Unit
  | [] => pure ()
  | change :: rest => do
      if ← (invalidate env me (outcome change) change).onFirst then
        publishBusinessChange (reaches change) change
        runHooks env me outcome reaches rest
      else pure ()

/-- A command that publishes nothing, or a commit whose hooks publish. -/
inductive LiveCommand (K U ι : Type)
  | silent (command : Command U ι)
  | commit (outcome : U → SetOutcome × RemoveOutcome) (reaches : U → K → Bool)

def LiveCommand.exec [LinearOrder U] [DecidableEq ι] (env : Uuid4 K U) (me : K) :
    LiveCommand K U ι → LiveSession K U ι Unit
  | .silent command => (command.exec env me).onFirst
  | .commit outcome reaches => do
      let writes ← (commitAtomic me).onFirst
      runHooks env me outcome reaches writes

def liveScript [LinearOrder U] [DecidableEq ι] (env : Uuid4 K U) (me : K) :
    List (LiveCommand K U ι) → LiveSession K U ι Unit
  | [] => pure ()
  | command :: rest => do
      command.exec env me
      liveScript env me rest

/-! ## The system -/

/-- What a thread does: reads and changes, or one stream. -/
inductive Task (K U ι : Type)
  | script (commands : List (LiveCommand K U ι))
  | events (request : Request) (stream : Stream ι)

def Task.program [LinearOrder U] [DecidableEq ι] (env : Uuid4 K U) (me : K) :
    Task K U ι → LiveSession K U ι (Option Nat)
  | .script commands => do
      liveScript env me commands
      pure none
  | .events request stream => do
      let status ← LiveEvents.events env me request stream
      pure (some status)

/-- What happens by itself: to the caches, and to messages on their way. -/
inductive LiveEvent (K U ι : Type)
  | cache (event : CacheEvent U ι)
  | lost (k : K) (queue : Option (List U))

/-- Threads that run tasks and crash, which rolls a transaction back and closes a connection. -/
def machine [LinearOrder U] [DecidableEq ι] (env : Uuid4 K U) :
    Machine K (Task K U ι) (LiveEvent K U ι) (Site ⊕ LiveSite) (Live K U ι) (Option Nat) :=
  { program := Task.program env
    release := fun me s => (s.1.setTransaction me none, s.2.setQueue me none)
    ambient := fun event s =>
      match event with
      | .cache e => (e.happen env s.1, s.2)
      | .lost k queue => (s.1, s.2.setQueue k queue) }

/-- The state after some events, from an empty database, empty caches and no connections. -/
def reached [LinearOrder U] [DecidableEq ι] (env : Uuid4 K U)
    (happened : List (Event K (Task K U ι) (LiveEvent K U ι))) : Live K U ι :=
  ((machine env).run (System.start (World.empty, fun _ => none)) happened).shared

end Programs

/-! ## What a client may rely on -/

/-- What a client knows of its connection.  While it follows the data it holds a version, and the
writes that were visible when it was told to read it. -/
inductive Client (U : Type)
  | connecting
  | connected
  | following (version : NamespaceKey U) (visible : List U)
  | closed

/-- The frames a connection for `identity` may send next.  Every one that speaks of the data comes from
a check that has authenticated this very identity, and those behind `ready` are sent in a turn that
began before the time of the stream was over.  A heartbeat says that the client has everything its
check knew of. -/
inductive Client.Receives {U : Type} (identity : Identity) : Client U → Sent U → Client U → Prop
  | retry (sent : Sent U) (hframe : sent.frame = .retry) :
      Receives identity .connecting sent .connected
  | ready (sent : Sent U) (version : NamespaceKey U)
      (hframe : sent.frame = .ready (groupsOf identity) version)
      (haccount : sent.account = some identity) :
      Receives identity .connected sent (.following version sent.visible)
  | dataChanged (sent : Sent U) (version version' : NamespaceKey U) (visible : List U)
      (remaining : ℚ) (hframe : sent.frame = .dataChanged (groupsOf identity) version')
      (hnew : version' ≠ version) (haccount : sent.account = some identity)
      (htime : sent.remaining = some remaining) (hpositive : 0 < remaining) :
      Receives identity (.following version visible) sent (.following version' sent.visible)
  | heartbeat (sent : Sent U) (version : NamespaceKey U) (visible : List U) (remaining : ℚ)
      (hframe : sent.frame = .heartbeat) (haccount : sent.account = some identity)
      (htime : sent.remaining = some remaining) (hpositive : 0 < remaining)
      (hcovered : ∀ w ∈ sent.known, w ∈ visible) :
      Receives identity (.following version visible) sent (.following version visible)
  | reconnect (sent : Sent U) (version : NamespaceKey U) (visible : List U) (remaining : ℚ)
      (hframe : sent.frame = .reconnect) (htime : sent.remaining = some remaining)
      (hover : remaining ≤ 0) :
      Receives identity (.following version visible) sent .closed
  | refused (sent : Sent U) (hframe : sent.frame = .authRequired ∨ sent.frame = .unavailable) :
      Receives identity .connecting sent .closed
  | interrupted (sent : Sent U) (version : NamespaceKey U) (visible : List U)
      (hframe : sent.frame = .authRequired ∨ sent.frame = .unavailable) :
      Receives identity (.following version visible) sent .closed

/-- The frames of a connection, in order, lead a client from the start to a state. -/
inductive Client.Received {U : Type} (identity : Identity) : List (Sent U) → Client U → Prop
  | nil : Received identity [] .connecting
  | snoc {before : List (Sent U)} {client client' : Client U} {sent : Sent U}
      (h : Received identity before client) (hnext : client.Receives identity sent client') :
      Received identity (before ++ [sent]) client'

/-- The connection sends what a client can follow. -/
def Connection.Faithful {U : Type} (c : Connection U) : Prop :=
  ∃ client : Client U, client.Received c.identity c.sent

end LiveEvents
end RosarioDairy
