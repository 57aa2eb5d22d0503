import Mathlib.Data.List.Sort
import RosarioDairy.Foundations.Interleaving

/-!
# CacheNamespace — cached payloads and pending invalidations

`invalidate_namespace` commits a marker with every change of the data and afterwards rotates the
version key; `cache_namespace` makes the key of a payload of the version and a digest of the markers
it has observed.  `cache_api_response` looks the payload up, or reads the data and stores it.  Every
database statement and every cache call of a thread is one step, any of which may fail; the database
reads committed data, and a thread that has a transaction open also sees what it wrote itself.

A write stands for the rows it changes together with its marker and goes by the marker's key.  A
payload is what it was computed from: the writes each statement of the handler has seen.
-/

namespace RosarioDairy
namespace CacheGuard

open Foundations

/-! ## Keys -/

/-- `uuid4`: no value is drawn twice, neither by the threads nor by calls that nobody waits for any
more (`none`). -/
structure Uuid4 (K U : Type) where
  value : Option K × Nat → U
  injective : Function.Injective value

/-- The digest of the pending markers, or a value of its own where there are too many.  `sha256` is
taken as injective: its results are the data they are made of. -/
inductive Digest (U : Type)
  | unique (value : U)
  | pending (ids : List U)
  deriving DecidableEq, Repr

/-- `sha256(f'{version}:{digest}')`. -/
structure NamespaceKey (U : Type) where
  version : U
  digest : Digest U
  deriving DecidableEq, Repr

/-- The namespace, and the rest of the identity of a request: user, role, address and date. -/
structure PayloadKey (U ι : Type) where
  namespaceKey : NamespaceKey U
  identity : ι
  deriving DecidableEq, Repr

/-- The writes a statement sees. -/
abbrev Snapshot (U : Type) := List U

/-- What the statements of a handler have seen. -/
abbrev Payload (U : Type) := List (Snapshot U)

/-- A response: the writes that were visible to the reader when it read the markers, the payload, and
the writes that are visible to it when it receives the payload. -/
structure Delivery (K U : Type) where
  reader : K
  known : List U
  payload : Payload U
  visible : List U
  deriving DecidableEq, Repr

/-! ## The database and the caches -/

/-- The committed writes and markers, the writes of each open transaction, the version key, the
shared cache and the memory of each server process.  `reads` keeps what was ever read for which key,
and `deliveries` what was ever answered. -/
structure World (K U ι : Type) where
  drawn : Option K → Nat
  committed : List U
  markers : List U
  transactions : K → Option (List U)
  version : Option U
  cache : PayloadKey U ι → Option (Payload U)
  memory : Nat → PayloadKey U ι → Option (Payload U)
  reads : List (PayloadKey U ι × Snapshot U)
  deliveries : List (Delivery K U)

/-- Where a statement stands. -/
inductive Site
  | readPending
  | rotate
  | removePending
  | getVersion
  | addVersion
  | drawVersion
  | getMemory
  | getPayload
  | setMemory
  | readData
  | setPayload
  | respond
  | begin
  | write
  | rollback
  | commit
  deriving DecidableEq, Repr

/-- A cache write that returns, or one that fails, with or without its effect. -/
inductive SetOutcome
  | done
  | failed (applied : Bool)
  deriving DecidableEq, Repr

/-- A deletion that is done, one whose `DatabaseError` is logged, or one that raises another error,
with or without its effect. -/
inductive RemoveOutcome
  | deleted
  | retained
  | raised (deleted : Bool)
  deriving DecidableEq, Repr

/-- `RECOVERY_BATCH_SIZE`. -/
def recoveryBatchSize : Nat := 1000

namespace World

variable {K U ι : Type} [DecidableEq K]

def empty : World K U ι :=
  { drawn := fun _ => 0
    committed := []
    markers := []
    transactions := fun _ => none
    version := none
    cache := fun _ => none
    memory := fun _ _ => none
    reads := []
    deliveries := [] }

/-- The writes of the open transaction of a thread. -/
def own (me : K) (s : World K U ι) : List U := (s.transactions me).getD []

/-- What a statement of a thread sees. -/
def visible (me : K) (s : World K U ι) : Snapshot U := s.committed ++ s.own me

/-- The value `uuid4` returns next. -/
def nextUuid (env : Uuid4 K U) (me : Option K) (s : World K U ι) : U :=
  env.value (me, s.drawn me)

def draw (me : Option K) (s : World K U ι) : World K U ι :=
  { s with drawn := Function.update s.drawn me (s.drawn me + 1) }

def setVersion (version : Option U) (s : World K U ι) : World K U ι :=
  { s with version := version }

def setTransaction (me : K) (writes : Option (List U)) (s : World K U ι) : World K U ι :=
  { s with transactions := Function.update s.transactions me writes }

/-- The markers become rows for everyone at the moment their writes do. -/
def commitWrites (writes : List U) (s : World K U ι) : World K U ι :=
  { s with
    committed := s.committed ++ writes
    markers := s.markers ++ writes }

def removeMarkers [DecidableEq U] (ids : List U) (s : World K U ι) : World K U ι :=
  { s with markers := s.markers.filter fun marker => marker ∉ ids }

def noteRead (key : PayloadKey U ι) (snapshot : Snapshot U) (s : World K U ι) : World K U ι :=
  { s with reads := s.reads ++ [(key, snapshot)] }

section Payloads

variable [DecidableEq U] [DecidableEq ι]

def setPayload (key : PayloadKey U ι) (payload : Option (Payload U)) (s : World K U ι) :
    World K U ι :=
  { s with cache := Function.update s.cache key payload }

def setMemory (host : Nat) (key : PayloadKey U ι) (payload : Option (Payload U))
    (s : World K U ι) : World K U ι :=
  { s with
    memory := Function.update s.memory host (Function.update (s.memory host) key payload) }

end Payloads

def respond (delivery : Delivery K U) (s : World K U ι) : World K U ι :=
  { s with deliveries := s.deliveries ++ [delivery] }

end World

/-! ## Statements -/

section Statements

variable {K U ι : Type} [DecidableEq K]

abbrev Session (K U ι : Type) := Program Site (World K U ι)

/-- What `cache_namespace` has observed: `pending` are the markers it may delete. -/
structure Observation (U : Type) where
  known : List U
  pending : List U
  digest : Digest U
  inAtomicBlock : Bool

/-- The first markers by key, one more than recovery takes at a time. -/
def pendingIds [LinearOrder U] (me : K) (s : World K U ι) : List U :=
  ((s.markers ++ s.own me).insertionSort (· ≤ ·)).take (recoveryBatchSize + 1)

/-- The query of the pending markers, and the digest. -/
def readPending [LinearOrder U] (env : Uuid4 K U) (me : K) : Session K U ι (Observation U) :=
  .statement .readPending fun s =>
    if recoveryBatchSize < (pendingIds me s).length then
      ({ known := s.visible me
         pending := (pendingIds me s).take recoveryBatchSize
         digest := .unique (s.nextUuid env (some me))
         inAtomicBlock := (s.transactions me).isSome }, s.draw (some me))
    else
      ({ known := s.visible me
         pending := pendingIds me s
         digest := .pending (pendingIds me s)
         inAtomicBlock := (s.transactions me).isSome }, s)

/-- `_rotate`; `none` where it raises. -/
def rotate (env : Uuid4 K U) (me : K) (outcome : SetOutcome) : Session K U ι (Option U) :=
  .statement .rotate fun s =>
    match outcome with
    | .done =>
        (some (s.nextUuid env (some me)),
          (s.draw (some me)).setVersion (some (s.nextUuid env (some me))))
    | .failed true =>
        (none, (s.draw (some me)).setVersion (some (s.nextUuid env (some me))))
    | .failed false => (none, s.draw (some me))

/-- `_remove_pending`, which returns unless it raises something else than a `DatabaseError`. -/
def removePending [DecidableEq U] (ids : List U) (outcome : RemoveOutcome) : Session K U ι Bool :=
  .statement .removePending fun s =>
    match outcome with
    | .deleted => (true, s.removeMarkers ids)
    | .retained => (true, s)
    | .raised true => (false, s.removeMarkers ids)
    | .raised false => (false, s)

/-- `cache.get(version_key)`; `none` where it raises. -/
def getVersion (fails : Bool) : Session K U ι (Option (Option U)) :=
  .statement .getVersion fun s => (if fails then none else some s.version, s)

/-- `cache.add(version_key, uuid4().hex)`; it returns unless it raises. -/
def addVersion (env : Uuid4 K U) (me : K) (outcome : SetOutcome) : Session K U ι Bool :=
  .statement .addVersion fun s =>
    match outcome, s.version with
    | .done, none =>
        (true, (s.draw (some me)).setVersion (some (s.nextUuid env (some me))))
    | .failed true, none =>
        (false, (s.draw (some me)).setVersion (some (s.nextUuid env (some me))))
    | .done, some _ => (true, s.draw (some me))
    | .failed _, _ => (false, s.draw (some me))

/-- `uuid4().hex` in place of a version. -/
def drawVersion (env : Uuid4 K U) (me : K) : Session K U ι U :=
  .statement .drawVersion fun s => (s.nextUuid env (some me), s.draw (some me))

/-- A statement of the handler. -/
def readData (me : K) (key : PayloadKey U ι) : Session K U ι (Snapshot U) :=
  .statement .readData fun s => (s.visible me, s.noteRead key (s.visible me))

/-- The response of a reader. -/
def respond (me : K) (known : List U) (payload : Payload U) : Session K U ι Unit :=
  .statement .respond fun s =>
    ((), s.respond
      { reader := me
        known := known
        payload := payload
        visible := s.visible me })

section Payloads

variable [DecidableEq U] [DecidableEq ι]

/-- `_memory.get(key)`. -/
def getMemory (host : Nat) (key : PayloadKey U ι) : Session K U ι (Option (Payload U)) :=
  .statement .getMemory fun s => (s.memory host key, s)

def setMemory (host : Nat) (key : PayloadKey U ι) (payload : Payload U) : Session K U ι Unit :=
  .statement .setMemory fun s => ((), s.setMemory host key (some payload))

/-- `cache.get(key)`; a failure is a miss. -/
def getShared (key : PayloadKey U ι) (fails : Bool) : Session K U ι (Option (Payload U)) :=
  .statement .getPayload fun s => (if fails then none else s.cache key, s)

/-- `cache.set(key, entry)`; it returns unless it raises. -/
def setShared (key : PayloadKey U ι) (payload : Payload U) (outcome : SetOutcome) :
    Session K U ι Bool :=
  .statement .setPayload fun s =>
    match outcome with
    | .done => (true, s.setPayload key (some payload))
    | .failed true => (false, s.setPayload key (some payload))
    | .failed false => (false, s)

end Payloads

/-- `BEGIN`, or a savepoint where a transaction is open already. -/
def beginAtomic (me : K) : Session K U ι Unit :=
  .statement .begin fun s => ((), s.setTransaction me (some (s.own me)))

/-- A change of the data and the marker that `invalidate_namespace` creates, inside a transaction. -/
def writeMarked (env : Uuid4 K U) (me : K) : Session K U ι Unit :=
  .statement .write fun s =>
    match s.transactions me with
    | some writes =>
        ((), (s.draw (some me)).setTransaction me (some (writes ++ [s.nextUuid env (some me)])))
    | none => ((), s)

/-- `ROLLBACK TO SAVEPOINT`: the first writes of the transaction stay. -/
def rollbackToSavepoint (me : K) (kept : Nat) : Session K U ι Unit :=
  .statement .rollback fun s =>
    ((), s.setTransaction me ((s.transactions me).map fun writes => writes.take kept))

def rollbackAtomic (me : K) : Session K U ι Unit :=
  .statement .rollback fun s => ((), s.setTransaction me none)

/-- `COMMIT`; the answer is what is to be invalidated. -/
def commitAtomic (me : K) : Session K U ι (List U) :=
  .statement .commit fun s => (s.own me, (s.commitWrites (s.own me)).setTransaction me none)

end Statements

/-! ## Readers -/

/-- How the calls of a read go. -/
structure ReadFaults where
  rotate : SetOutcome
  remove : RemoveOutcome
  get : Bool
  add : SetOutcome
  getAgain : Bool
  lookup : Bool
  store : SetOutcome
  deriving DecidableEq, Repr

/-- A request for cached data: the server process, the rest of its identity, how many statements its
handler issues and whether it answers with status 200. -/
structure ReadRequest (ι : Type) where
  host : Nat
  identity : ι
  statements : Nat
  succeeds : Bool
  faults : ReadFaults
  deriving DecidableEq, Repr

/-- A change inside or around a transaction, or a read.  The outcomes of a commit are those of its
`on_commit` calls, by marker. -/
inductive Command (U ι : Type)
  | begin
  | write
  | rollbackTo (kept : Nat)
  | rollback
  | commit (outcome : U → SetOutcome × RemoveOutcome)
  | read (request : ReadRequest ι)

section Programs

variable {K U ι : Type} [DecidableEq K]

/-- Recovery where markers are pending, outside of transactions. -/
def recoverVersion [DecidableEq U] (env : Uuid4 K U) (me : K) (faults : ReadFaults)
    (pending : List U) : Session K U ι U := do
  match ← rotate env me faults.rotate with
  | some version =>
      if ← removePending pending faults.remove then pure version else drawVersion env me
  | none => drawVersion env me

/-- The version key, which is set where it is missing. -/
def currentVersion (env : Uuid4 K U) (me : K) (faults : ReadFaults) : Session K U ι U := do
  match ← getVersion faults.get with
  | some (some version) => pure version
  | some none =>
      if ← addVersion env me faults.add then
        match ← getVersion faults.getAgain with
        | some (some version) => pure version
        | _ => drawVersion env me
      else drawVersion env me
  | none => drawVersion env me

/-- The body of `cache_namespace` after its query. -/
def cacheVersion [DecidableEq U] (env : Uuid4 K U) (me : K) (faults : ReadFaults)
    (seen : Observation U) : Session K U ι U :=
  if seen.pending ≠ [] ∧ seen.inAtomicBlock = false then
    recoverVersion env me faults seen.pending
  else currentVersion env me faults

section Payloads

variable [DecidableEq U] [DecidableEq ι]

/-- `get_payload`: an entry that is found in the shared cache is kept in memory. -/
def getPayload (host : Nat) (key : PayloadKey U ι) (fails : Bool) :
    Session K U ι (Option (Payload U)) := do
  match ← getMemory host key with
  | some payload => pure (some payload)
  | none =>
      match ← getShared key fails with
      | some payload => do
          setMemory host key payload
          pure (some payload)
      | none => pure none

def setPayload (host : Nat) (key : PayloadKey U ι) (payload : Payload U) (outcome : SetOutcome) :
    Session K U ι Unit := do
  if ← setShared key payload outcome then setMemory host key payload else pure ()

/-- The statements of the handler. -/
def handle (me : K) (key : PayloadKey U ι) : Nat → Session K U ι (Payload U)
  | 0 => pure []
  | n + 1 => do
      let snapshot ← readData me key
      let rest ← handle me key n
      pure (snapshot :: rest)

/-- `cache_api_response` after `cache_namespace`. -/
def answer (me : K) (request : ReadRequest ι) (known : List U) (key : PayloadKey U ι) :
    Session K U ι Unit := do
  match ← getPayload request.host key request.faults.lookup with
  | some payload => respond me known payload
  | none => do
      let payload ← handle me key request.statements
      if request.succeeds then
        setPayload request.host key payload request.faults.store
        respond me known payload
      else respond me known payload

end Payloads

/-- `cache_api_response`. -/
def cacheApiResponse [LinearOrder U] [DecidableEq ι] (env : Uuid4 K U) (me : K)
    (request : ReadRequest ι) : Session K U ι Unit := do
  let seen ← readPending env me
  let version ← cacheVersion env me request.faults seen
  answer me request seen.known
    { namespaceKey :=
        { version := version
          digest := seen.digest }
      identity := request.identity }

/-! ## Writers -/

/-- The `invalidate` of one marker; it says whether the remaining hooks run. -/
def invalidate [DecidableEq U] (env : Uuid4 K U) (me : K) (outcome : SetOutcome × RemoveOutcome)
    (marker : U) : Session K U ι Bool := do
  match ← rotate env me outcome.1 with
  | some _ => removePending [marker] outcome.2
  | none => pure true

/-- The `on_commit` hooks of a transaction. -/
def runHooks [DecidableEq U] (env : Uuid4 K U) (me : K)
    (outcome : U → SetOutcome × RemoveOutcome) : List U → Session K U ι Unit
  | [] => pure ()
  | marker :: rest => do
      if ← invalidate env me (outcome marker) marker then runHooks env me outcome rest
      else pure ()

def Command.exec [LinearOrder U] [DecidableEq ι] (env : Uuid4 K U) (me : K) :
    Command U ι → Session K U ι Unit
  | .begin => beginAtomic me
  | .write => writeMarked env me
  | .rollbackTo kept => rollbackToSavepoint me kept
  | .rollback => rollbackAtomic me
  | .commit outcome => do
      let writes ← commitAtomic me
      runHooks env me outcome writes
  | .read request => cacheApiResponse env me request

/-- What a thread does, one command after the other. -/
def script [LinearOrder U] [DecidableEq ι] (env : Uuid4 K U) (me : K) :
    List (Command U ι) → Session K U ι Unit
  | [] => pure ()
  | command :: rest => do
      command.exec env me
      script env me rest

end Programs

/-! ## The system -/

/-- What happens to the caches by itself: entries expire or are evicted, and a call that was given up
takes effect late. -/
inductive CacheEvent (U ι : Type)
  | evictVersion
  | evictPayload (key : PayloadKey U ι)
  | evictMemory (host : Nat) (key : PayloadKey U ι)
  | lateVersion

section System

variable {K U ι : Type} [DecidableEq K] [LinearOrder U] [DecidableEq ι]

def CacheEvent.happen (env : Uuid4 K U) : CacheEvent U ι → World K U ι → World K U ι
  | .evictVersion, s => s.setVersion none
  | .evictPayload key, s => s.setPayload key none
  | .evictMemory host key, s => s.setMemory host key none
  | .lateVersion, s => (s.draw none).setVersion (some (s.nextUuid env none))

/-- Threads that run scripts and crash, which rolls an open transaction back. -/
def machine (env : Uuid4 K U) :
    Machine K (List (Command U ι)) (CacheEvent U ι) Site (World K U ι) Unit :=
  { program := script env
    release := fun me s => s.setTransaction me none
    ambient := CacheEvent.happen env }

/-- The state after some events, from an empty database and empty caches. -/
def reached (env : Uuid4 K U) (events : List (Event K (List (Command U ι)) (CacheEvent U ι))) :
    World K U ι :=
  ((machine env).run (System.start World.empty) events).shared

end System

end CacheGuard
end RosarioDairy
