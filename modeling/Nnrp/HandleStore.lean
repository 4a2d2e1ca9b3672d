import Nnrp.FfiHandle

/-!
# The handle store of the foreign interface

Connections, sessions, accept tickets, operations and cache leases live in one store under the kind
and the id of their handle. A session names its connection, a ticket its server, an operation its
session and a lease its owner by a handle; these handles are kept as the caller has passed them.
A lookup ignores the flags of a handle.

Two lists remember, for the operations of a server, which lifecycle events were delivered and which
terminal replies were sent before; a handle is retired when both have happened.
-/

namespace Nnrp.Ffi
open OrderedMap

inductive NnrpFfiConnectionRole
  | client | server
  deriving DecidableEq

/-- `δ` is what else a resource holds. -/
inductive NnrpFfiResource (δ : Type)
  | connection (role : NnrpFfiConnectionRole) (data : δ)
  | session (connection : NnrpHandle) (sessionId : UInt32) (data : δ)
  | serverAccept (server : NnrpHandle) (data : δ)
  | operation (session : NnrpHandle) (operationId : UInt64) (frameId : UInt32)
      (serverOperation : Bool) (data : δ)
  | schemaRegistry (data : δ)
  | buffer (bytes : List UInt8)
  | objectDescriptor (data : δ)
  | cacheReferenceDescriptor (data : δ)
  | cacheLease (owner : NnrpHandle) (data : δ)

namespace NnrpFfiResource

variable {δ : Type}

def kind : NnrpFfiResource δ → NnrpHandleKind
  | .connection .. => .connection
  | .session .. => .session
  | .serverAccept .. => .serverAccept
  | .operation .. => .operation
  | .schemaRegistry _ => .schemaRegistry
  | .buffer _ => .buffer
  | .objectDescriptor _ => .objectDescriptor
  | .cacheReferenceDescriptor _ => .cacheReferenceDescriptor
  | .cacheLease .. => .cacheLease

def owner : NnrpFfiResource δ → Option NnrpHandle
  | .session parent _ _ => some parent
  | .serverAccept parent _ => some parent
  | .operation parent _ _ _ _ => some parent
  | .cacheLease parent _ => some parent
  | .connection _ _ | .schemaRegistry _ | .buffer _ | .objectDescriptor _
  | .cacheReferenceDescriptor _ => none

end NnrpFfiResource

structure NnrpFfiResourceEntry (δ : Type) where
  generation : UInt32
  resource : NnrpFfiResource δ

structure NnrpFfiHandleStore (δ : Type) where
  entries : BTreeMap (UInt32 × UInt64) (NnrpFfiResourceEntry δ) := ∅
  lifecycleDeliveredOperations : List (NnrpHandle × NnrpHandle) := []
  terminalOperationReplies : List NnrpHandle := []

def handleOf {δ : Type} (key : UInt32 × UInt64) (entry : NnrpFfiResourceEntry δ) : NnrpHandle :=
  ⟨key.1, key.2, entry.generation, 0⟩

namespace NnrpFfiHandleStore

variable {δ : Type} (store : NnrpFfiHandleStore δ)

def invalidateAll : NnrpFfiHandleStore δ where
  entries := ∅
  lifecycleDeliveredOperations := []
  terminalOperationReplies := []

def insert (id : UInt64) (generation : UInt32) (resource : NnrpFfiResource δ) :
    Except NnrpFfiStatus (NnrpFfiHandleStore δ) := do
  let handle := NnrpHandle.new resource.kind id generation
  handle.validateKind resource.kind
  if handle.slot ∈ store.entries then throw (.invalidState handle.kind)
  pure { store with entries := store.entries.insert handle.slot ⟨handle.generation, resource⟩ }

def get (handle : NnrpHandle) (kind : NnrpHandleKind) :
    Except NnrpFfiStatus (NnrpFfiResource δ) := do
  handle.validateKind kind
  match store.entries[handle.slot]? with
  | none => throw (.invalidHandle kind.toU32)
  | some entry =>
    if entry.generation ≠ handle.generation then throw (.invalidHandle kind.toU32)
    pure entry.resource

def remove (handle : NnrpHandle) (kind : NnrpHandleKind) :
    Except NnrpFfiStatus (NnrpFfiHandleStore δ) := do
  let _ ← store.get handle kind
  let store := { store with entries := store.entries.erase handle.normalized.slot }
  if kind = .operation then
    pure { store with
      lifecycleDeliveredOperations :=
        store.lifecycleDeliveredOperations.filter fun pair => pair.2 ≠ handle.normalized
      terminalOperationReplies :=
        store.terminalOperationReplies.filter fun operation => operation ≠ handle.normalized }
  else pure store

def markOperationLifecycleDelivered (session operation : NnrpHandle) : NnrpFfiHandleStore δ :=
  if (session.normalized, operation.normalized) ∈ store.lifecycleDeliveredOperations then store
  else
    { store with
      lifecycleDeliveredOperations :=
        store.lifecycleDeliveredOperations ++ [(session.normalized, operation.normalized)] }

def recordTerminalOperationReply (session operation : NnrpHandle) :
    Except NnrpFfiStatus (NnrpFfiHandleStore δ) := do
  let _ ← store.get operation .operation
  if (session.normalized, operation.normalized) ∈ store.lifecycleDeliveredOperations then
    store.remove operation.normalized .operation
  else if operation.normalized ∈ store.terminalOperationReplies then pure store
  else
    pure { store with
      terminalOperationReplies := store.terminalOperationReplies ++ [operation.normalized] }

def terminalOperationReplyRecorded (operation : NnrpHandle) : Bool :=
  operation.normalized ∈ store.terminalOperationReplies

/-- The first operation of the session with the id and in the frame. -/
def findOperationHandle (session : NnrpHandle) (operationId : Option UInt64)
    (frameId : Option UInt32) : Except NnrpFfiStatus NnrpHandle :=
  let found := store.entries.toList.find? fun entry =>
    match entry.2.resource with
    | .operation ownedSession ownedOperation ownedFrame _ _ =>
      ownedSession = session ∧ operationId.all (· = ownedOperation) ∧ frameId.all (· = ownedFrame)
    | _ => false
  match found with
  | some entry => .ok (handleOf entry.1 entry.2)
  | none => .error (.invalidHandle NnrpHandleKind.operation.toU32)

def serverOperation (operation : NnrpHandle) : Bool :=
  if operation.kind = NnrpHandleKind.operation.toU32 then
    match store.get operation .operation with
    | .ok (.operation _ _ _ serverOperation _) => serverOperation
    | _ => false
  else false

/-- A lifecycle event retires the operation if its terminal reply was sent. -/
def settleLifecycle (scope operation : NnrpHandle) :
    Except NnrpFfiStatus (NnrpFfiHandleStore δ × NnrpHandle) :=
  if store.serverOperation operation ∧ store.terminalOperationReplyRecorded operation then do
    let store ← store.remove operation .operation
    pure (store, .invalid)
  else if store.serverOperation operation then
    pure (store.markOperationLifecycleDelivered scope operation, operation)
  else pure (store, operation)

/-- What `role_lifecycle_event` does to the store, with the operation that the event names. -/
def deliverLifecycle (scope : NnrpHandle) (operationId : UInt64) :
    Except NnrpFfiStatus (NnrpFfiHandleStore δ × NnrpHandle) := do
  match ← store.get scope .session with
  | .session _ _ _ =>
    match store.findOperationHandle scope (some operationId) none with
    | .ok operation => store.settleLifecycle scope operation
    | .error _ => store.settleLifecycle scope .invalid
  | _ => throw (.invalidHandle NnrpHandleKind.session.toU32)

/-- `nnrp_server_accept_release` -/
def releaseAccept (accept : NnrpHandle) : Except NnrpFfiStatus (NnrpFfiHandleStore δ) :=
  match store.entries[accept.slot]? with
  | none => .error (.invalidHandle NnrpHandleKind.serverAccept.toU32)
  | some entry =>
    if accept.kind = NnrpHandleKind.serverAccept.toU32 ∧ accept.id ≠ 0 ∧ accept.generation ≠ 0 ∧
        entry.generation = accept.generation then
      .ok { store with entries := store.entries.erase accept.slot }
    else .error (.invalidHandle NnrpHandleKind.serverAccept.toU32)

def handlesWhere (test : NnrpFfiResource δ → Bool) : List NnrpHandle :=
  (store.entries.toList.filter fun entry => test entry.2.resource).map fun entry =>
    handleOf entry.1 entry.2

variable (entries : BTreeMap (UInt32 × UInt64) (NnrpFfiResourceEntry δ))

def eraseAll (handles : List NnrpHandle) : BTreeMap (UInt32 × UInt64) (NnrpFfiResourceEntry δ) :=
  handles.foldl (fun entries handle => entries.erase handle.slot) entries

variable (connection : NnrpHandle)

def acceptsOf : List NnrpHandle :=
  store.handlesWhere fun
    | .serverAccept server _ => server = connection
    | _ => false

def sessionsOf : List NnrpHandle :=
  store.handlesWhere fun
    | .session owner _ _ => owner = connection
    | _ => false

def operationsOf (sessions : List NnrpHandle) : List NnrpHandle :=
  store.handlesWhere fun
    | .operation session _ _ _ _ => session ∈ sessions
    | _ => false

def withoutLeases
    (owners : List NnrpHandle) : BTreeMap (UInt32 × UInt64) (NnrpFfiResourceEntry δ) :=
  entries.filter fun _ entry =>
    match entry.resource with
    | .cacheLease owner _ => owner ∉ owners
    | _ => true

def closeConnection :
    Except NnrpFfiStatus (NnrpFfiHandleStore δ) := do
  let _ ← store.get connection .connection
  let accepts := store.acceptsOf connection
  let sessions := store.sessionsOf connection
  let operations := store.operationsOf sessions
  let entries := eraseAll (eraseAll (eraseAll store.entries operations) accepts) sessions
  let entries := withoutLeases entries (connection :: sessions ++ operations)
  pure {
    entries := entries.erase connection.slot
    lifecycleDeliveredOperations :=
      store.lifecycleDeliveredOperations.filter fun pair => pair.1 ∉ sessions
    terminalOperationReplies :=
      store.terminalOperationReplies.filter fun operation => operation ∉ operations }

def closeSession (session : NnrpHandle) : Except NnrpFfiStatus (NnrpFfiHandleStore δ) := do
  let _ ← store.get session .session
  let operations := store.operationsOf [session]
  let entries := eraseAll store.entries operations
  let entries := withoutLeases entries (session :: operations)
  pure {
    entries := entries.erase session.slot
    lifecycleDeliveredOperations :=
      store.lifecycleDeliveredOperations.filter fun pair => pair.1 ≠ session
    terminalOperationReplies :=
      store.terminalOperationReplies.filter fun operation => operation ∉ operations }

end NnrpFfiHandleStore

end Nnrp.Ffi
