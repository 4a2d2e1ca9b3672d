import Nnrp.OrderedMap

/-!
# Handles of the foreign interface

A caller of the foreign interface names a resource by a handle: its kind, an id, the generation of
the id and flags. The stores find the resource by kind and id, in this order.
-/

namespace Nnrp.Ffi

inductive NnrpHandleKind
  | invalid | connection | session | operation | eventPump | buffer | schemaRegistry | cacheLease
  | objectDescriptor | cacheReferenceDescriptor | transportConnection | transportListener
  | transportSecurityConfig | serverAccept
  deriving DecidableEq

def NnrpHandleKind.toU32 : NnrpHandleKind → UInt32
  | .invalid => 0
  | .connection => 1
  | .session => 2
  | .operation => 3
  | .eventPump => 4
  | .buffer => 5
  | .schemaRegistry => 6
  | .cacheLease => 7
  | .objectDescriptor => 8
  | .cacheReferenceDescriptor => 9
  | .transportConnection => 10
  | .transportListener => 11
  | .transportSecurityConfig => 12
  | .serverAccept => 13

structure NnrpHandle where
  kind : UInt32
  id : UInt64
  (generation flags : UInt32)
  deriving DecidableEq

inductive NnrpFfiStatusCode
  | ok | invalidArgument | invalidHandle | invalidState | protocolError | wouldBlock
  | callbackRejected | internalError
  deriving DecidableEq

inductive NnrpErrorFamily
  | none | session | cache | schema | transport | lifecycle | operation | control | runtimeObject
  | internal
  deriving DecidableEq

structure NnrpFfiStatus where
  statusCode : NnrpFfiStatusCode
  errorFamily : NnrpErrorFamily
  (protocolErrorCode detailCode : UInt32)
  deriving DecidableEq

namespace NnrpFfiStatus

variable (detailCode : UInt32)

def invalidArgument : NnrpFfiStatus :=
  ⟨.invalidArgument, .none, 0, detailCode⟩

def invalidHandle : NnrpFfiStatus :=
  ⟨.invalidHandle, .lifecycle, 0, detailCode⟩

def invalidState : NnrpFfiStatus :=
  ⟨.invalidState, .lifecycle, 0, detailCode⟩

end NnrpFfiStatus

namespace NnrpHandle

def invalid : NnrpHandle := ⟨NnrpHandleKind.invalid.toU32, 0, 0, 0⟩

def new (kind : NnrpHandleKind) (id : UInt64) (generation : UInt32) : NnrpHandle :=
  ⟨kind.toU32, id, generation, 0⟩

variable (handle : NnrpHandle)

def validateKind (kind : NnrpHandleKind) : Except NnrpFfiStatus Unit :=
  if handle.kind ≠ kind.toU32 ∨ handle.id = 0 ∨ handle.generation = 0 then
    .error (.invalidHandle kind.toU32)
  else .ok ()

def normalized : NnrpHandle := { handle with flags := 0 }

def slot : UInt32 × UInt64 := (handle.kind, handle.id)

theorem eq_iff {a b : NnrpHandle} :
    a = b ↔ a.slot = b.slot ∧ a.generation = b.generation ∧ a.flags = b.flags := by
  cases a
  cases b
  simp [slot, and_assoc]

end NnrpHandle

instance slotOrd : Ord (UInt32 × UInt64) := lexOrd

end Nnrp.Ffi
