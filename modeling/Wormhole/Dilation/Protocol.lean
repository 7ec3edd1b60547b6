/-
  Wormhole.Dilation.Protocol

  The data model of the dilation engine: the `dilationProtocol` record, the
  constants of its three state machines (manager, connector, L2 connection),
  `InitDilation` and `chooseRole`.

  States and roles are Go string types, so a state field can hold any string;
  the declared constants are the strings the machines compare against.  Event
  and output codes are Go `int`s (`Int` here: nothing computes with them, the
  machines only compare them with constants).

  What the record leaves out: the four mutexes (the model is single-writer, as
  the spec's event loop is), the channels `managerInputEv` and `msgInput` (the
  decoder loop of `Codec` takes its frames and pushes its events explicitly),
  and `state : DilationState`, which no function reads or writes.
-/
import Wormhole.Go

namespace Wormhole.Dilation

/-- `ManagerState`, `ConnectorState`, `L2ConnState` and `Role` are Go string types. -/
abbrev ManagerState := GoString
abbrev ConnectorState := GoString
abbrev L2ConnState := GoString
abbrev Role := GoString

/-- The event and output types of the three machines are Go `int`s. -/
abbrev ManagerInputEvent := Int
abbrev ManagerOutputEvent := Int
abbrev ConnectorInputEvent := Int
abbrev ConnectorOutputEvent := Int
abbrev L2ConnInputEvent := Int
abbrev L2ConnOutputEvent := Int

-- ============================================================================
-- Manager constants
-- ============================================================================

def managerStateWaiting : ManagerState := goStr "ManagerStateWaiting"
def managerStateWanting : ManagerState := goStr "ManagerStateWanting"
def managerStateConnecting : ManagerState := goStr "ManagerStateConnecting"
def managerStateConnected : ManagerState := goStr "ManagerStateConnected"
def managerStateFlushing : ManagerState := goStr "ManagerStateFlushing"
def managerStateLonely : ManagerState := goStr "ManagerStateLonely"
def managerStateAbandoning : ManagerState := goStr "ManagerStateAbandoning"
def managerStateStopping : ManagerState := goStr "ManagerStateStopping"
def managerStateStopped : ManagerState := goStr "ManagerStateStopped"

def managerInputEventStart : ManagerInputEvent := 0
def managerInputEventRxPlease : ManagerInputEvent := 1
def managerInputEventConnectionMade : ManagerInputEvent := 2
def managerInputEventRxReconnecting : ManagerInputEvent := 3
def managerInputEventRxReconnect : ManagerInputEvent := 4
def managerInputEventConnectionLostLeader : ManagerInputEvent := 5
def managerInputEventConnectionLostFollower : ManagerInputEvent := 6
def managerInputEventRxHints : ManagerInputEvent := 7
def managerInputEventStop : ManagerInputEvent := 8

def managerOutputEventSendPlease : ManagerOutputEvent := 0
def managerOutputEventNotifyStopped : ManagerOutputEvent := 1
def managerOutputEventRxHints : ManagerOutputEvent := 2
def managerOutputEventChooseRole : ManagerOutputEvent := 3
def managerOutputEventStartConnectingIgnoreMsg : ManagerOutputEvent := 4
def managerOutputEventUseHints : ManagerOutputEvent := 5
def managerOutputEventStopConnecting : ManagerOutputEvent := 6
def managerOutputEventSendReconnecting : ManagerOutputEvent := 7
def managerOutputEventStartConnecting : ManagerOutputEvent := 8
def managerOutputEventSendReconnect : ManagerOutputEvent := 9
def managerOutputEventAbandonConnection : ManagerOutputEvent := 10

-- ============================================================================
-- Connector constants
-- ============================================================================

def connectorStateConnecting : ConnectorState := goStr "ConnectorStateConnecting"
def connectorStateConnected : ConnectorState := goStr "ConnectorStateConnected"
def connectorStateStopped : ConnectorState := goStr "ConnectorStateStopped"

def connectorInputEventListenerReady : ConnectorInputEvent := 0
def connectorInputEventAccept : ConnectorInputEvent := 1
def connectorInputEventAddCandidate : ConnectorInputEvent := 2
def connectorInputEventGotHints : ConnectorInputEvent := 3
def connectorInputEventAddRelay : ConnectorInputEvent := 4
def connectorInputEventStop : ConnectorInputEvent := 5

def connectorOutputEventPublishHints : ConnectorOutputEvent := 0
def connectorOutputEventSelectAndStopRemaining : ConnectorOutputEvent := 1
def connectorOutputEventConsider : ConnectorOutputEvent := 2
def connectorOutputEventUseHints : ConnectorOutputEvent := 3
def connectorOutputEventStopEverything : ConnectorOutputEvent := 4

-- ============================================================================
-- L2 connection constants
-- ============================================================================

def l2ConnStateUnselected : L2ConnState := goStr "L2ConnStateUnselected"
def l2ConnStateSelecting : L2ConnState := goStr "L2ConnStateSelecting"
def l2ConnStateSelected : L2ConnState := goStr "L2ConnStateSelected"

def l2ConnInputEventGotKCM : L2ConnInputEvent := 0
def l2ConnInputEventSelect : L2ConnInputEvent := 1
def l2ConnInputEventGotRecord : L2ConnInputEvent := 2

def l2ConnOutputEventAddCandidate : L2ConnOutputEvent := 0
def l2ConnOutputEventSetManager : L2ConnOutputEvent := 1
def l2ConnOutputEventCanSendRecords : L2ConnOutputEvent := 2
def l2ConnOutputEventProcessInboundQueue : L2ConnOutputEvent := 3
def l2ConnOutputEventQueueInboundRecord : L2ConnOutputEvent := 4
def l2ConnOutputEventDeliverRecord : L2ConnOutputEvent := 5

def leader : Role := goStr "Leader"
def follower : Role := goStr "Follower"

-- ============================================================================
-- The engine record
-- ============================================================================

/-- The fields of `dilationProtocol` that the modelled functions read or write. -/
structure DilationProtocol where
  versions : List GoString
  managerState : ManagerState
  connectorState : ConnectorState
  l2ConnState : L2ConnState
  role : Role
  side : GoString
  deriving DecidableEq, Repr

/-- `InitDilation`.  `mySide` is what `genSide` drew; the fields the Go literal does
    not set keep Go's zero value, the empty string. -/
def initDilation (mySide : GoString) : DilationProtocol where
  versions := [goStr "1"]
  side := mySide
  managerState := managerStateWaiting
  connectorState := []
  l2ConnState := []
  role := []

def DilationProtocol.managerToNewState (d : DilationProtocol) (newState : ManagerState) :
    DilationProtocol :=
  { d with managerState := newState }

def DilationProtocol.connectorToNewState (d : DilationProtocol) (newState : ConnectorState) :
    DilationProtocol :=
  { d with connectorState := newState }

def DilationProtocol.l2ConnToNewState (d : DilationProtocol) (newState : L2ConnState) :
    DilationProtocol :=
  { d with l2ConnState := newState }

@[simp] theorem managerToNewState_eq (d : DilationProtocol) (s : ManagerState) :
    d.managerToNewState s = { d with managerState := s } := rfl

@[simp] theorem connectorToNewState_eq (d : DilationProtocol) (s : ConnectorState) :
    d.connectorToNewState s = { d with connectorState := s } := rfl

@[simp] theorem l2ConnToNewState_eq (d : DilationProtocol) (s : L2ConnState) :
    d.l2ConnToNewState s = { d with l2ConnState := s } := rfl

/-- The text of the error `chooseRole` returns on equal sides. -/
def sidesEqualText : GoString := goStr "sides shouldn\x27t be equal"

/-- `chooseRole`: the strictly greater side is the Leader, the smaller the Follower;
    equal sides are an error and leave the engine as it was.  The engine is updated in
    place in Go; here it is returned beside the error. -/
def chooseRole (d : DilationProtocol) (otherSide : GoString) : DilationProtocol × Option GoErr :=
  if cmpstring d.side otherSide = .gt then ({ d with role := leader }, none)
  else if cmpstring d.side otherSide = .lt then ({ d with role := follower }, none)
  else (d, some (errorsNew sidesEqualText))

/-- `chooseRole` writes the role only. -/
theorem chooseRole_frame (d : DilationProtocol) (otherSide : GoString) :
    (chooseRole d otherSide).1 = { d with role := (chooseRole d otherSide).1.role } := by
  simp only [chooseRole]
  split_ifs <;> rfl

/-- The role `chooseRole` leaves: Leader or Follower by the sides, or the old role when the
    sides are equal. -/
theorem chooseRole_role (d : DilationProtocol) (otherSide : GoString) :
    (chooseRole d otherSide).1.role =
      if cmpstring d.side otherSide = .gt then leader
      else if cmpstring d.side otherSide = .lt then follower else d.role := by
  simp only [chooseRole]
  split_ifs <;> rfl

/-- A second `chooseRole` against the same side changes nothing. -/
theorem chooseRole_idem (d : DilationProtocol) (otherSide : GoString) :
    (chooseRole (chooseRole d otherSide).1 otherSide).1 = (chooseRole d otherSide).1 := by
  by_cases h₁ : cmpstring d.side otherSide = .gt <;>
    by_cases h₂ : cmpstring d.side otherSide = .lt <;> simp [chooseRole, h₁, h₂]

end Wormhole.Dilation
