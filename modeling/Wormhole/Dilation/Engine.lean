/-
  Wormhole.Dilation.Engine

  The engine as the shell drives it: any interleaving of manager, connector and
  L2 steps (tag machines or their wrappers) and `chooseRole` calls, applied to
  the record `InitDilation` builds.

  Each operation writes only its own field, so the three states evolve
  independently.  The manager state is always one of its nine constants.  The
  connector and L2 states are never set by `InitDilation`: they keep Go's zero
  value, the empty string, which is none of their constants, and since both tag
  machines ignore every event at a state they do not declare, they keep it
  through every run (`engineRun_states`).

  `chooseRole_agree` is role election seen from both ends: two engines with
  different sides, each told the other's, take opposite roles and the greater
  side in Go's string order leads; equal sides are an error that changes
  nothing.
-/
import Wormhole.Dilation.Manager
import Wormhole.Dilation.L2Conn

namespace Wormhole.Dilation

variable {Hints : Type} [Inhabited Hints]

/-- One operation of the shell on the engine. -/
inductive EngineOp (Hints : Type)
  | manager (event : ManagerInputEvent)
  | connector (event : ConnectorInputEvent)
  | processConnector (input : ConnectorInputEventS Hints)
  | l2Conn (event : L2ConnInputEvent)
  | processL2Conn (input : L2ConnInputEventS)
  | callChooseRole (otherSide : GoString)

/-- The engine after one operation; outputs and errors are left to the shell. -/
def EngineOp.apply (d : DilationProtocol) : EngineOp Hints → DilationProtocol
  | .manager event => (managerStateMachine d event).1
  | .connector event => (connectorStateMachine d event).1
  | .processConnector input => (processConnectorStateMachine d input).1
  | .l2Conn event => (l2ConnStateMachine d event).1
  | .processL2Conn input => (processL2ConnStateMachine d input).1
  | .callChooseRole otherSide => (chooseRole d otherSide).1

/-- The engine after a sequence of operations. -/
def engineRun (d : DilationProtocol) (ops : List (EngineOp Hints)) : DilationProtocol :=
  ops.foldl EngineOp.apply d

-- ============================================================================
-- The states of a run
-- ============================================================================

theorem ManagerPhase.state_mem (p : ManagerPhase) :
    p.state ∈ [managerStateWaiting, managerStateWanting, managerStateConnecting,
      managerStateConnected, managerStateFlushing, managerStateLonely, managerStateAbandoning,
      managerStateStopping, managerStateStopped] := by
  cases p <;> simp [ManagerPhase.state]

/-- What holds of every engine the shell can reach from `InitDilation`: a declared manager
    state, and the empty connector and L2 states. -/
def EngineInv (d : DilationProtocol) : Prop :=
  (∃ p : ManagerPhase, d.managerState = p.state) ∧ d.connectorState = [] ∧ d.l2ConnState = []

theorem connectorState_empty_undeclared :
    ([] : ConnectorState) ∉ [connectorStateConnecting, connectorStateConnected,
      connectorStateStopped] := by
  decide

theorem l2ConnState_empty_undeclared :
    ([] : L2ConnState) ∉ [l2ConnStateUnselected, l2ConnStateSelecting, l2ConnStateSelected] := by
  decide

theorem EngineOp.apply_inv {d : DilationProtocol} (h : EngineInv d) (op : EngineOp Hints) :
    EngineInv (op.apply d) := by
  obtain ⟨⟨p, hp⟩, hc, hl⟩ := h
  have hcu : d.connectorState ∉ _ := hc ▸ connectorState_empty_undeclared
  have hlu : d.l2ConnState ∉ _ := hl ▸ l2ConnState_empty_undeclared
  cases op with
  | manager event =>
    rw [EngineOp.apply, managerStateMachine_phase hp]
    exact ⟨⟨_, rfl⟩, hc, hl⟩
  | connector event =>
    rw [EngineOp.apply, connectorStateMachine_undeclared hcu]
    exact ⟨⟨p, hp⟩, hc, hl⟩
  | processConnector input =>
    rw [EngineOp.apply, processConnectorStateMachine_eq, connectorStateMachine_undeclared hcu]
    exact ⟨⟨p, hp⟩, hc, hl⟩
  | l2Conn event =>
    rw [EngineOp.apply, l2ConnStateMachine_undeclared hlu]
    exact ⟨⟨p, hp⟩, hc, hl⟩
  | processL2Conn input =>
    rw [EngineOp.apply, processL2ConnStateMachine_eq, l2ConnStateMachine_undeclared hlu]
    exact ⟨⟨p, hp⟩, hc, hl⟩
  | callChooseRole otherSide =>
    rw [EngineOp.apply, chooseRole_frame]
    exact ⟨⟨p, hp⟩, hc, hl⟩

theorem engineRun_inv {d : DilationProtocol} (h : EngineInv d) (ops : List (EngineOp Hints)) :
    EngineInv (engineRun d ops) := by
  induction ops generalizing d with
  | nil => exact h
  | cons op ops ih => exact ih (EngineOp.apply_inv h op)

/-- The states of every engine reachable from `InitDilation`: the manager state is one of
    its nine constants, while the connector and L2 states stay the empty string, which is
    none of their constants, through every interleaving of steps and `chooseRole` calls. -/
theorem engineRun_states (mySide : GoString) (ops : List (EngineOp Hints)) :
    let d := engineRun (initDilation mySide) ops
    d.managerState ∈ [managerStateWaiting, managerStateWanting, managerStateConnecting,
      managerStateConnected, managerStateFlushing, managerStateLonely, managerStateAbandoning,
      managerStateStopping, managerStateStopped] ∧
    d.connectorState = [] ∧ d.l2ConnState = [] ∧
    d.connectorState ∉ [connectorStateConnecting, connectorStateConnected,
      connectorStateStopped] ∧
    d.l2ConnState ∉ [l2ConnStateUnselected, l2ConnStateSelecting, l2ConnStateSelected] := by
  obtain ⟨⟨p, hp⟩, hc, hl⟩ := engineRun_inv (d := initDilation mySide)
    ⟨⟨.waiting, rfl⟩, rfl, rfl⟩ ops
  exact ⟨hp ▸ p.state_mem, hc, hl, hc ▸ connectorState_empty_undeclared,
    hl ▸ l2ConnState_empty_undeclared⟩

-- ============================================================================
-- Role election from both ends
-- ============================================================================

/-- Role election agrees on both ends: if two engines have different sides, each calling
    `chooseRole` with the other's side succeeds, the one whose side is greater in Go's
    string order becomes Leader and the other Follower; with equal sides `chooseRole`
    returns an error and leaves the engine unchanged. -/
theorem chooseRole_agree (d₁ d₂ : DilationProtocol) :
    (d₁.side ≠ d₂.side →
      (chooseRole d₁ d₂.side).2 = none ∧ (chooseRole d₂ d₁.side).2 = none ∧
      (chooseRole d₁ d₂.side).1.role =
        (if cmpstring d₁.side d₂.side = .gt then leader else follower) ∧
      (chooseRole d₂ d₁.side).1.role =
        (if cmpstring d₁.side d₂.side = .gt then follower else leader)) ∧
    (d₁.side = d₂.side →
      chooseRole d₁ d₂.side = (d₁, some (errorsNew sidesEqualText))) := by
  refine ⟨fun hne => ?_, fun heq => ?_⟩
  · have hne' : cmpstring d₁.side d₂.side ≠ .eq := fun h => hne (cmpstring_eq_iff.mp h)
    have hswap := cmpstring_swap d₁.side d₂.side
    simp only [chooseRole, hswap]
    cases h : cmpstring d₁.side d₂.side <;> simp_all [Ordering.swap]
  · simp [chooseRole, heq, cmpstring_self]

end Wormhole.Dilation
