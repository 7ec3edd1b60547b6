/-
  Wormhole.Dilation.Manager

  `managerStateMachine` as the source computes it, and the §4.1 transition table
  it implements.

  The table `ManagerPhase.step` works over the nine phases, nine inputs and eleven
  outputs as constructors.  `managerStateMachine_phase` says that from an engine
  whose manager state is the string of a phase, the source function takes the
  table's step on every integer event code (a code that names no input changes
  nothing) and emits the codes of the table's outputs; `managerRun_phase` lifts it
  to whole runs.  The run theorems of `ManagerRun` are proved over the table and
  carried to the source through these two.
-/
import Wormhole.Dilation.Protocol
import Mathlib.Tactic.DeriveFintype

namespace Wormhole.Dilation

/-- `managerStateMachine`: one input event at the current manager state gives the next
    state and the output events.  The Go `switch`es are `if` chains in the same order;
    a `case A, B:` is membership in `[A, B]`.  The Go function returns a nil slice on
    the ignored cases and an empty one on some listed cases; both are `[]` here. -/
def managerStateMachine (d : DilationProtocol) (event : ManagerInputEvent) :
    DilationProtocol × List ManagerOutputEvent :=
  let currState := d.managerState
  if event = managerInputEventStart then
    if currState = managerStateWaiting then
      (d.managerToNewState managerStateWanting, [managerOutputEventSendPlease])
    else (d, [])
  else if event = managerInputEventRxPlease then
    if currState = managerStateWanting then
      (d.managerToNewState managerStateConnecting,
        [managerOutputEventChooseRole, managerOutputEventStartConnectingIgnoreMsg])
    else (d, [])
  else if event = managerInputEventConnectionMade then
    if currState = managerStateConnecting then (d.managerToNewState managerStateConnected, [])
    else (d, [])
  else if event = managerInputEventRxReconnecting then
    if currState = managerStateFlushing then
      (d.managerToNewState managerStateConnecting, [managerOutputEventStartConnecting])
    else (d, [])
  else if event = managerInputEventRxReconnect then
    if currState = managerStateConnected then
      (d.managerToNewState managerStateAbandoning, [managerOutputEventAbandonConnection])
    else if currState = managerStateConnecting then
      (d, [managerOutputEventStopConnecting, managerOutputEventSendReconnecting,
        managerOutputEventStartConnecting])
    else if currState = managerStateLonely then
      (d.managerToNewState managerStateConnecting,
        [managerOutputEventSendReconnecting, managerOutputEventStartConnecting])
    else (d, [])
  else if event = managerInputEventConnectionLostLeader then
    if currState = managerStateConnected then
      (d.managerToNewState managerStateFlushing, [managerOutputEventSendReconnect])
    else if currState = managerStateStopping then
      (d.managerToNewState managerStateStopped, [managerOutputEventNotifyStopped])
    else (d, [])
  else if event = managerInputEventConnectionLostFollower then
    if currState = managerStateConnected then (d.managerToNewState managerStateLonely, [])
    else if currState = managerStateAbandoning then
      (d.managerToNewState managerStateConnecting,
        [managerOutputEventSendReconnecting, managerOutputEventStartConnecting])
    else if currState = managerStateStopping then
      (d.managerToNewState managerStateStopped, [managerOutputEventNotifyStopped])
    else (d, [])
  else if event = managerInputEventRxHints then
    if currState ∈ [managerStateWanting, managerStateConnected, managerStateAbandoning,
        managerStateFlushing, managerStateLonely, managerStateStopping] then (d, [])
    else if currState = managerStateConnecting then (d, [managerOutputEventUseHints])
    else (d, [])
  else if event = managerInputEventStop then
    if currState ∈ [managerStateWaiting, managerStateWanting, managerStateLonely,
        managerStateFlushing] then
      (d.managerToNewState managerStateStopped, [managerOutputEventNotifyStopped])
    else if currState = managerStateConnecting then
      (d.managerToNewState managerStateStopped,
        [managerOutputEventStopConnecting, managerOutputEventNotifyStopped])
    else if currState = managerStateConnected then
      (d.managerToNewState managerStateStopping, [managerOutputEventAbandonConnection])
    else if currState = managerStateAbandoning then (d.managerToNewState managerStateStopping, [])
    else (d, [])
  else (d, [])

/-- Feeds `events` to `managerStateMachine` one at a time: the engine at the end and all
    outputs, in the order they were emitted. -/
def managerRun (d : DilationProtocol) :
    List ManagerInputEvent → DilationProtocol × List ManagerOutputEvent
  | [] => (d, [])
  | e :: es =>
    let r := managerRun (managerStateMachine d e).1 es
    (r.1, (managerStateMachine d e).2 ++ r.2)

@[simp] theorem managerRun_nil (d : DilationProtocol) : managerRun d [] = (d, []) := rfl

@[simp] theorem managerRun_cons (d : DilationProtocol) (e : ManagerInputEvent)
    (es : List ManagerInputEvent) :
    managerRun d (e :: es) =
      ((managerRun (managerStateMachine d e).1 es).1,
        (managerStateMachine d e).2 ++ (managerRun (managerStateMachine d e).1 es).2) := rfl

-- ============================================================================
-- The transition table
-- ============================================================================

inductive ManagerPhase
  | waiting | wanting | connecting | connected | flushing | lonely | abandoning | stopping | stopped
  deriving DecidableEq, Repr, Fintype

inductive ManagerInput
  | start | rxPlease | connectionMade | rxReconnecting | rxReconnect | connectionLostLeader
  | connectionLostFollower | rxHints | stop
  deriving DecidableEq, Repr, Fintype

inductive ManagerOutput
  | sendPlease | notifyStopped | rxHints | chooseRole | startConnectingIgnoreMsg | useHints
  | stopConnecting | sendReconnecting | startConnecting | sendReconnect | abandonConnection
  deriving DecidableEq, Repr, Fintype

/-- The Go constant of each phase. -/
def ManagerPhase.state : ManagerPhase → ManagerState
  | .waiting => managerStateWaiting
  | .wanting => managerStateWanting
  | .connecting => managerStateConnecting
  | .connected => managerStateConnected
  | .flushing => managerStateFlushing
  | .lonely => managerStateLonely
  | .abandoning => managerStateAbandoning
  | .stopping => managerStateStopping
  | .stopped => managerStateStopped

/-- The Go constant of each input. -/
def ManagerInput.code : ManagerInput → ManagerInputEvent
  | .start => managerInputEventStart
  | .rxPlease => managerInputEventRxPlease
  | .connectionMade => managerInputEventConnectionMade
  | .rxReconnecting => managerInputEventRxReconnecting
  | .rxReconnect => managerInputEventRxReconnect
  | .connectionLostLeader => managerInputEventConnectionLostLeader
  | .connectionLostFollower => managerInputEventConnectionLostFollower
  | .rxHints => managerInputEventRxHints
  | .stop => managerInputEventStop

/-- The Go constant of each output. -/
def ManagerOutput.code : ManagerOutput → ManagerOutputEvent
  | .sendPlease => managerOutputEventSendPlease
  | .notifyStopped => managerOutputEventNotifyStopped
  | .rxHints => managerOutputEventRxHints
  | .chooseRole => managerOutputEventChooseRole
  | .startConnectingIgnoreMsg => managerOutputEventStartConnectingIgnoreMsg
  | .useHints => managerOutputEventUseHints
  | .stopConnecting => managerOutputEventStopConnecting
  | .sendReconnecting => managerOutputEventSendReconnecting
  | .startConnecting => managerOutputEventStartConnecting
  | .sendReconnect => managerOutputEventSendReconnect
  | .abandonConnection => managerOutputEventAbandonConnection

/-- The input an event code names, if any. -/
def ManagerInput.ofCode? (event : ManagerInputEvent) : Option ManagerInput :=
  [ManagerInput.start, .rxPlease, .connectionMade, .rxReconnecting, .rxReconnect,
    .connectionLostLeader, .connectionLostFollower, .rxHints, .stop].find? (·.code = event)

theorem ManagerInput.ofCode?_some {event : ManagerInputEvent} {i : ManagerInput}
    (h : ManagerInput.ofCode? event = some i) : event = i.code := by
  exact (by simpa using List.find?_some h : i.code = event).symm

theorem ManagerInput.ofCode?_none {event : ManagerInputEvent}
    (h : ManagerInput.ofCode? event = none) :
    event ≠ managerInputEventStart ∧ event ≠ managerInputEventRxPlease ∧
      event ≠ managerInputEventConnectionMade ∧ event ≠ managerInputEventRxReconnecting ∧
      event ≠ managerInputEventRxReconnect ∧ event ≠ managerInputEventConnectionLostLeader ∧
      event ≠ managerInputEventConnectionLostFollower ∧ event ≠ managerInputEventRxHints ∧
      event ≠ managerInputEventStop := by
  have hne : ∀ i : ManagerInput, event ≠ i.code := fun i he =>
    absurd (List.find?_eq_none.mp h i (by cases i <;> simp)) (by simp [he])
  exact ⟨hne .start, hne .rxPlease, hne .connectionMade, hne .rxReconnecting, hne .rxReconnect,
    hne .connectionLostLeader, hne .connectionLostFollower, hne .rxHints, hne .stop⟩

theorem ManagerOutput.code_injective : Function.Injective ManagerOutput.code := by
  decide

/-- The §4.1 transition table: next phase and outputs; pairs it does not list are
    no-ops. -/
def ManagerPhase.step : ManagerPhase → ManagerInput → ManagerPhase × List ManagerOutput
  | .waiting, .start => (.wanting, [.sendPlease])
  | .wanting, .rxPlease => (.connecting, [.chooseRole, .startConnectingIgnoreMsg])
  | .connecting, .connectionMade => (.connected, [])
  | .flushing, .rxReconnecting => (.connecting, [.startConnecting])
  | .connected, .rxReconnect => (.abandoning, [.abandonConnection])
  | .connecting, .rxReconnect =>
    (.connecting, [.stopConnecting, .sendReconnecting, .startConnecting])
  | .lonely, .rxReconnect => (.connecting, [.sendReconnecting, .startConnecting])
  | .connected, .connectionLostLeader => (.flushing, [.sendReconnect])
  | .stopping, .connectionLostLeader => (.stopped, [.notifyStopped])
  | .connected, .connectionLostFollower => (.lonely, [])
  | .abandoning, .connectionLostFollower => (.connecting, [.sendReconnecting, .startConnecting])
  | .stopping, .connectionLostFollower => (.stopped, [.notifyStopped])
  | .connecting, .rxHints => (.connecting, [.useHints])
  | .waiting, .stop | .wanting, .stop | .lonely, .stop | .flushing, .stop =>
    (.stopped, [.notifyStopped])
  | .connecting, .stop => (.stopped, [.stopConnecting, .notifyStopped])
  | .connected, .stop => (.stopping, [.abandonConnection])
  | .abandoning, .stop => (.stopping, [])
  | p, _ => (p, [])

/-- The table's reaction to an event code: a code that names no input is a no-op. -/
def ManagerPhase.react (p : ManagerPhase) (event : ManagerInputEvent) :
    ManagerPhase × List ManagerOutput :=
  match ManagerInput.ofCode? event with
  | some i => p.step i
  | none => (p, [])

/-- The table over a sequence of event codes: final phase and all outputs. -/
def ManagerPhase.run (p : ManagerPhase) : List ManagerInputEvent → ManagerPhase × List ManagerOutput
  | [] => (p, [])
  | e :: es =>
    let r := (p.react e).1.run es
    (r.1, (p.react e).2 ++ r.2)

-- ============================================================================
-- The source refines the table
-- ============================================================================

/-- The state string of a phase names that phase only. -/
theorem ManagerPhase.state_injective : Function.Injective ManagerPhase.state := by
  decide

@[simp] theorem ManagerPhase.state_inj {p q : ManagerPhase} : p.state = q.state ↔ p = q :=
  ManagerPhase.state_injective.eq_iff

@[simp] theorem ManagerPhase.state_eq_waiting {p : ManagerPhase} :
    p.state = managerStateWaiting ↔ p = .waiting := ManagerPhase.state_inj (q := .waiting)

@[simp] theorem ManagerPhase.state_eq_wanting {p : ManagerPhase} :
    p.state = managerStateWanting ↔ p = .wanting := ManagerPhase.state_inj (q := .wanting)

@[simp] theorem ManagerPhase.state_eq_connecting {p : ManagerPhase} :
    p.state = managerStateConnecting ↔ p = .connecting := ManagerPhase.state_inj (q := .connecting)

@[simp] theorem ManagerPhase.state_eq_connected {p : ManagerPhase} :
    p.state = managerStateConnected ↔ p = .connected := ManagerPhase.state_inj (q := .connected)

@[simp] theorem ManagerPhase.state_eq_flushing {p : ManagerPhase} :
    p.state = managerStateFlushing ↔ p = .flushing := ManagerPhase.state_inj (q := .flushing)

@[simp] theorem ManagerPhase.state_eq_lonely {p : ManagerPhase} :
    p.state = managerStateLonely ↔ p = .lonely := ManagerPhase.state_inj (q := .lonely)

@[simp] theorem ManagerPhase.state_eq_abandoning {p : ManagerPhase} :
    p.state = managerStateAbandoning ↔ p = .abandoning := ManagerPhase.state_inj (q := .abandoning)

@[simp] theorem ManagerPhase.state_eq_stopping {p : ManagerPhase} :
    p.state = managerStateStopping ↔ p = .stopping := ManagerPhase.state_inj (q := .stopping)

@[simp] theorem ManagerPhase.state_eq_stopped {p : ManagerPhase} :
    p.state = managerStateStopped ↔ p = .stopped := ManagerPhase.state_inj (q := .stopped)

theorem ManagerPhase.react_code (p : ManagerPhase) (i : ManagerInput) :
    p.react i.code = p.step i := by
  cases i <;> rfl

/-- One step: from a phase's state string, `managerStateMachine` is the table. -/
theorem managerStateMachine_phase {d : DilationProtocol} {p : ManagerPhase}
    (hp : d.managerState = p.state) (event : ManagerInputEvent) :
    managerStateMachine d event =
      ({ d with managerState := (p.react event).1.state },
        (p.react event).2.map ManagerOutput.code) := by
  obtain ⟨v, m, c, l, r, s⟩ := d
  subst hp
  rcases h : ManagerInput.ofCode? event with _ | i
  · obtain ⟨h0, h1, h2, h3, h4, h5, h6, h7, h8⟩ := ManagerInput.ofCode?_none h
    simp only [managerStateMachine, ManagerPhase.react, h, h0, h1, h2, h3, h4, h5, h6, h7, h8,
      if_false, List.map_nil]
  · obtain rfl := ManagerInput.ofCode?_some h
    rw [ManagerPhase.react_code]
    simp only [managerStateMachine, ManagerPhase.state_eq_waiting,
      ManagerPhase.state_eq_wanting, ManagerPhase.state_eq_connecting,
      ManagerPhase.state_eq_connected, ManagerPhase.state_eq_flushing,
      ManagerPhase.state_eq_lonely, ManagerPhase.state_eq_abandoning,
      ManagerPhase.state_eq_stopping, ManagerPhase.state_eq_stopped, List.mem_cons,
      List.mem_singleton, List.not_mem_nil, or_false]
    cases i <;> cases p <;> rfl

@[simp] theorem ManagerPhase.run_nil (p : ManagerPhase) : p.run [] = (p, []) := rfl

@[simp] theorem ManagerPhase.run_cons (p : ManagerPhase) (e : ManagerInputEvent)
    (es : List ManagerInputEvent) :
    p.run (e :: es) = (((p.react e).1.run es).1, (p.react e).2 ++ ((p.react e).1.run es).2) := rfl

/-- Whole runs: from a phase's state string, `managerRun` is the table's run. -/
theorem managerRun_phase {d : DilationProtocol} {p : ManagerPhase} (hp : d.managerState = p.state)
    (events : List ManagerInputEvent) :
    managerRun d events =
      ({ d with managerState := (p.run events).1.state },
        (p.run events).2.map ManagerOutput.code) := by
  induction events generalizing d p with
  | nil => obtain ⟨v, m, c, l, r, s⟩ := d; subst hp; rfl
  | cons e es ih =>
    rw [managerRun_cons, managerStateMachine_phase hp, ih rfl]
    simp

end Wormhole.Dilation
