/-
  Wormhole.Dilation.Connector

  `connectorStateMachine`, the §4.2 rules it implements, and its payload wrapper
  `processConnectorStateMachine`.

  The tag machine refines the §4.2 table (`connectorStateMachine_phase`); from a
  state string that names no phase, which is where `InitDilation` leaves it, it
  changes nothing (`connectorStateMachine_undeclared`).

  The wrapper's loop is `for output := range outputs`.  With one iteration
  variable Go binds the index of each element, not the element, so the
  `switch output` compares the indices 0, 1, … with the output constants: an
  output list of length n becomes the entries of the constants 0 … n-1
  (`processConnectorStateMachine_eq`).  One output therefore always yields
  PublishHints and two yield PublishHints then SelectAndStopRemaining, whatever
  they were: the wrapper selects a candidate exactly on an AddRelay in
  Connecting, and never on an Accept (`processConnectorStateMachine_selects_iff`).
  The wrapper keeps the tag machine's state and fills the payloads its entries
  need, and its events agree with the tag machine's outputs exactly when those
  are none or PublishHints alone (`processConnectorStateMachine_lift`).
-/
import Wormhole.Dilation.Protocol
import Mathlib.Tactic.DeriveFintype

namespace Wormhole.Dilation

/-- `Candidate` is a Go string type. -/
abbrev Candidate := GoString

variable {Hints : Type} [Inhabited Hints]

/-- `ConnectorInputEventS`.  `transitHintsV1` is declared outside the source files: the
    model takes it as a type `Hints` whose Go zero value is `default`. -/
structure ConnectorInputEventS (Hints : Type) where
  Event : ConnectorInputEvent
  hints : Hints
  candidate : Candidate
  deriving DecidableEq, Repr

/-- `ConnectorOutputEventS`. -/
structure ConnectorOutputEventS (Hints : Type) where
  Event : ConnectorOutputEvent
  hints : Hints
  candidate : Candidate
  deriving DecidableEq, Repr

/-- `connectorStateMachine`.  The empty `case ConnectorStateConnected:` under
    ListenerReady gives the same result as its `default:`. -/
def connectorStateMachine (d : DilationProtocol) (event : ConnectorInputEvent) :
    DilationProtocol × List ConnectorOutputEvent :=
  let currState := d.connectorState
  if event = connectorInputEventListenerReady then
    if currState = connectorStateConnecting then (d, [connectorOutputEventPublishHints])
    else (d, [])
  else if event = connectorInputEventAccept then
    if currState = connectorStateConnecting then
      (d.connectorToNewState connectorStateConnected, [connectorOutputEventSelectAndStopRemaining])
    else (d, [])
  else if event = connectorInputEventAddCandidate then
    if currState = connectorStateConnecting then (d, [connectorOutputEventConsider])
    else (d, [])
  else if event = connectorInputEventGotHints then
    if currState = connectorStateConnecting then (d, [connectorOutputEventUseHints])
    else (d, [])
  else if event = connectorInputEventAddRelay then
    if currState = connectorStateConnecting then
      (d, [connectorOutputEventUseHints, connectorOutputEventPublishHints])
    else (d, [])
  else if event = connectorInputEventStop then
    if currState ∈ [connectorStateConnecting, connectorStateConnected] then
      (d.connectorToNewState connectorStateStopped, [connectorOutputEventStopEverything])
    else (d, [])
  else (d, [])

/-- The body of the wrapper's loop: the entry appended when the loop variable is
    `output`, with the payload of `input` that the source copies into it (the other
    fields keep their zero value). -/
def connectorEntry (input : ConnectorInputEventS Hints) (output : ConnectorOutputEvent) :
    List (ConnectorOutputEventS Hints) :=
  if output = connectorOutputEventPublishHints then
    [⟨connectorOutputEventPublishHints, input.hints, []⟩]
  else if output = connectorOutputEventSelectAndStopRemaining then
    [⟨connectorOutputEventSelectAndStopRemaining, default, input.candidate⟩]
  else if output = connectorOutputEventConsider then
    [⟨connectorOutputEventConsider, default, input.candidate⟩]
  else if output = connectorOutputEventUseHints then
    [⟨connectorOutputEventUseHints, input.hints, []⟩]
  else if output = connectorOutputEventStopEverything then
    [⟨connectorOutputEventStopEverything, default, []⟩]
  else []

/-- `processConnectorStateMachine`.  `for output := range outputs` runs `output` over the
    indices `0 … len(outputs)-1`. -/
def processConnectorStateMachine (d : DilationProtocol) (input : ConnectorInputEventS Hints) :
    DilationProtocol × List (ConnectorOutputEventS Hints) :=
  let r := connectorStateMachine d input.Event
  (r.1, (List.range r.2.length).foldl
    (fun outputEvents (output : Nat) => outputEvents ++ connectorEntry input output) [])

theorem foldl_append_eq_flatMap {α β : Type} (f : α → List β) (l : List α) (acc : List β) :
    l.foldl (fun out x => out ++ f x) acc = acc ++ l.flatMap f := by
  induction l generalizing acc with
  | nil => simp
  | cons x l ih => simp [ih]

/-- The wrapper emits the entries of the constants `0 … n-1`, where `n` is the number of
    outputs of the tag machine. -/
theorem processConnectorStateMachine_eq (d : DilationProtocol)
    (input : ConnectorInputEventS Hints) :
    processConnectorStateMachine d input =
      ((connectorStateMachine d input.Event).1,
        (List.range (connectorStateMachine d input.Event).2.length).flatMap
          fun i => connectorEntry input i) := by
  simp [processConnectorStateMachine, foldl_append_eq_flatMap]

-- ============================================================================
-- The §4.2 table
-- ============================================================================

inductive ConnectorPhase
  | connecting | connected | stopped
  deriving DecidableEq, Repr, Fintype

inductive ConnectorInput
  | listenerReady | accept | addCandidate | gotHints | addRelay | stop
  deriving DecidableEq, Repr, Fintype

inductive ConnectorOutput
  | publishHints | selectAndStopRemaining | consider | useHints | stopEverything
  deriving DecidableEq, Repr, Fintype

def ConnectorPhase.state : ConnectorPhase → ConnectorState
  | .connecting => connectorStateConnecting
  | .connected => connectorStateConnected
  | .stopped => connectorStateStopped

def ConnectorInput.code : ConnectorInput → ConnectorInputEvent
  | .listenerReady => connectorInputEventListenerReady
  | .accept => connectorInputEventAccept
  | .addCandidate => connectorInputEventAddCandidate
  | .gotHints => connectorInputEventGotHints
  | .addRelay => connectorInputEventAddRelay
  | .stop => connectorInputEventStop

def ConnectorOutput.code : ConnectorOutput → ConnectorOutputEvent
  | .publishHints => connectorOutputEventPublishHints
  | .selectAndStopRemaining => connectorOutputEventSelectAndStopRemaining
  | .consider => connectorOutputEventConsider
  | .useHints => connectorOutputEventUseHints
  | .stopEverything => connectorOutputEventStopEverything

/-- The §4.2 transition rules; pairs they do not list are no-ops. -/
def ConnectorPhase.step : ConnectorPhase → ConnectorInput → ConnectorPhase × List ConnectorOutput
  | .connecting, .listenerReady => (.connecting, [.publishHints])
  | .connecting, .accept => (.connected, [.selectAndStopRemaining])
  | .connecting, .addCandidate => (.connecting, [.consider])
  | .connecting, .gotHints => (.connecting, [.useHints])
  | .connecting, .addRelay => (.connecting, [.useHints, .publishHints])
  | .connecting, .stop | .connected, .stop => (.stopped, [.stopEverything])
  | p, _ => (p, [])

@[simp] theorem ConnectorPhase.state_eq_connecting {p : ConnectorPhase} :
    p.state = connectorStateConnecting ↔ p = .connecting := by cases p <;> decide

@[simp] theorem ConnectorPhase.state_eq_connected {p : ConnectorPhase} :
    p.state = connectorStateConnected ↔ p = .connected := by cases p <;> decide

@[simp] theorem ConnectorPhase.state_eq_stopped {p : ConnectorPhase} :
    p.state = connectorStateStopped ↔ p = .stopped := by cases p <;> decide

/-- From a phase's state string, on an input's code, `connectorStateMachine` is the
    table. -/
theorem connectorStateMachine_phase {d : DilationProtocol} {p : ConnectorPhase}
    (hp : d.connectorState = p.state) (i : ConnectorInput) :
    connectorStateMachine d i.code =
      ({ d with connectorState := (p.step i).1.state }, (p.step i).2.map ConnectorOutput.code) := by
  obtain ⟨v, m, c, l, r, s⟩ := d
  subst hp
  simp only [connectorStateMachine, ConnectorPhase.state_eq_connecting,
    ConnectorPhase.state_eq_connected, List.mem_cons, List.mem_singleton, List.not_mem_nil,
    or_false]
  cases i <;> cases p <;> rfl

/-- A state string that names no phase: the tag machine ignores every event there. -/
theorem connectorStateMachine_undeclared {d : DilationProtocol}
    (h : d.connectorState ∉ [connectorStateConnecting, connectorStateConnected,
      connectorStateStopped]) (event : ConnectorInputEvent) :
    connectorStateMachine d event = (d, []) := by
  simp only [List.mem_cons, List.mem_singleton, List.not_mem_nil, or_false, not_or] at h
  simp [connectorStateMachine, h.1, h.2.1]

-- ============================================================================
-- What the wrapper emits
-- ============================================================================

/-- A bound on both branches bounds an `if`: the length lemmas walk the machines' if-chains
    with it rather than splitting the goal. -/
theorem ite_le_of {c : Prop} [Decidable c] {a b n : Nat} (ha : c → a ≤ n) (hb : ¬ c → b ≤ n) :
    ite c a b ≤ n :=
  iteInduction (motive := (· ≤ n)) ha hb

/-- A property of every element of both branches holds of every element of an `if`: the
    payload lemmas walk the wrappers' loop bodies with it. -/
theorem forall_mem_ite {α : Type} {c : Prop} [Decidable c] {l₁ l₂ : List α} {P : α → Prop}
    (h₁ : ∀ o ∈ l₁, P o) (h₂ : ∀ o ∈ l₂, P o) : ∀ o ∈ ite c l₁ l₂, P o :=
  iteInduction (motive := fun l => ∀ o ∈ l, P o) (fun _ => h₁) (fun _ => h₂)

theorem connectorStateMachine_length_le (d : DilationProtocol) (event : ConnectorInputEvent) :
    (connectorStateMachine d event).2.length ≤ 2 := by
  simp only [connectorStateMachine, apply_ite Prod.snd, apply_ite List.length]
  repeat' (first | apply ite_le_of | intro)
  all_goals simp

/-- The tag machine emits two outputs exactly on an AddRelay in Connecting. -/
theorem connectorStateMachine_length_eq_two (d : DilationProtocol) (event : ConnectorInputEvent) :
    (connectorStateMachine d event).2.length = 2 ↔
      event = connectorInputEventAddRelay ∧ d.connectorState = connectorStateConnecting := by
  refine ⟨fun h => Classical.byContradiction fun hn => ?_, ?_⟩
  · -- off that branch every branch of the if-chain emits at most one output
    have : (connectorStateMachine d event).2.length ≤ 1 := by
      simp only [connectorStateMachine, apply_ite Prod.snd, apply_ite List.length]
      repeat' (first | apply ite_le_of | intro)
      all_goals first | exact absurd ⟨‹_›, ‹_›⟩ hn | simp
    omega
  · rintro ⟨rfl, hs⟩
    simp [connectorStateMachine, hs, connectorInputEventListenerReady, connectorInputEventAccept,
      connectorInputEventAddCandidate, connectorInputEventGotHints, connectorInputEventAddRelay]

/-- Which steps select: the wrapper emits a SelectAndStopRemaining entry exactly on an
    AddRelay taken in Connecting, never on an Accept. -/
theorem processConnectorStateMachine_selects_iff (d : DilationProtocol)
    (input : ConnectorInputEventS Hints) :
    (∃ o ∈ (processConnectorStateMachine d input).2,
        o.Event = connectorOutputEventSelectAndStopRemaining) ↔
      input.Event = connectorInputEventAddRelay ∧ d.connectorState = connectorStateConnecting := by
  rw [processConnectorStateMachine_eq, ← connectorStateMachine_length_eq_two]
  have hle := connectorStateMachine_length_le d input.Event
  generalize (connectorStateMachine d input.Event).2.length = n at hle ⊢
  rcases n with _ | _ | _ | n
  · simp
  · simp [connectorEntry, connectorOutputEventPublishHints,
      connectorOutputEventSelectAndStopRemaining]
  · simp [List.range_succ, connectorEntry, connectorOutputEventPublishHints,
      connectorOutputEventSelectAndStopRemaining]
  · omega

-- ============================================================================
-- The wrapper as a lift of the tag machine
-- ============================================================================

/-- The index loop emits the indices: when the entry of each index `i < n` is one entry whose
    event is `i`, the loop over `0 … n-1` emits the events `0 … n-1`.  Both wrappers are such
    a loop. -/
theorem flatMap_range_events {β : Type} (entry : Nat → List β) (event : β → Int) (n : Nat)
    (h : ∀ i < n, (entry i).map event = [(i : Int)]) :
    ((List.range n).flatMap entry).map event = (List.range n).map fun i : Nat => (i : Int) := by
  induction n with
  | zero => rfl
  | succ n ih =>
    simp only [List.range_succ, List.flatMap_append, List.map_append, List.flatMap_singleton,
      h n (Nat.lt_succ_self n), ih fun i hi => h i (Nat.lt_succ_of_lt hi), List.map_cons,
      List.map_nil]

/-- Every entry the loop body appends carries the payload its event names: the input's hints
    on PublishHints and UseHints, its candidate on SelectAndStopRemaining and Consider. -/
theorem connectorEntry_payload (input : ConnectorInputEventS Hints) (output : ConnectorOutputEvent) :
    ∀ o ∈ connectorEntry input output,
      (o.Event = connectorOutputEventPublishHints ∨ o.Event = connectorOutputEventUseHints →
        o.hints = input.hints) ∧
      (o.Event = connectorOutputEventSelectAndStopRemaining ∨
          o.Event = connectorOutputEventConsider → o.candidate = input.candidate) := by
  unfold connectorEntry
  repeat' apply forall_mem_ite
  all_goals simp [connectorOutputEventPublishHints, connectorOutputEventSelectAndStopRemaining,
    connectorOutputEventConsider, connectorOutputEventUseHints, connectorOutputEventStopEverything]

/-- The wrapper as a lift of the tag machine.  It leaves the engine the tag machine leaves,
    and each entry carries the payload its event names; but its events are the indices
    `0 … n-1` of the tag machine's `n` outputs, so its event list is the tag machine's
    exactly when that list is empty or PublishHints alone, the output numbered 0. -/
theorem processConnectorStateMachine_lift (d : DilationProtocol)
    (input : ConnectorInputEventS Hints) :
    (processConnectorStateMachine d input).1 = (connectorStateMachine d input.Event).1 ∧
    (processConnectorStateMachine d input).2.map ConnectorOutputEventS.Event =
      (List.range (connectorStateMachine d input.Event).2.length).map (fun i : Nat => (i : Int)) ∧
    (∀ o ∈ (processConnectorStateMachine d input).2,
      (o.Event = connectorOutputEventPublishHints ∨ o.Event = connectorOutputEventUseHints →
        o.hints = input.hints) ∧
      (o.Event = connectorOutputEventSelectAndStopRemaining ∨
          o.Event = connectorOutputEventConsider → o.candidate = input.candidate)) ∧
    ((processConnectorStateMachine d input).2.map ConnectorOutputEventS.Event =
        (connectorStateMachine d input.Event).2 ↔
      (connectorStateMachine d input.Event).2 = [] ∨
        (connectorStateMachine d input.Event).2 = [connectorOutputEventPublishHints]) := by
  have hle := connectorStateMachine_length_le d input.Event
  have hevents : (processConnectorStateMachine d input).2.map ConnectorOutputEventS.Event =
      (List.range (connectorStateMachine d input.Event).2.length).map fun i : Nat => (i : Int) := by
    rw [processConnectorStateMachine_eq]
    refine flatMap_range_events _ _ _ fun i hi => ?_
    match i, hi with
    | 0, _ => rfl
    | 1, _ => rfl
    | _ + 2, hi => exact absurd hi (by omega)
  refine ⟨rfl, hevents, fun o ho => ?_, ?_⟩
  · rw [processConnectorStateMachine_eq] at ho
    obtain ⟨i, -, ho⟩ := List.mem_flatMap.mp ho
    exact connectorEntry_payload input i o ho
  · rw [hevents]
    match h : (connectorStateMachine d input.Event).2, hle with
    | [], _ => simp
    | [a], _ => simp [List.range_succ, eq_comm, connectorOutputEventPublishHints]
    | [a, b], _ =>
      -- two outputs only on AddRelay in Connecting, where they are UseHints, PublishHints
      obtain ⟨he, hs⟩ := (connectorStateMachine_length_eq_two d input.Event).mp (by simp [h])
      have hpair := congrArg Prod.snd
        (connectorStateMachine_phase (p := .connecting) hs ConnectorInput.addRelay)
      rw [show ConnectorInput.addRelay.code = input.Event from he.symm, h] at hpair
      simp only [ConnectorPhase.step, ConnectorOutput.code, List.map_cons, List.map_nil,
        List.cons.injEq, and_true] at hpair
      obtain ⟨rfl, rfl⟩ := hpair
      simp [List.range_succ, connectorOutputEventUseHints, connectorOutputEventPublishHints]

end Wormhole.Dilation
