/-
  Wormhole.Dilation.L2Conn

  `l2ConnStateMachine`, the §4.3 rules it implements, and its payload wrapper
  `processL2ConnStateMachine`.

  The tag machine refines the §4.3 table (`l2ConnStateMachine_phase`) and its
  phase only moves forward, Unselected → Selecting → Selected
  (`L2ConnPhase.step_forward`).  The wrapper has the connector's loop,
  `for output := range outputs`, which ranges over indices: an output list of
  length n becomes the entries of the constants 0 … n-1.  The tag machine never
  emits more than three outputs, so the wrapper only ever emits AddCandidate,
  SetManager and CanSendRecords (`processL2ConnStateMachine_entries`): a
  GotRecord yields AddCandidate instead of QueueInboundRecord or DeliverRecord,
  and the Select step never emits ProcessInboundQueue.  The wrapper keeps the
  tag machine's state and gives AddCandidate its candidate, and its events agree
  with the tag machine's outputs exactly when those are none or AddCandidate
  alone (`processL2ConnStateMachine_lift`).
-/
import Wormhole.Dilation.Connector

namespace Wormhole.Dilation

/-- `L2ConnInputEventS`. -/
structure L2ConnInputEventS where
  Event : L2ConnInputEvent
  candidate : Candidate
  deriving DecidableEq, Repr

/-- `L2ConnOutputEventS`. -/
structure L2ConnOutputEventS where
  Event : L2ConnOutputEvent
  candidate : Candidate
  deriving DecidableEq, Repr

/-- `l2ConnStateMachine`. -/
def l2ConnStateMachine (d : DilationProtocol) (event : L2ConnInputEvent) :
    DilationProtocol × List L2ConnOutputEvent :=
  let currState := d.l2ConnState
  if event = l2ConnInputEventGotKCM then
    if currState = l2ConnStateUnselected then
      (d.l2ConnToNewState l2ConnStateSelecting, [l2ConnOutputEventAddCandidate])
    else (d, [])
  else if event = l2ConnInputEventSelect then
    if currState = l2ConnStateSelecting then
      (d.l2ConnToNewState l2ConnStateSelected,
        [l2ConnOutputEventSetManager, l2ConnOutputEventCanSendRecords,
          l2ConnOutputEventProcessInboundQueue])
    else (d, [])
  else if event = l2ConnInputEventGotRecord then
    if currState = l2ConnStateSelecting then (d, [l2ConnOutputEventQueueInboundRecord])
    else if currState = l2ConnStateSelected then (d, [l2ConnOutputEventDeliverRecord])
    else (d, [])
  else (d, [])

/-- The body of the wrapper's loop: the entry appended when the loop variable is
    `output`; only AddCandidate carries the input's candidate. -/
def l2ConnEntry (input : L2ConnInputEventS) (output : L2ConnOutputEvent) :
    List L2ConnOutputEventS :=
  if output = l2ConnOutputEventAddCandidate then [⟨l2ConnOutputEventAddCandidate, input.candidate⟩]
  else if output = l2ConnOutputEventSetManager then [⟨l2ConnOutputEventSetManager, []⟩]
  else if output = l2ConnOutputEventCanSendRecords then [⟨l2ConnOutputEventCanSendRecords, []⟩]
  else if output = l2ConnOutputEventProcessInboundQueue then
    [⟨l2ConnOutputEventProcessInboundQueue, []⟩]
  else if output = l2ConnOutputEventQueueInboundRecord then
    [⟨l2ConnOutputEventQueueInboundRecord, []⟩]
  else if output = l2ConnOutputEventDeliverRecord then [⟨l2ConnOutputEventDeliverRecord, []⟩]
  else []

/-- `processL2ConnStateMachine`.  `for output := range outputs` runs `output` over the
    indices `0 … len(outputs)-1`. -/
def processL2ConnStateMachine (d : DilationProtocol) (input : L2ConnInputEventS) :
    DilationProtocol × List L2ConnOutputEventS :=
  let r := l2ConnStateMachine d input.Event
  (r.1, (List.range r.2.length).foldl
    (fun outputEvents (output : Nat) => outputEvents ++ l2ConnEntry input output) [])

theorem processL2ConnStateMachine_eq (d : DilationProtocol) (input : L2ConnInputEventS) :
    processL2ConnStateMachine d input =
      ((l2ConnStateMachine d input.Event).1,
        (List.range (l2ConnStateMachine d input.Event).2.length).flatMap
          fun i => l2ConnEntry input i) := by
  simp [processL2ConnStateMachine, foldl_append_eq_flatMap]

-- ============================================================================
-- The §4.3 table
-- ============================================================================

inductive L2ConnPhase
  | unselected | selecting | selected
  deriving DecidableEq, Repr, Fintype

inductive L2ConnInput
  | gotKCM | select | gotRecord
  deriving DecidableEq, Repr, Fintype

inductive L2ConnOutput
  | addCandidate | setManager | canSendRecords | processInboundQueue | queueInboundRecord
  | deliverRecord
  deriving DecidableEq, Repr, Fintype

def L2ConnPhase.state : L2ConnPhase → L2ConnState
  | .unselected => l2ConnStateUnselected
  | .selecting => l2ConnStateSelecting
  | .selected => l2ConnStateSelected

def L2ConnInput.code : L2ConnInput → L2ConnInputEvent
  | .gotKCM => l2ConnInputEventGotKCM
  | .select => l2ConnInputEventSelect
  | .gotRecord => l2ConnInputEventGotRecord

def L2ConnOutput.code : L2ConnOutput → L2ConnOutputEvent
  | .addCandidate => l2ConnOutputEventAddCandidate
  | .setManager => l2ConnOutputEventSetManager
  | .canSendRecords => l2ConnOutputEventCanSendRecords
  | .processInboundQueue => l2ConnOutputEventProcessInboundQueue
  | .queueInboundRecord => l2ConnOutputEventQueueInboundRecord
  | .deliverRecord => l2ConnOutputEventDeliverRecord

/-- The §4.3 transition rules; pairs they do not list are no-ops. -/
def L2ConnPhase.step : L2ConnPhase → L2ConnInput → L2ConnPhase × List L2ConnOutput
  | .unselected, .gotKCM => (.selecting, [.addCandidate])
  | .selecting, .select => (.selected, [.setManager, .canSendRecords, .processInboundQueue])
  | .selecting, .gotRecord => (.selecting, [.queueInboundRecord])
  | .selected, .gotRecord => (.selected, [.deliverRecord])
  | p, _ => (p, [])

/-- The position of a phase on the way Unselected → Selecting → Selected. -/
def L2ConnPhase.rank : L2ConnPhase → Nat
  | .unselected => 0
  | .selecting => 1
  | .selected => 2

/-- The phase never moves backwards. -/
theorem L2ConnPhase.step_forward : ∀ (p : L2ConnPhase) (i : L2ConnInput),
    p.rank ≤ (p.step i).1.rank := by
  decide

@[simp] theorem L2ConnPhase.state_eq_unselected {p : L2ConnPhase} :
    p.state = l2ConnStateUnselected ↔ p = .unselected := by cases p <;> decide

@[simp] theorem L2ConnPhase.state_eq_selecting {p : L2ConnPhase} :
    p.state = l2ConnStateSelecting ↔ p = .selecting := by cases p <;> decide

@[simp] theorem L2ConnPhase.state_eq_selected {p : L2ConnPhase} :
    p.state = l2ConnStateSelected ↔ p = .selected := by cases p <;> decide

/-- From a phase's state string, on an input's code, `l2ConnStateMachine` is the table. -/
theorem l2ConnStateMachine_phase {d : DilationProtocol} {p : L2ConnPhase}
    (hp : d.l2ConnState = p.state) (i : L2ConnInput) :
    l2ConnStateMachine d i.code =
      ({ d with l2ConnState := (p.step i).1.state }, (p.step i).2.map L2ConnOutput.code) := by
  obtain ⟨v, m, c, l, r, s⟩ := d
  subst hp
  simp only [l2ConnStateMachine, L2ConnPhase.state_eq_unselected,
    L2ConnPhase.state_eq_selecting, L2ConnPhase.state_eq_selected]
  cases i <;> cases p <;> rfl

/-- A state string that names no phase: the tag machine ignores every event there. -/
theorem l2ConnStateMachine_undeclared {d : DilationProtocol}
    (h : d.l2ConnState ∉ [l2ConnStateUnselected, l2ConnStateSelecting, l2ConnStateSelected])
    (event : L2ConnInputEvent) :
    l2ConnStateMachine d event = (d, []) := by
  simp only [List.mem_cons, List.mem_singleton, List.not_mem_nil, or_false, not_or] at h
  simp [l2ConnStateMachine, h.1, h.2.1, h.2.2]

-- ============================================================================
-- What the wrapper emits
-- ============================================================================

theorem l2ConnStateMachine_length_le (d : DilationProtocol) (event : L2ConnInputEvent) :
    (l2ConnStateMachine d event).2.length ≤ 3 := by
  simp only [l2ConnStateMachine, apply_ite Prod.snd, apply_ite List.length]
  repeat' (first | apply ite_le_of | intro)
  all_goals simp

/-- Whatever the engine and the input, the wrapper emits only AddCandidate, SetManager and
    CanSendRecords entries: QueueInboundRecord, ProcessInboundQueue and DeliverRecord,
    which are the tag machine's outputs at index 3 and beyond, never appear. -/
theorem processL2ConnStateMachine_entries (d : DilationProtocol) (input : L2ConnInputEventS) :
    (processL2ConnStateMachine d input).2.map L2ConnOutputEventS.Event ⊆
      [l2ConnOutputEventAddCandidate, l2ConnOutputEventSetManager,
        l2ConnOutputEventCanSendRecords] := by
  rw [processL2ConnStateMachine_eq]
  have hle := l2ConnStateMachine_length_le d input.Event
  generalize (l2ConnStateMachine d input.Event).2.length = n at hle ⊢
  intro e he
  obtain ⟨o, ho, rfl⟩ := List.mem_map.mp he
  obtain ⟨i, hi, ho⟩ := List.mem_flatMap.mp ho
  have h3 : o.Event ∈ ((List.range 3).flatMap fun i : Nat => l2ConnEntry input i).map
      L2ConnOutputEventS.Event :=
    List.mem_map_of_mem _ (List.mem_flatMap.mpr
      ⟨i, List.mem_range.mpr (by have := List.mem_range.mp hi; omega), ho⟩)
  -- the entries of the indices 0, 1, 2 have exactly these three events
  exact h3

-- ============================================================================
-- The wrapper as a lift of the tag machine
-- ============================================================================

/-- The tag machine emits more than one output only on a Select in Selecting. -/
theorem l2ConnStateMachine_select_of_two_le (d : DilationProtocol) (event : L2ConnInputEvent)
    (h : 2 ≤ (l2ConnStateMachine d event).2.length) :
    event = l2ConnInputEventSelect ∧ d.l2ConnState = l2ConnStateSelecting := by
  refine Classical.byContradiction fun hn => ?_
  -- off that branch every branch of the if-chain emits at most one output
  have : (l2ConnStateMachine d event).2.length ≤ 1 := by
    simp only [l2ConnStateMachine, apply_ite Prod.snd, apply_ite List.length]
    repeat' (first | apply ite_le_of | intro)
    all_goals first | exact absurd ⟨‹_›, ‹_›⟩ hn | simp
  omega

/-- Only the AddCandidate entry carries a payload, the input's candidate. -/
theorem l2ConnEntry_payload (input : L2ConnInputEventS) (output : L2ConnOutputEvent) :
    ∀ o ∈ l2ConnEntry input output,
      o.Event = l2ConnOutputEventAddCandidate → o.candidate = input.candidate := by
  unfold l2ConnEntry
  repeat' apply forall_mem_ite
  all_goals simp [l2ConnOutputEventAddCandidate, l2ConnOutputEventSetManager,
    l2ConnOutputEventCanSendRecords, l2ConnOutputEventProcessInboundQueue,
    l2ConnOutputEventQueueInboundRecord, l2ConnOutputEventDeliverRecord]

/-- The wrapper as a lift of the tag machine.  It leaves the engine the tag machine leaves,
    and its AddCandidate entries carry the input's candidate; but its events are the indices
    `0 … n-1` of the tag machine's `n` outputs, so its event list is the tag machine's
    exactly when that list is empty or AddCandidate alone, the output numbered 0. -/
theorem processL2ConnStateMachine_lift (d : DilationProtocol) (input : L2ConnInputEventS) :
    (processL2ConnStateMachine d input).1 = (l2ConnStateMachine d input.Event).1 ∧
    (processL2ConnStateMachine d input).2.map L2ConnOutputEventS.Event =
      (List.range (l2ConnStateMachine d input.Event).2.length).map (fun i : Nat => (i : Int)) ∧
    (∀ o ∈ (processL2ConnStateMachine d input).2,
      o.Event = l2ConnOutputEventAddCandidate → o.candidate = input.candidate) ∧
    ((processL2ConnStateMachine d input).2.map L2ConnOutputEventS.Event =
        (l2ConnStateMachine d input.Event).2 ↔
      (l2ConnStateMachine d input.Event).2 = [] ∨
        (l2ConnStateMachine d input.Event).2 = [l2ConnOutputEventAddCandidate]) := by
  have hle := l2ConnStateMachine_length_le d input.Event
  have hevents : (processL2ConnStateMachine d input).2.map L2ConnOutputEventS.Event =
      (List.range (l2ConnStateMachine d input.Event).2.length).map fun i : Nat => (i : Int) := by
    rw [processL2ConnStateMachine_eq]
    refine flatMap_range_events _ _ _ fun i hi => ?_
    match i, hi with
    | 0, _ => rfl
    | 1, _ => rfl
    | 2, _ => rfl
    | _ + 3, hi => exact absurd hi (by omega)
  refine ⟨rfl, hevents, fun o ho => ?_, ?_⟩
  · rw [processL2ConnStateMachine_eq] at ho
    obtain ⟨i, -, ho⟩ := List.mem_flatMap.mp ho
    exact l2ConnEntry_payload input i o ho
  · rw [hevents]
    match h : (l2ConnStateMachine d input.Event).2, hle with
    | [], _ => simp
    | [a], _ => simp [List.range_succ, eq_comm, l2ConnOutputEventAddCandidate]
    | a :: b :: rest, _ =>
      -- more than one output only on Select in Selecting, where they are SetManager,
      -- CanSendRecords, ProcessInboundQueue
      obtain ⟨he, hs⟩ := l2ConnStateMachine_select_of_two_le d input.Event (by simp [h])
      have hsel := congrArg Prod.snd
        (l2ConnStateMachine_phase (p := .selecting) hs L2ConnInput.select)
      rw [show L2ConnInput.select.code = input.Event from he.symm, h] at hsel
      simp only [L2ConnPhase.step, L2ConnOutput.code, List.map_cons, List.map_nil,
        List.cons.injEq] at hsel
      obtain ⟨rfl, rfl, rfl⟩ := hsel
      simp [List.range_succ, l2ConnOutputEventSetManager, l2ConnOutputEventCanSendRecords,
        l2ConnOutputEventProcessInboundQueue]

end Wormhole.Dilation
