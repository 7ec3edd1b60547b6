/-
  Wormhole.Dilation.ManagerRun

  What the manager guarantees over whole runs, from the engine `InitDilation`
  builds (manager state Waiting) and any sequence of integer event codes:

    * `managerRun_role_elected_once` — SendPlease and ChooseRole are each emitted
      at most once, ChooseRole after SendPlease and before every connection
      start, and every phase from Connecting to Stopping has seen ChooseRole.  A
      shell that answers ChooseRole with `chooseRole` (`shellRun`) holds the empty
      role until then and the chosen one after; with equal sides `chooseRole`
      fails and the manager connects with no role.
    * `managerRun_stopped_absorbing` — Stopped is absorbing and silent, and
      NotifyStopped is emitted exactly on the steps into Stopped, so once in a run
      that reaches Stopped and never otherwise.
    * `managerRun_attempts_balanced` — the connection-attempt ledger is 1 in
      Connecting and 0 elsewhere, and stays in {0, 1} inside every step's outputs.

  Each rests on a one-step fact about the §4.1 table, checked over all phase/input
  pairs by `decide`, lifted to runs by induction (`ManagerPhase.run_*`) and carried
  to `managerStateMachine` by `managerRun_phase`.
-/
import Wormhole.Dilation.Manager
import Mathlib.Data.List.Count

namespace Wormhole.Dilation

theorem ManagerOutput.count_map_code (l : List ManagerOutput) (o : ManagerOutput) :
    (l.map ManagerOutput.code).count o.code = l.count o :=
  List.count_map_of_injective l _ ManagerOutput.code_injective o

theorem ManagerOutput.mem_map_code {l : List ManagerOutput} {o : ManagerOutput} :
    o.code ∈ l.map ManagerOutput.code ↔ o ∈ l :=
  List.mem_map_of_injective ManagerOutput.code_injective

/-- The engine `InitDilation` builds is in phase Waiting. -/
theorem initDilation_managerState (mySide : GoString) :
    (initDilation mySide).managerState = ManagerPhase.waiting.state := rfl

/-- The run from `InitDilation` is the table's run from Waiting. -/
theorem managerRun_initDilation (mySide : GoString) (events : List ManagerInputEvent) :
    managerRun (initDilation mySide) events =
      ({ initDilation mySide with managerState := (ManagerPhase.waiting.run events).1.state },
        (ManagerPhase.waiting.run events).2.map ManagerOutput.code) :=
  managerRun_phase (initDilation_managerState mySide) events

theorem ManagerPhase.react_of_ofCode?_none {p : ManagerPhase} {event : ManagerInputEvent}
    (h : ManagerInput.ofCode? event = none) : p.react event = (p, []) := by
  simp [ManagerPhase.react, h]

/-- Every property of one table step that also holds of a no-op holds of `react`. -/
theorem ManagerPhase.react_cases (P : ManagerPhase → ManagerPhase × List ManagerOutput → Prop)
    (hstep : ∀ p i, P p (p.step i)) (hnop : ∀ p, P p (p, [])) (p : ManagerPhase)
    (event : ManagerInputEvent) : P p (p.react event) := by
  unfold ManagerPhase.react
  split
  · exact hstep p _
  · exact hnop p

-- ============================================================================
-- Role election
-- ============================================================================

/-- The election outputs of a list: its SendPlease and ChooseRole entries, in order. -/
def ManagerOutput.election (l : List ManagerOutput) : List ManagerOutput :=
  l.filter fun o => o = .sendPlease ∨ o = .chooseRole

/-- The election outputs a run from Waiting may have produced by the time it is in a
    phase: none before Start, SendPlease in Wanting, both from Connecting on. -/
def ManagerPhase.elections : ManagerPhase → List (List ManagerOutput)
  | .waiting => [[]]
  | .wanting => [[.sendPlease]]
  | .stopped => [[], [.sendPlease], [.sendPlease, .chooseRole]]
  | _ => [[.sendPlease, .chooseRole]]

theorem ManagerPhase.step_elections : ∀ (p : ManagerPhase) (i : ManagerInput),
    ∀ x ∈ p.elections, x ++ ManagerOutput.election (p.step i).2 ∈ (p.step i).1.elections := by
  decide

theorem ManagerPhase.react_elections (p : ManagerPhase) (e : ManagerInputEvent)
    {x : List ManagerOutput} (hx : x ∈ p.elections) :
    x ++ ManagerOutput.election (p.react e).2 ∈ (p.react e).1.elections :=
  ManagerPhase.react_cases (fun p r => ∀ x ∈ p.elections, x ++ ManagerOutput.election r.2 ∈
    r.1.elections) ManagerPhase.step_elections (fun _ x hx => by
      simpa [ManagerOutput.election] using hx) p e x hx

theorem ManagerPhase.run_elections (p : ManagerPhase) (events : List ManagerInputEvent)
    {x : List ManagerOutput} (hx : x ∈ p.elections) :
    x ++ ManagerOutput.election (p.run events).2 ∈ (p.run events).1.elections := by
  induction events generalizing p x with
  | nil => simpa [ManagerOutput.election] using hx
  | cons e es ih =>
    simpa [ManagerOutput.election, List.filter_append] using
      ih _ (ManagerPhase.react_elections p e hx)

/-- SendPlease and ChooseRole entries of a manager output list, in order. -/
def roleOutputs (outs : List ManagerOutputEvent) : List ManagerOutputEvent :=
  outs.filter fun o => o = managerOutputEventSendPlease ∨ o = managerOutputEventChooseRole

theorem roleOutputs_map_code (l : List ManagerOutput) :
    roleOutputs (l.map ManagerOutput.code) =
      (ManagerOutput.election l).map ManagerOutput.code := by
  simp only [roleOutputs, ManagerOutput.election, List.filter_map]
  congr 1
  exact List.filter_congr fun o _ => by cases o <;> rfl

/-- Every run from `InitDilation` has emitted nothing, SendPlease, or SendPlease then
    ChooseRole, among the two election outputs; the last from Connecting to Stopping. -/
theorem managerRun_roleOutputs (mySide : GoString) (events : List ManagerInputEvent) :
    let r := managerRun (initDilation mySide) events
    (roleOutputs r.2 = [] ∨ roleOutputs r.2 = [managerOutputEventSendPlease] ∨
      roleOutputs r.2 = [managerOutputEventSendPlease, managerOutputEventChooseRole]) ∧
    (r.1.managerState ∈ [managerStateConnecting, managerStateConnected, managerStateFlushing,
        managerStateLonely, managerStateAbandoning, managerStateStopping] →
      roleOutputs r.2 = [managerOutputEventSendPlease, managerOutputEventChooseRole]) := by
  have h := ManagerPhase.run_elections .waiting events (x := []) (by decide)
  simp only [List.nil_append] at h
  simp only [managerRun_initDilation, roleOutputs_map_code]
  generalize ManagerOutput.election (ManagerPhase.waiting.run events).2 = el at h ⊢
  generalize (ManagerPhase.waiting.run events).1 = q at h ⊢
  cases q <;> simp only [ManagerPhase.elections, List.mem_cons, List.mem_singleton,
      List.not_mem_nil, or_false] at h <;>
    rcases h with rfl | rfl | rfl <;> simp [ManagerOutput.code]

/-- A list whose election entries are one of the three allowed has at most one of each,
    and ChooseRole only after SendPlease. -/
theorem roleOutputs_facts {outs : List ManagerOutputEvent}
    (h : roleOutputs outs = [] ∨ roleOutputs outs = [managerOutputEventSendPlease] ∨
      roleOutputs outs = [managerOutputEventSendPlease, managerOutputEventChooseRole]) :
    outs.count managerOutputEventSendPlease ≤ 1 ∧ outs.count managerOutputEventChooseRole ≤ 1 ∧
      ∀ pre post, outs = pre ++ managerOutputEventChooseRole :: post →
        managerOutputEventSendPlease ∈ pre := by
  have hsp : outs.count managerOutputEventSendPlease =
      (roleOutputs outs).count managerOutputEventSendPlease :=
    (List.count_filter (by decide)).symm
  have hcr : outs.count managerOutputEventChooseRole =
      (roleOutputs outs).count managerOutputEventChooseRole :=
    (List.count_filter (by decide)).symm
  refine ⟨?_, ?_, fun pre post hsplit => ?_⟩
  · rw [hsp]; rcases h with h | h | h <;> rw [h] <;> decide
  · rw [hcr]; rcases h with h | h | h <;> rw [h] <;> decide
  · have hf : roleOutputs outs =
        roleOutputs pre ++ managerOutputEventChooseRole :: roleOutputs post := by
      simp [hsplit, roleOutputs, List.filter_append]
    rw [hf] at h
    suffices managerOutputEventSendPlease ∈ roleOutputs pre from (List.mem_filter.mp this).1
    have hne : managerOutputEventChooseRole ≠ managerOutputEventSendPlease := by decide
    rcases h with h | h | h
    · simp at h
    · rcases hpre : roleOutputs pre with _ | ⟨a, _ | ⟨b, t⟩⟩ <;> simp_all
    · rcases hpre : roleOutputs pre with _ | ⟨a, _ | ⟨b, t⟩⟩ <;> simp_all

-- ============================================================================
-- Connection attempts wait for ChooseRole
-- ============================================================================

/-- Whether an output starts connection attempts. -/
def ManagerOutput.startsConnecting : ManagerOutput → Bool
  | .startConnecting | .startConnectingIgnoreMsg => true
  | _ => false

/-- No output of the list starts connection attempts before its first ChooseRole. -/
def ManagerOutput.choosesFirst : List ManagerOutput → Bool
  | [] => true
  | .chooseRole :: _ => true
  | o :: l => !o.startsConnecting && ManagerOutput.choosesFirst l

theorem ManagerOutput.choosesFirst_append {x y : List ManagerOutput}
    (hx : ManagerOutput.choosesFirst x = true)
    (hy : ManagerOutput.chooseRole ∈ x ∨ ManagerOutput.choosesFirst y = true) :
    ManagerOutput.choosesFirst (x ++ y) = true := by
  induction x with
  | nil => simpa using hy
  | cons o x ih =>
    cases o <;> simp_all [ManagerOutput.choosesFirst, ManagerOutput.startsConnecting]

/-- One table step from a phase whose election outputs lack ChooseRole starts no connection
    attempt before a ChooseRole of its own. -/
theorem ManagerPhase.step_choosesFirst : ∀ (p : ManagerPhase) (i : ManagerInput),
    ∀ x ∈ p.elections, ManagerOutput.chooseRole ∈ x ∨
      ManagerOutput.choosesFirst (p.step i).2 = true := by
  decide

/-- Over a run from a phase, no connection attempt starts before ChooseRole, when the
    outputs so far meet that and their election outputs are the phase's. -/
theorem ManagerPhase.run_choosesFirst (p : ManagerPhase) (events : List ManagerInputEvent)
    {x : List ManagerOutput} (hx : ManagerOutput.election x ∈ p.elections)
    (hok : ManagerOutput.choosesFirst x = true) :
    ManagerOutput.choosesFirst (x ++ (p.run events).2) = true := by
  induction events generalizing p x with
  | nil => simpa using hok
  | cons e es ih =>
    have hstep : ManagerOutput.chooseRole ∈ ManagerOutput.election x ∨
        ManagerOutput.choosesFirst (p.react e).2 = true :=
      ManagerPhase.react_cases (fun p r => ∀ x ∈ p.elections, ManagerOutput.chooseRole ∈ x ∨
        ManagerOutput.choosesFirst r.2 = true) ManagerPhase.step_choosesFirst
        (fun _ _ _ => .inr rfl) p e _ hx
    have helect : ManagerOutput.election (x ++ (p.react e).2) ∈ (p.react e).1.elections := by
      rw [ManagerOutput.election, List.filter_append]
      exact ManagerPhase.react_elections p e hx
    simpa using ih _ helect (ManagerOutput.choosesFirst_append hok
      (hstep.imp_left fun h => (List.mem_filter.mp h).1))

/-- In a list whose connection starts all follow a ChooseRole, each start is preceded by
    a ChooseRole. -/
theorem ManagerOutput.choosesFirst_split {pre post : List ManagerOutput} {o : ManagerOutput}
    (h : ManagerOutput.choosesFirst (pre ++ o :: post) = true) (ho : o.startsConnecting = true) :
    ManagerOutput.chooseRole ∈ pre := by
  induction pre with
  | nil => cases o <;> simp_all [ManagerOutput.choosesFirst, ManagerOutput.startsConnecting]
  | cons a pre ih =>
    by_cases ha : a = .chooseRole
    · simp [ha]
    · refine List.mem_cons_of_mem _ (ih ?_)
      cases a <;> simp_all [ManagerOutput.choosesFirst]

/-- The same in the Go constants the manager returns. -/
theorem ManagerOutput.choosesFirst_map_code {l : List ManagerOutput}
    (h : ManagerOutput.choosesFirst l = true) {pre post : List ManagerOutputEvent}
    {o : ManagerOutputEvent} (hl : l.map ManagerOutput.code = pre ++ o :: post)
    (ho : o = managerOutputEventStartConnecting ∨ o = managerOutputEventStartConnectingIgnoreMsg) :
    managerOutputEventChooseRole ∈ pre := by
  obtain ⟨l₁, l₂, rfl, rfl, hl₂⟩ := List.map_eq_append_iff.mp hl
  obtain ⟨a, l₃, rfl, rfl, rfl⟩ := List.map_eq_cons_iff.mp hl₂
  have hstart : a.startsConnecting = true := by
    rcases ho with ho | ho
    · rw [ManagerOutput.code_injective (ho.trans (rfl : _ = ManagerOutput.startConnecting.code))]
      rfl
    · rw [ManagerOutput.code_injective
        (ho.trans (rfl : _ = ManagerOutput.startConnectingIgnoreMsg.code))]
      rfl
  exact ManagerOutput.mem_map_code.mpr (ManagerOutput.choosesFirst_split h hstart)

-- ============================================================================
-- The shell's answer to ChooseRole
-- ============================================================================

/-- The shell's answer to the outputs of one step: each ChooseRole output by one
    `chooseRole(otherSide)` call, in order; the other outputs do not touch the engine. -/
def answerOutputs (otherSide : GoString) (d : DilationProtocol)
    (outs : List ManagerOutputEvent) : DilationProtocol :=
  outs.foldl (fun d o => if o = managerOutputEventChooseRole then (chooseRole d otherSide).1 else d) d

/-- The manager driven by a shell that answers the outputs of each step before the next
    event. -/
def shellRun (otherSide : GoString) (d : DilationProtocol) :
    List ManagerInputEvent → DilationProtocol
  | [] => d
  | e :: es =>
    shellRun otherSide
      (answerOutputs otherSide (managerStateMachine d e).1 (managerStateMachine d e).2) es

/-- However many ChooseRole outputs a step has, answering them is one `chooseRole`. -/
theorem answerOutputs_eq (otherSide : GoString) (d : DilationProtocol)
    (outs : List ManagerOutputEvent) :
    answerOutputs otherSide d outs =
      if managerOutputEventChooseRole ∈ outs then (chooseRole d otherSide).1 else d := by
  induction outs generalizing d with
  | nil => simp [answerOutputs]
  | cons o os ih =>
    rw [answerOutputs, List.foldl_cons, ← answerOutputs, ih]
    by_cases ho : o = managerOutputEventChooseRole
    · subst ho
      simp [chooseRole_idem]
    · simp [ho, Ne.symm ho]

/-- The shell from a phase: the engine the manager's run leaves, whose role is what
    `chooseRole` gives once the run has emitted ChooseRole, and the old role until then. -/
theorem shellRun_phase (otherSide : GoString) {d : DilationProtocol} {p : ManagerPhase}
    (hp : d.managerState = p.state) (events : List ManagerInputEvent) :
    shellRun otherSide d events =
      { d with
        managerState := (p.run events).1.state
        role := if managerOutputEventChooseRole ∈ (p.run events).2.map ManagerOutput.code
          then (chooseRole d otherSide).1.role else d.role } := by
  induction events generalizing d p with
  | nil => obtain ⟨v, m, c, l, r, s⟩ := d; subst hp; simp [shellRun]
  | cons e es ih =>
    obtain ⟨v, m, c, l, r, s⟩ := d
    subst hp
    rw [shellRun, managerStateMachine_phase rfl, answerOutputs_eq]
    by_cases hcr : managerOutputEventChooseRole ∈ (p.react e).2.map ManagerOutput.code
    · -- this step elects: the role is `chooseRole`'s from now on
      rw [if_pos hcr, chooseRole_frame, ih rfl]
      simp only [chooseRole_role, ManagerPhase.run_cons, List.map_append, List.mem_append, hcr,
        true_or, if_true]
      split_ifs <;> rfl
    · rw [if_neg hcr, ih rfl]
      simp only [chooseRole_role, ManagerPhase.run_cons, List.map_append, List.mem_append, hcr,
        false_or]

/-- `chooseRole` on the engine `InitDilation` builds leaves the role empty exactly when the
    two sides are equal. -/
theorem chooseRole_initDilation_role_eq_nil (mySide otherSide : GoString) :
    (chooseRole (initDilation mySide) otherSide).1.role = [] ↔ mySide = otherSide := by
  rw [chooseRole_role, ← cmpstring_eq_iff (a := mySide)]
  show (if cmpstring mySide otherSide = .gt then leader
    else if cmpstring mySide otherSide = .lt then follower else []) = [] ↔ _
  rcases cmpstring mySide otherSide <;> decide

/-- Role election happens once, before any connection attempt.  Over every run from
    `InitDilation`, SendPlease and ChooseRole are each emitted at most once, ChooseRole
    only after SendPlease and before every StartConnecting and StartConnectingIgnoreMsg,
    and a run that ends in Connecting, Connected, Flushing, Lonely, Abandoning or Stopping
    has emitted ChooseRole.  A shell that answers each ChooseRole with `chooseRole` against
    the other side leaves the engine of the manager's run with the role empty until the
    step that emits ChooseRole and, from it on, the role that call chose, never changed
    again; that role is empty exactly when the two sides are equal. -/
theorem managerRun_role_elected_once (mySide : GoString) (events : List ManagerInputEvent) :
    let r := managerRun (initDilation mySide) events
    r.2.count managerOutputEventSendPlease ≤ 1 ∧
    r.2.count managerOutputEventChooseRole ≤ 1 ∧
    (∀ pre post, r.2 = pre ++ managerOutputEventChooseRole :: post →
      managerOutputEventSendPlease ∈ pre) ∧
    (r.1.managerState ∈ [managerStateConnecting, managerStateConnected, managerStateFlushing,
        managerStateLonely, managerStateAbandoning, managerStateStopping] →
      managerOutputEventChooseRole ∈ r.2) ∧
    (∀ pre o post, r.2 = pre ++ o :: post →
      (o = managerOutputEventStartConnecting ∨ o = managerOutputEventStartConnectingIgnoreMsg) →
      managerOutputEventChooseRole ∈ pre) ∧
    ∀ otherSide : GoString,
      shellRun otherSide (initDilation mySide) events =
        { r.1 with role := if managerOutputEventChooseRole ∈ r.2
          then (chooseRole (initDilation mySide) otherSide).1.role else [] } ∧
      ((chooseRole (initDilation mySide) otherSide).1.role = [] ↔ mySide = otherSide) := by
  intro r
  obtain ⟨hall, hlate⟩ := managerRun_roleOutputs mySide events
  have hfirst := ManagerPhase.run_choosesFirst .waiting events (x := []) (by decide) rfl
  refine ⟨(roleOutputs_facts hall).1, (roleOutputs_facts hall).2.1, (roleOutputs_facts hall).2.2,
    fun hs => ?_, fun pre o post hsplit ho => ManagerOutput.choosesFirst_map_code hfirst
      (by rw [← hsplit]; simp [r, managerRun_initDilation]) ho,
    fun otherSide => ⟨?_, chooseRole_initDilation_role_eq_nil mySide otherSide⟩⟩
  · -- the late phases have seen ChooseRole among the election outputs
    have : managerOutputEventChooseRole ∈ roleOutputs r.2 := by simp [hlate hs]
    exact (List.mem_filter.mp this).1
  · -- the shell's engine is the manager's, with the role `chooseRole` set
    rw [shellRun_phase otherSide (initDilation_managerState mySide)]
    simp only [r, managerRun_initDilation]
    rfl

/-- Equal sides: after `Start` and `RxPlease` the manager has started connecting, while the
    shell's `chooseRole` failed and the role is still empty. -/
theorem managerRun_role_elected_once_equalSides :
    managerOutputEventStartConnectingIgnoreMsg ∈
        (managerRun (initDilation (goStr "4a74cb8a377c970a"))
          [managerInputEventStart, managerInputEventRxPlease]).2 ∧
      (shellRun (goStr "4a74cb8a377c970a") (initDilation (goStr "4a74cb8a377c970a"))
          [managerInputEventStart, managerInputEventRxPlease]).role = [] := by
  decide

-- ============================================================================
-- Stopping
-- ============================================================================

@[simp] theorem ManagerPhase.step_stopped (i : ManagerInput) :
    ManagerPhase.stopped.step i = (.stopped, []) := by
  cases i <;> rfl

@[simp] theorem ManagerPhase.react_stopped (event : ManagerInputEvent) :
    ManagerPhase.stopped.react event = (.stopped, []) := by
  unfold ManagerPhase.react; split <;> simp

@[simp] theorem ManagerPhase.run_stopped (events : List ManagerInputEvent) :
    ManagerPhase.stopped.run events = (.stopped, []) := by
  induction events with
  | nil => rfl
  | cons e es ih => simp [ih]

/-- NotifyStopped is emitted once on a step into Stopped and on no other step. -/
theorem ManagerPhase.step_notifyStopped : ∀ (p : ManagerPhase) (i : ManagerInput),
    (p.step i).2.count .notifyStopped =
      if p ≠ .stopped ∧ (p.step i).1 = .stopped then 1 else 0 := by
  decide

theorem ManagerPhase.react_notifyStopped (p : ManagerPhase) (event : ManagerInputEvent) :
    (p.react event).2.count .notifyStopped =
      if p ≠ .stopped ∧ (p.react event).1 = .stopped then 1 else 0 :=
  ManagerPhase.react_cases (fun p r => r.2.count .notifyStopped =
    if p ≠ .stopped ∧ r.1 = .stopped then 1 else 0) ManagerPhase.step_notifyStopped
    (fun p => by by_cases hp : p = .stopped <;> simp [hp]) p event

theorem ManagerPhase.run_notifyStopped (p : ManagerPhase) (events : List ManagerInputEvent) :
    (p.run events).2.count .notifyStopped =
      if p ≠ .stopped ∧ (p.run events).1 = .stopped then 1 else 0 := by
  induction events generalizing p with
  | nil => by_cases hp : p = .stopped <;> simp [hp]
  | cons e es ih =>
    rw [ManagerPhase.run_cons, List.count_append, ManagerPhase.react_notifyStopped, ih]
    by_cases hp : p = .stopped
    · subst hp; simp
    · by_cases hq : (p.react e).1 = .stopped <;> simp [hp, hq]

/-- From Stopped, every event is a silent no-op. -/
theorem managerStateMachine_stopped {d : DilationProtocol}
    (h : d.managerState = managerStateStopped) (event : ManagerInputEvent) :
    managerStateMachine d event = (d, []) := by
  obtain ⟨v, m, c, l, r, s⟩ := d
  subst h
  rw [managerStateMachine_phase (p := .stopped) rfl, ManagerPhase.react_stopped]
  rfl

theorem managerRun_stopped {d : DilationProtocol} (h : d.managerState = managerStateStopped)
    (events : List ManagerInputEvent) : managerRun d events = (d, []) := by
  induction events with
  | nil => rfl
  | cons e es ih => simp [managerStateMachine_stopped h, ih]

/-- Stopped is absorbing and notified once: after any run from `InitDilation`, a Stopped
    engine stays Stopped and silent under every later sequence of events; NotifyStopped
    is emitted on exactly the steps into Stopped; and a run has emitted it once if it
    ends in Stopped and never otherwise. -/
theorem managerRun_stopped_absorbing (mySide : GoString) (pre post : List ManagerInputEvent)
    (event : ManagerInputEvent) :
    let d := (managerRun (initDilation mySide) pre).1
    (d.managerState = managerStateStopped → managerRun d post = (d, [])) ∧
    (managerOutputEventNotifyStopped ∈ (managerStateMachine d event).2 ↔
      d.managerState ≠ managerStateStopped ∧
        (managerStateMachine d event).1.managerState = managerStateStopped) ∧
    (managerRun (initDilation mySide) pre).2.count managerOutputEventNotifyStopped =
      if d.managerState = managerStateStopped then 1 else 0 := by
  intro d
  have hd : d.managerState = (ManagerPhase.waiting.run pre).1.state := by
    simp [d, managerRun_initDilation]
  refine ⟨fun h => managerRun_stopped h post, ?_, ?_⟩
  · have hnotify := ManagerPhase.react_notifyStopped (ManagerPhase.waiting.run pre).1 event
    rw [managerStateMachine_phase hd, hd]
    simp only [ManagerPhase.state_eq_stopped, ne_eq]
    rw [show managerOutputEventNotifyStopped = ManagerOutput.notifyStopped.code from rfl,
      ManagerOutput.mem_map_code, ← List.count_pos_iff, hnotify]
    split_ifs with h <;> simp [h]
  · rw [hd, managerRun_initDilation,
      show managerOutputEventNotifyStopped = ManagerOutput.notifyStopped.code from rfl,
      ManagerOutput.count_map_code, ManagerPhase.run_notifyStopped]
    simp

-- ============================================================================
-- Connection attempts
-- ============================================================================

/-- Net number of connection attempts a list of manager outputs starts: one for each
    StartConnecting or StartConnectingIgnoreMsg, minus one for each StopConnecting. -/
def attemptsStarted (outs : List ManagerOutputEvent) : Int :=
  outs.count managerOutputEventStartConnecting +
    outs.count managerOutputEventStartConnectingIgnoreMsg -
    outs.count managerOutputEventStopConnecting

/-- The steps of a run that are a ConnectionMade taken in state Connecting. -/
def connectionMadeSteps (d : DilationProtocol) : List ManagerInputEvent → Nat
  | [] => 0
  | e :: es =>
    (if e = managerInputEventConnectionMade ∧ d.managerState = managerStateConnecting then 1
      else 0) + connectionMadeSteps (managerStateMachine d e).1 es

/-- The spec's ledger A after a run: attempts its outputs started, minus its ConnectionMade
    steps in Connecting. -/
def openAttempts (d : DilationProtocol) (events : List ManagerInputEvent) : Int :=
  attemptsStarted (managerRun d events).2 - connectionMadeSteps d events

theorem attemptsStarted_append (a b : List ManagerOutputEvent) :
    attemptsStarted (a ++ b) = attemptsStarted a + attemptsStarted b := by
  simp only [attemptsStarted, List.count_append]; omega

theorem openAttempts_cons (d : DilationProtocol) (e : ManagerInputEvent)
    (es : List ManagerInputEvent) :
    openAttempts d (e :: es) =
      attemptsStarted (managerStateMachine d e).2 -
        (if e = managerInputEventConnectionMade ∧ d.managerState = managerStateConnecting then 1
          else 0) + openAttempts (managerStateMachine d e).1 es := by
  simp only [openAttempts, managerRun_cons, connectionMadeSteps, attemptsStarted_append]
  split_ifs <;> omega

/-- `attemptsStarted` over the table's outputs. -/
def ManagerOutput.attempts (l : List ManagerOutput) : Int :=
  l.count .startConnecting + l.count .startConnectingIgnoreMsg - l.count .stopConnecting

theorem attemptsStarted_map_code (l : List ManagerOutput) :
    attemptsStarted (l.map ManagerOutput.code) = ManagerOutput.attempts l := by
  simp only [attemptsStarted, ManagerOutput.attempts]
  rw [show managerOutputEventStartConnecting = ManagerOutput.startConnecting.code from rfl,
    show managerOutputEventStartConnectingIgnoreMsg =
      ManagerOutput.startConnectingIgnoreMsg.code from rfl,
    show managerOutputEventStopConnecting = ManagerOutput.stopConnecting.code from rfl,
    ManagerOutput.count_map_code, ManagerOutput.count_map_code, ManagerOutput.count_map_code]

/-- The ledger in a phase: one attempt runs in Connecting, none elsewhere. -/
def ManagerPhase.running (p : ManagerPhase) : Int := if p = .connecting then 1 else 0

/-- A ConnectionMade taken in Connecting settles the running attempt. -/
def ManagerPhase.made (p : ManagerPhase) (event : ManagerInputEvent) : Int :=
  if event = managerInputEventConnectionMade ∧ p = .connecting then 1 else 0

/-- One table step keeps the ledger equal to the phase's, and inside its output list the
    ledger never leaves {0, 1}. -/
theorem ManagerPhase.step_attempts : ∀ (p : ManagerPhase) (i : ManagerInput),
    p.running + ManagerOutput.attempts (p.step i).2 - p.made i.code = (p.step i).1.running ∧
    ∀ k ≤ (p.step i).2.length, 0 ≤ p.running + ManagerOutput.attempts ((p.step i).2.take k) ∧
      p.running + ManagerOutput.attempts ((p.step i).2.take k) ≤ 1 := by
  decide

theorem ManagerPhase.react_attempts (p : ManagerPhase) (event : ManagerInputEvent) :
    p.running + ManagerOutput.attempts (p.react event).2 - p.made event =
      (p.react event).1.running ∧
    ∀ k, 0 ≤ p.running + ManagerOutput.attempts ((p.react event).2.take k) ∧
      p.running + ManagerOutput.attempts ((p.react event).2.take k) ≤ 1 := by
  have hrun : 0 ≤ p.running ∧ p.running ≤ 1 := by cases p <;> decide
  rcases h : ManagerInput.ofCode? event with _ | i
  · have hmade : p.made event = 0 := by
      simp [ManagerPhase.made, (ManagerInput.ofCode?_none h).2.2.1]
    simp [ManagerPhase.react_of_ofCode?_none h, hmade, ManagerOutput.attempts, hrun]
  · obtain rfl := ManagerInput.ofCode?_some h
    rw [ManagerPhase.react_code]
    refine ⟨(ManagerPhase.step_attempts p i).1, fun k => ?_⟩
    by_cases hk : k ≤ (p.step i).2.length
    · exact (ManagerPhase.step_attempts p i).2 k hk
    · rw [List.take_of_length_le (by omega), ← List.take_length (p.step i).2]
      exact (ManagerPhase.step_attempts p i).2 _ le_rfl

/-- Over a run from a phase's state string, the ledger moves from that phase's value to the
    final phase's. -/
theorem openAttempts_phase {d : DilationProtocol} {p : ManagerPhase}
    (hp : d.managerState = p.state) (events : List ManagerInputEvent) :
    p.running + openAttempts d events = (p.run events).1.running := by
  induction events generalizing d p with
  | nil => simp [openAttempts, attemptsStarted, connectionMadeSteps]
  | cons e es ih =>
    have hmade : (if e = managerInputEventConnectionMade ∧ d.managerState = managerStateConnecting
        then (1 : Int) else 0) = p.made e := by
      simp [ManagerPhase.made, hp]
    have hrest := ih (d := (managerStateMachine d e).1) (p := (p.react e).1)
      (by rw [managerStateMachine_phase hp])
    rw [openAttempts_cons, hmade, ManagerPhase.run_cons, ← hrest, managerStateMachine_phase hp,
      attemptsStarted_map_code]
    have := (ManagerPhase.react_attempts p e).1
    omega

/-- Connection attempts are balanced: after every run from `InitDilation` the ledger A
    (starts minus stops minus ConnectionMade steps in Connecting) is 1 in Connecting and 0
    in every other state, and inside the next step's output list, whatever the event, it
    stays in {0, 1} at every prefix. -/
theorem managerRun_attempts_balanced (mySide : GoString) (events : List ManagerInputEvent)
    (event : ManagerInputEvent) (k : Nat) :
    let d := (managerRun (initDilation mySide) events).1
    openAttempts (initDilation mySide) events =
      (if d.managerState = managerStateConnecting then 1 else 0) ∧
    0 ≤ openAttempts (initDilation mySide) events +
      attemptsStarted ((managerStateMachine d event).2.take k) ∧
    openAttempts (initDilation mySide) events +
      attemptsStarted ((managerStateMachine d event).2.take k) ≤ 1 := by
  intro d
  have hA := openAttempts_phase (initDilation_managerState mySide) events
  have hd : d.managerState = (ManagerPhase.waiting.run events).1.state := by
    simp [d, managerRun_initDilation]
  simp only [ManagerPhase.running, reduceCtorEq, if_false, zero_add] at hA
  rw [managerStateMachine_phase hd, ← List.map_take, attemptsStarted_map_code, hA, hd]
  simp only [ManagerPhase.state_eq_connecting]
  exact ⟨trivial, ManagerPhase.react_attempts _ event |>.2 k⟩

end Wormhole.Dilation
