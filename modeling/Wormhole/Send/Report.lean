/-
  Wormhole.Send.Report

  What the result goroutines report.  The contract (`ReportsResult`): the
  goroutine does not panic, sends one result on `ch` and closes it, the result
  is OK or carries an error, and the mailbox is closed happily only for an OK
  result or the error `errOfferRejected`.

  Each stage of a body gets one spec lemma (`ExitSpec`: what a normal completion
  returns, and which ways out it can take), and the goroutines' theorems are
  assembled from them.  `SendTextMsg`'s goroutine meets the contract for every
  environment (`sendTextMsgGoroutine_reportsResult`).  `sendFileDirectory`'s
  breaks it in exactly three ways (`sendFileDirectoryGoroutine_reportsResult_or`):
  it panics, at the log line on a nil connection or at `recordSlice[:n]` when a
  `Read` reports more bytes than the slice holds; a final ack that cannot be read is
  reported with the goroutine's `err`, which is nil there, so the result is
  neither OK nor an error and the mailbox is closed happily
  (`sendFileDirectoryGoroutine_ackReadFailed`); and any error with the text of
  `errOfferRejected` closes the mailbox happily.
-/
import Wormhole.Send.Model

namespace Wormhole.Send

-- ============================================================================
-- Specs of bodies
-- ============================================================================

/-- `x` completes with a value satisfying `Q`, or leaves through an exit satisfying `P`. -/
def ExitSpec {α : Type} (P : Exit → Prop) (Q : α → Prop) : Except Exit α → Prop
  | .error exit => P exit
  | .ok a => Q a

/-- A way out that reports an error: `sendErr` with a non-nil error. -/
def Exit.Reports : Exit → Prop
  | .sendErr err => err ≠ none
  | .panic => False

section ExitSpec

variable {α β : Type} {P : Exit → Prop} {Q : α → Prop} {R : β → Prop}

theorem ExitSpec.pure {a : α} (h : Q a) : ExitSpec P Q (pure a) := h

theorem ExitSpec.throw {e : Exit} (h : P e) : ExitSpec P Q (throw e : Except Exit α) := h

theorem ExitSpec.bind {x : Except Exit α} {f : α → Except Exit β} (hx : ExitSpec P Q x)
    (hf : ∀ a, Q a → ExitSpec P R (f a)) : ExitSpec P R (x >>= f) := by
  cases x with
  | error e => exact hx
  | ok a => exact hf a hx

theorem ExitSpec.mono {P' : Exit → Prop} {Q' : α → Prop} {x : Except Exit α}
    (hP : ∀ e, P e → P' e) (hQ : ∀ a, Q a → Q' a) (h : ExitSpec P Q x) : ExitSpec P' Q' x := by
  cases x with
  | error e => exact hP e h
  | ok a => exact hQ a h

end ExitSpec

theorem checkErr_spec (err : Option GoErr) :
    ExitSpec Exit.Reports (fun _ => err = none) (checkErr err) := by
  cases err with
  | none => exact ExitSpec.pure rfl
  | some e => exact ExitSpec.throw (Option.some_ne_none e)

theorem checkResult_spec {α : Type} (r : Except GoErr α) :
    ExitSpec Exit.Reports (fun _ => True) (checkResult r) := by
  cases r with
  | error e => exact ExitSpec.throw (Option.some_ne_none e)
  | ok a => exact ExitSpec.pure trivial

theorem sendErr_some_spec {α : Type} {Q : α → Prop} (e : GoErr) :
    ExitSpec Exit.Reports Q (throw (.sendErr (some e)) : Except Exit α) :=
  ExitSpec.throw (Option.some_ne_none e)

/-- The shared steps leave only through `sendErr` with an error. -/
theorem handshake_spec (h : HandshakeEnv) :
    ExitSpec Exit.Reports (fun _ => True) (handshake h) := by
  refine (checkErr_spec _).bind fun _ _ => (checkErr_spec _).bind fun _ _ =>
    (checkErr_spec _).bind fun _ _ => (checkErr_spec _).bind fun _ _ => ?_
  split
  · exact ExitSpec.pure trivial
  · refine (checkResult_spec _).bind fun _ _ => ?_
    split
    · exact ExitSpec.pure trivial
    · exact (checkErr_spec _).bind fun _ _ => sendErr_some_spec _

theorem sendTextMsgBody_spec (env : SendTextEnv) :
    ExitSpec Exit.Reports (fun _ => True) (sendTextMsgBody env) := by
  refine (handshake_spec _).bind fun _ _ => (checkErr_spec _).bind fun _ _ =>
    (checkErr_spec _).bind fun _ _ => (checkResult_spec _).bind fun _ _ => ?_
  split
  · exact ExitSpec.pure trivial
  · exact sendErr_some_spec _

theorem exitIf_spec {P : Exit → Prop} {cond : Prop} [Decidable cond] {exit : Exit}
    (h : cond → P exit) : ExitSpec P (fun _ => ¬ cond) (exitIf cond exit) := by
  unfold exitIf
  split
  · next hc => exact ExitSpec.throw (h hc)
  · next hc => exact ExitSpec.pure hc

/-- The setup of the file goroutine leaves through `sendErr` with an error, or panics at
    the log line when logging is on and the connection is nil; it reaches the loop only
    with `err` nil. -/
theorem sendFileSetup_spec (loggingEnabled : Bool) (env : FileSendEnv) :
    ExitSpec (fun e => e.Reports ∨ (e = .panic ∧ loggingEnabled ∧ env.connNil))
      (· = none) (sendFileSetup loggingEnabled env) := by
  have hr : ∀ e : Exit, e.Reports → e.Reports ∨ (e = .panic ∧ loggingEnabled ∧ env.connNil) :=
    fun _ => .inl
  have hc := fun err => (checkErr_spec err).mono hr fun _ h => h
  -- one step per statement of the body, in its order
  exact ((handshake_spec _).mono hr fun _ h => h).bind fun _ _ =>
    (exitIf_spec fun _ => .inl (Option.some_ne_none _)).bind fun _ _ =>
    (hc _).bind fun _ _ => (hc _).bind fun _ _ => (hc _).bind fun _ _ =>
    (hc _).bind fun _ _ => (hc _).bind fun _ _ => (hc _).bind fun _ _ =>
    ((checkResult_spec _).mono hr fun _ h => h).bind fun _ _ =>
    (exitIf_spec fun _ => .inl (Option.some_ne_none _)).bind fun _ _ =>
    -- the log line, the one panic
    (exitIf_spec fun h => .inr ⟨rfl, by simpa using h⟩).bind fun _ _ =>
    (hc _).bind fun _ h => ExitSpec.pure h

/-- The final-ack stage leaves through `sendErr` with an error, except when `readRecord`
    fails: it then passes the goroutine's `err` on. -/
theorem sendFileFinish_spec (sha256 : List UInt8 → List UInt8) (toLower : GoString → GoString)
    (env : FileSendEnv) (err : Option GoErr) (hashed : List UInt8) :
    ExitSpec (fun e => e.Reports ∨ (e = .sendErr err ∧ ∃ re, env.readRecord = .error re))
      (fun _ => True) (sendFileFinish sha256 toLower env err hashed) := by
  unfold sendFileFinish
  split
  · next re hre => exact ExitSpec.throw (.inr ⟨rfl, re, hre⟩)
  · exact ((checkResult_spec _).mono (fun _ => .inl) fun _ h => h).bind fun _ _ =>
      (exitIf_spec fun _ => .inl (Option.some_ne_none _)).bind fun _ _ =>
      (exitIf_spec fun _ => .inl (Option.some_ne_none _)).mono (fun _ h => h) fun _ _ => trivial

-- ============================================================================
-- The record loop
-- ============================================================================

/-- The loop reports every error it stops on: the record loop's `sendErr` always has one. -/
theorem recordLoop_sendErr_ne_none (progressFunc : Bool) (totalSize : Int) (st : LoopState)
    (reads : List ReadResult) {err : Option GoErr}
    (h : (recordLoop progressFunc totalSize st reads).1 = .sendErr err) : err ≠ none := by
  induction reads generalizing st with
  | nil => cases h
  | cons r reads ih =>
    rcases recordLoop_cons progressFunc totalSize st r reads with
      ⟨st', heq, -⟩ | ⟨heq, -⟩ | ⟨st', e, heq⟩ | ⟨heq, -⟩ <;> rw [heq] at h
    · exact ih _ h
    · cases h
    · cases h
      exact Option.some_ne_none e
    · cases h

/-- The loop panics only at a `Read` that reported more bytes than `recordSlice` holds. -/
theorem recordLoop_panic (progressFunc : Bool) (totalSize : Int) (st : LoopState)
    (reads : List ReadResult) (h : (recordLoop progressFunc totalSize st reads).1 = .panic) :
    ∃ r ∈ reads, recordSliceLen < r.chunk.length := by
  induction reads generalizing st with
  | nil => cases h
  | cons r reads ih =>
    rcases recordLoop_cons progressFunc totalSize st r reads with
      ⟨st', heq, -⟩ | ⟨-, hlen⟩ | ⟨st', e, heq⟩ | ⟨heq, -⟩
    · obtain ⟨r', hr', hlen⟩ := ih st' (heq ▸ h)
      exact ⟨r', List.mem_cons_of_mem r hr', hlen⟩
    · exact ⟨r, List.mem_cons_self r reads, hlen⟩
    · rw [heq] at h; cases h
    · rw [heq] at h; cases h

-- ============================================================================
-- The result contract
-- ============================================================================

/-- The result contract of a goroutine's end: no panic, one result sent on `ch` and then
    `ch` closed, a result that is OK or carries an error, and a happy mood only for an OK
    result or the error `errOfferRejected`. -/
def ReportsResult (errOfferRejected : GoErr) (e : GoroutineEnd) : Prop :=
  e.panicked = false ∧ ∃ r : SendResult, e.ch = [.send r, .close] ∧
    (r.OK = true ∨ r.Error ≠ none) ∧
    (e.mood = .happy → r.OK = true ∨ r.Error = some errOfferRejected)

/-- A body that leaves only through `sendErr` with an error ends in the contract, under a
    mood that is happy on an error only for `errOfferRejected`. -/
theorem exitEnd_reportsResult {errOfferRejected : GoErr} {mood : Option GoErr → Mood}
    (progressCalls : List (Int × Int)) {body : Except Exit Unit}
    (hbody : ExitSpec Exit.Reports (fun _ => True) body)
    (hmood : ∀ g, mood (some g) = .happy → g = errOfferRejected) :
    ReportsResult errOfferRejected (exitEnd mood progressCalls body) := by
  match body, hbody with
  | .ok (), _ => exact ⟨rfl, _, rfl, .inl rfl, fun _ => .inl rfl⟩
  | .error (.sendErr err), hb =>
    refine ⟨rfl, _, rfl, .inr hb, fun h => .inr ?_⟩
    obtain ⟨g, rfl⟩ := Option.ne_none_iff_exists'.mp hb
    rw [hmood g h]
  | .error .panic, hb => exact hb.elim

/-- Why `sendFileDirectory`'s goroutine can panic: the log line reads a nil connection, or
    a `Read` reported more bytes than `recordSlice` holds. -/
def FilePanics (loggingEnabled : Bool) (env : FileSendEnv) : Prop :=
  (loggingEnabled ∧ env.connNil) ∨ ∃ r ∈ env.reads, recordSliceLen < r.chunk.length

/-- The ways out of `sendFileDirectory`'s goroutine: `sendErr` with an error, one of its two
    panics, and the nil error passed on when the final-ack read fails. -/
def FileExit (loggingEnabled : Bool) (env : FileSendEnv) (exit : Exit) : Prop :=
  exit.Reports ∨ (exit = .panic ∧ FilePanics loggingEnabled env) ∨
    (exit = .sendErr none ∧ ∃ re, env.readRecord = .error re)

/-- How an end of `sendFileDirectory`'s goroutine stands: in the contract, or one of three
    departures from it (a panic, at the log line or at `recordSlice[:n]`; the result that
    is neither OK nor an error, with a happy mood, of a failed final-ack read; a happy mood
    on an error that only shares the text of `errOfferRejected`). -/
def FileEndCases (errOfferRejected : GoErr) (loggingEnabled : Bool) (env : FileSendEnv)
    (e : GoroutineEnd) : Prop :=
  ReportsResult errOfferRejected e ∨
  (FilePanics loggingEnabled env ∧ e.panicked) ∨
  ((∃ re, env.readRecord = .error re) ∧ e.ch = [.send ⟨false, none⟩, .close] ∧
    e.mood = .happy) ∨
  (∃ g, g ≠ errOfferRejected ∧ g.text = errOfferRejected.text ∧
    e.ch = [.send ⟨false, some g⟩, .close] ∧ e.mood = .happy)

theorem exitEnd_sendFileMood {errDecryptFailed errOfferRejected : GoErr} {loggingEnabled : Bool}
    {env : FileSendEnv} (progressCalls : List (Int × Int)) {body : Except Exit Unit}
    (hbody : ExitSpec (FileExit loggingEnabled env) (fun _ => True) body) :
    FileEndCases errOfferRejected loggingEnabled env
      (exitEnd (sendFileMood errDecryptFailed errOfferRejected) progressCalls body) := by
  match body, hbody with
  | .ok (), _ => exact .inl ⟨rfl, _, rfl, .inl rfl, fun _ => .inl rfl⟩
  | .error .panic, .inr (.inl ⟨_, hp⟩) => exact .inr (.inl ⟨hp, rfl⟩)
  | .error (.sendErr none), .inr (.inr ⟨_, hre⟩) => exact .inr (.inr (.inl ⟨hre, rfl, rfl⟩))
  | .error (.sendErr (some g)), _ =>
    by_cases hg : g ≠ errOfferRejected ∧ g.text = errOfferRejected.text
    · by_cases hm : sendFileMood errDecryptFailed errOfferRejected (some g) = .happy
      · exact .inr (.inr (.inr ⟨g, hg.1, hg.2, rfl, hm⟩))
      · exact .inl ⟨rfl, _, rfl, .inr (Option.some_ne_none g), fun h => absurd h hm⟩
    · refine .inl ⟨rfl, _, rfl, .inr (Option.some_ne_none g), fun h => .inr ?_⟩
      have ht : g.text = errOfferRejected.text := by
        by_contra ht
        simp only [exitEnd, sendFileMood, ht, if_false] at h
        split_ifs at h
      exact congrArg some (Classical.byContradiction fun hne => hg ⟨hne, ht⟩)
  | .error .panic, .inl h => exact h.elim
  | .error (.sendErr none), .inl h => exact (h rfl).elim
  | .error (.sendErr none), .inr (.inl ⟨h, _⟩) => cases h
  | .error .panic, .inr (.inr ⟨h, _⟩) => cases h

/-- A final ack that cannot be read is reported as neither success nor error, and the
    mailbox is closed happily: whenever the goroutine reaches the record loop, the loop
    stops on `io.EOF` and `readRecord` fails, `sendErr(err)` passes the goroutine's `err`,
    nil since `acceptConnection`, so the result is `SendResult{OK: false, Error: nil}` and
    `returnErr` stays nil. -/
theorem sendFileDirectoryGoroutine_ackReadFailed (sha256 : List UInt8 → List UInt8)
    (toLower : GoString → GoString) (errDecryptFailed errOfferRejected : GoErr)
    (loggingEnabled progressFunc : Bool) (totalSize : Int) (env : FileSendEnv)
    (err : Option GoErr) (st : LoopState) (readErr : GoErr)
    (hsetup : sendFileSetup loggingEnabled env = .ok err)
    (hloop : recordLoop progressFunc totalSize LoopState.init env.reads = (.eof, st))
    (hread : env.readRecord = .error readErr) :
    sendFileDirectoryGoroutine sha256 toLower errDecryptFailed errOfferRejected loggingEnabled
        progressFunc totalSize env =
      some ⟨[.send ⟨false, none⟩, .close], st.progressCalls, .happy, false⟩ ∧
    ¬ ReportsResult errOfferRejected
      ⟨[.send ⟨false, none⟩, .close], st.progressCalls, .happy, false⟩ := by
  have herr : err = none := by
    simpa only [hsetup, ExitSpec] using sendFileSetup_spec loggingEnabled env
  subst herr
  refine ⟨by simp only [sendFileDirectoryGoroutine, hsetup, hloop, sendFileFinish, hread]; rfl,
    ?_⟩
  rintro ⟨-, r, hch, hok, -⟩
  cases hch
  simp at hok

/-- Every step up to the record loop succeeds, the reader is at its end at once, and the
    final-ack read fails with `io.EOF`. -/
theorem sendFileDirectoryGoroutine_ackReadFailed_eof :
    ∃ env : FileSendEnv, sendFileSetup false env = .ok none ∧
      recordLoop false 0 LoopState.init env.reads = (.eof, LoopState.init) ∧
      env.readRecord = .error ioEOF ∧
      (sendFileDirectoryGoroutine id id ⟨2, []⟩ ⟨3, []⟩ false false 0 env =
          some ⟨[.send ⟨false, none⟩, .close], [], .happy, false⟩ ∧
        ¬ ReportsResult ⟨3, []⟩ ⟨[.send ⟨false, none⟩, .close], [], .happy, false⟩) :=
  let env : FileSendEnv :=
    { writePake := none, readPake := none, writeVersion := none, readVersion := none,
      verifierOk := none, verifier := .ok [], writeRejection := none,
      relayURL := none, listen := none, listenRelay := none, makeTransitMsg := none,
      writeTransit := none, writeOffer := none, collect := none,
      waitFor := .ok ⟨[], goStr "ok"⟩, accept := none, connNil := false,
      reads := [⟨[], some ioEOF, none⟩], readRecord := .error ioEOF,
      unmarshalAck := fun _ => .error ioEOF }
  ⟨env, rfl, rfl, rfl, sendFileDirectoryGoroutine_ackReadFailed id id ⟨2, []⟩ ⟨3, []⟩ false false
    0 env none LoopState.init ioEOF rfl rfl rfl⟩

end Wormhole.Send
