/-
  Wormhole.Send.Model

  The result goroutines of `SendTextMsg` and `sendFileDirectory`.  Each runs
  the client protocol to the end and reports on its result channel `ch`; a
  deferred call closes the mailbox with a mood computed from `returnErr`, the
  last error `sendErr` was given.

  The collaborators (the client protocol, the transport, the reader `r`, the
  cryptor) are not in the repository: the model takes what each call returns
  as data, an environment with one field per call, so that every combination
  of outcomes is one environment.  A body is written in `Except Exit`: a
  `throw` is a way out of the goroutine (`sendErr(err); return`, or a panic),
  and normal completion is the success send.

  The file goroutine is cut where the source is: `sendFileSetup` up to
  `acceptConnection`, the record loop `recordLoop`, and `sendFileFinish` from
  the final ack on.  The setup returns the goroutine's `err` variable, which is
  what the final-ack check passes to `sendErr`.

  `SendFile` contributes the offer's `FileSize`, which `readSeekerSize` measures
  by seeking the reader to its end and back (`sendFileSize`).

  Left out: `sha256` and `strings.ToLower` are parameters (standard library);
  `errDecryptFailed` and `errOfferRejected` are package variables not in the
  repository, also parameters; the log function and the goroutine that closes
  the connection when the context ends act only through the collaborators'
  results.
-/
import Wormhole.Go

namespace Wormhole.Send

-- ============================================================================
-- Values
-- ============================================================================

/-- `rendezvous.Mood`: how the mailbox is closed. -/
inductive Mood
  | happy
  | errory
  | scary
  deriving DecidableEq, Repr

/-- `SendResult`, with the two fields the goroutines set. -/
structure SendResult where
  OK : Bool
  Error : Option GoErr
  deriving DecidableEq, Repr

/-- An operation of a goroutine on its result channel `ch`. -/
inductive ChanOp
  | send (r : SendResult)
  | close
  deriving DecidableEq, Repr

/-- `answerMsg`, the two fields the goroutines read. -/
structure AnswerMsg where
  MessageAck : GoString
  FileAck : GoString

/-- `fileTransportAck`. -/
structure FileTransportAck where
  Ack : GoString
  SHA256 : GoString

/-- A way out of a goroutine's body other than the success send: `sendErr(err)` followed
    by `return`, or a run-time panic. -/
inductive Exit
  | sendErr (err : Option GoErr)
  | panic
  deriving DecidableEq, Repr

/-- What a goroutine has done when it ends: its operations on `ch` in order, its calls of
    `progressFunc`, the mood of the deferred `rc.Close` (deferred calls run on every way
    out, a panic included) and whether it panicked. -/
structure GoroutineEnd where
  ch : List ChanOp
  progressCalls : List (Int × Int)
  mood : Mood
  panicked : Bool
  deriving DecidableEq, Repr

/-- The end of a goroutine from how its body left.  `sendErr(err)` sends
    `SendResult{Error: err}`, closes `ch` and sets `returnErr = err`; the success path sends
    `SendResult{OK: true}` and closes `ch`; a panic leaves `ch` alone.  `mood` is the
    goroutine's deferred mood function of `returnErr`. -/
def exitEnd (mood : Option GoErr → Mood) (progressCalls : List (Int × Int)) :
    Except Exit Unit → GoroutineEnd
  | .error (.sendErr err) => ⟨[.send ⟨false, err⟩, .close], progressCalls, mood err, false⟩
  | .error .panic => ⟨[], progressCalls, mood none, true⟩
  | .ok () => ⟨[.send ⟨true, none⟩, .close], progressCalls, mood none, false⟩

-- ============================================================================
-- The steps both goroutines share
-- ============================================================================

/-- `if err != nil { sendErr(err); return }`. -/
def checkErr (err : Option GoErr) : Except Exit Unit :=
  match err with
  | some _ => throw (.sendErr err)
  | none => pure ()

/-- `if cond { ...; return }`, leaving through `exit`. -/
def exitIf (cond : Prop) [Decidable cond] (exit : Exit) : Except Exit Unit :=
  if cond then throw exit else pure ()

/-- `v, err := call(); if err != nil { sendErr(err); return }`. -/
def checkResult {α : Type} : Except GoErr α → Except Exit α
  | .error err => throw (.sendErr (some err))
  | .ok v => pure v

/-- What the calls both goroutines begin with return: the PAKE and version exchange of
    `clientProto`, and the verifier check. -/
structure HandshakeEnv where
  writePake : Option GoErr
  readPake : Option GoErr
  writeVersion : Option GoErr
  readVersion : Option GoErr
  /-- `c.VerifierOk`; `none` is a nil callback. -/
  verifierOk : Option (GoString → Bool)
  verifier : Except GoErr (List UInt8)
  /-- What `WriteAppData` of the rejection message returns. -/
  writeRejection : Option GoErr

/-- `errMsg` of the verifier check. -/
def rejectedText : GoString := goStr "sender rejected verification check, abandoned transfer"

/-- The steps both goroutines start with, to the end of the `c.VerifierOk` block. -/
def handshake (h : HandshakeEnv) : Except Exit Unit := do
  checkErr h.writePake
  checkErr h.readPake
  checkErr h.writeVersion
  checkErr h.readVersion
  match h.verifierOk with
  | none => pure ()
  | some verifierOk =>
    let verifier ← checkResult h.verifier
    if verifierOk (hexEncodeToString verifier) then pure ()
    else
      checkErr h.writeRejection
      throw (.sendErr (some (errorsNew rejectedText)))

-- ============================================================================
-- SendTextMsg
-- ============================================================================

/-- What the collaborators of `SendTextMsg`'s goroutine return. -/
structure SendTextEnv extends HandshakeEnv where
  writeOffer : Option GoErr
  collect : Option GoErr
  waitFor : Except GoErr AnswerMsg

/-- The body of `SendTextMsg`'s goroutine; `.ok ()` is the success send. -/
def sendTextMsgBody (env : SendTextEnv) : Except Exit Unit := do
  handshake env.toHandshakeEnv
  checkErr env.writeOffer
  checkErr env.collect
  let answer ← checkResult env.waitFor
  if answer.MessageAck = goStr "ok" then pure ()
  else throw (.sendErr (some (errorsNew (goStr "unexpected answer"))))

/-- The deferred mood of `SendTextMsg`'s goroutine. -/
def sendTextMood (errDecryptFailed : GoErr) (returnErr : Option GoErr) : Mood :=
  match returnErr with
  | none => .happy
  | some err => if err = errDecryptFailed then .scary else .errory

/-- `SendTextMsg`'s goroutine: on success it calls `progressFunc(msgSize, msgSize)` when a
    progress function was given. -/
def sendTextMsgGoroutine (errDecryptFailed : GoErr) (progressFunc : Bool) (msg : GoString)
    (env : SendTextEnv) : GoroutineEnd :=
  let msgSize : Int := msg.length
  let body := sendTextMsgBody env
  let progressCalls := match body with
    | .ok () => if progressFunc then [(msgSize, msgSize)] else []
    | .error _ => []
  exitEnd (sendTextMood errDecryptFailed) progressCalls body

-- ============================================================================
-- sendFileDirectory: setup
-- ============================================================================

/-- One call of `r.Read(recordSlice)`: the `n` bytes it reports in `recordSlice[:n]` and
    its error, with what `cryptor.writeRecord` returns when it is called on them.  A chunk
    longer than `recordSliceLen` is a `Read` that reports more than the slice holds. -/
structure ReadResult where
  chunk : List UInt8
  err : Option GoErr
  writeErr : Option GoErr

/-- What the collaborators of `sendFileDirectory`'s goroutine return. -/
structure FileSendEnv extends HandshakeEnv where
  relayURL : Option GoErr
  listen : Option GoErr
  listenRelay : Option GoErr
  makeTransitMsg : Option GoErr
  writeTransit : Option GoErr
  writeOffer : Option GoErr
  collect : Option GoErr
  waitFor : Except GoErr AnswerMsg
  /-- `acceptConnection`'s error, and whether the connection it returned is nil. -/
  accept : Option GoErr
  connNil : Bool
  /-- The successive calls of `r.Read` in the record loop. -/
  reads : List ReadResult
  /-- What `cryptor.readRecord` returns to the goroutine waiting for the final ack. -/
  readRecord : Except GoErr (List UInt8)
  /-- `json.Unmarshal` of a record into a `fileTransportAck`. -/
  unmarshalAck : List UInt8 → Except GoErr FileTransportAck

/-- The goroutine of `sendFileDirectory` up to the record loop; `.ok err` is reaching the
    loop with `err` the value of the goroutine's `err`, last set by `acceptConnection`.
    The log line reads `conn.LocalAddr()` before `err` is checked, which panics on a nil
    `conn`. -/
def sendFileSetup (loggingEnabled : Bool) (env : FileSendEnv) : Except Exit (Option GoErr) := do
  handshake env.toHandshakeEnv
  exitIf env.relayURL.isSome (.sendErr (some (errorsNew (goStr "Invalid relay URL"))))
  checkErr env.listen
  checkErr env.listenRelay
  checkErr (env.makeTransitMsg.map fun err =>
    errorsNew (goStr "make transit msg error: " ++ err.text))
  checkErr env.writeTransit
  checkErr env.writeOffer
  checkErr env.collect
  let answer ← checkResult env.waitFor
  exitIf (answer.FileAck ≠ goStr "ok") (.sendErr (some (errorsNew (goStr "unexpected answer"))))
  let err := env.accept
  exitIf (loggingEnabled ∧ env.connNil) .panic
  checkErr err
  pure err

-- ============================================================================
-- sendFileDirectory: the record loop
-- ============================================================================

/-- `recordSize`, the size of a transit record. -/
def recordSize : Nat := 1 <<< 14

/-- `secretbox.Overhead` (golang.org/x/crypto/nacl/secretbox): the 16-byte Poly1305 tag
    each sealed record adds. -/
def secretboxOverhead : Nat := 16

/-- The length of `recordSlice`, `recordSize - secretbox.Overhead`.  A `Read` that keeps
    the `io.Reader` contract returns at most this many bytes; `recordSlice[:n]` panics for
    a larger `n`. -/
def recordSliceLen : Nat := recordSize - secretboxOverhead

/-- What the record loop has done: the bytes written to `hasher`, the records passed to
    `writeRecord` in order, the counter `progress` and the calls of `progressFunc`.  The
    counter is kept as a count of bytes; Go's `int64` counter is the same number while the
    transfer is under `2^63` bytes (`int64Wrap_of_lt`), and wraps after. -/
structure LoopState where
  hashed : List UInt8
  records : List (List UInt8)
  progress : Int
  progressCalls : List (Int × Int)
  deriving DecidableEq, Repr

/-- The state before the first `Read`. -/
def LoopState.init : LoopState := ⟨[], [], 0, []⟩

/-- How the record loop stops: `break` on `io.EOF`, `sendErr(err); return`, the panic of
    `recordSlice[:n]` on a `Read` that reports more bytes than the slice holds, or still
    running when the reader's results run out. -/
inductive LoopExit
  | eof
  | sendErr (err : Option GoErr)
  | panic
  | reading
  deriving DecidableEq, Repr

/-- The `for` loop over `r.Read`.  A call that returned data hashes and writes it, and its
    own error is overwritten by `writeRecord`'s; only a call with no data is checked for
    `io.EOF` or another error.  The `select` on `done` breaks only the `select`. -/
def recordLoop (progressFunc : Bool) (totalSize : Int) :
    LoopState → List ReadResult → LoopExit × LoopState
  | st, [] => (.reading, st)
  | st, r :: reads =>
    if 0 < r.chunk.length then
      if recordSliceLen < r.chunk.length then (.panic, st)
      else
        let st := { st with hashed := st.hashed ++ r.chunk, records := st.records ++ [r.chunk] }
        match r.writeErr with
        | some _ => (.sendErr r.writeErr, st)
        | none =>
          let progress := st.progress + r.chunk.length
          recordLoop progressFunc totalSize
            { st with
              progress := progress
              progressCalls :=
                if progressFunc then st.progressCalls ++ [(progress, totalSize)]
                else st.progressCalls }
            reads
    else if r.err = some ioEOF then (.eof, st)
    else
      match r.err with
      | some _ => (.sendErr r.err, st)
      | none => recordLoop progressFunc totalSize st reads

/-- What one `Read` does to the loop: it goes on, from a `Read` with data or with no
    error; it panics on a chunk longer than `recordSlice`; it returns through `sendErr`
    with an error; or it breaks on no data with `io.EOF`. -/
theorem recordLoop_cons (progressFunc : Bool) (totalSize : Int) (st : LoopState)
    (r : ReadResult) (reads : List ReadResult) :
    (∃ st', recordLoop progressFunc totalSize st (r :: reads) =
        recordLoop progressFunc totalSize st' reads ∧ (r.chunk ≠ [] ∨ r.err = none)) ∨
    (recordLoop progressFunc totalSize st (r :: reads) = (.panic, st) ∧
        recordSliceLen < r.chunk.length) ∨
    (∃ st' e, recordLoop progressFunc totalSize st (r :: reads) = (.sendErr (some e), st')) ∨
    (recordLoop progressFunc totalSize st (r :: reads) = (.eof, st) ∧
        r.chunk = [] ∧ r.err = some ioEOF) := by
  generalize hx : recordLoop progressFunc totalSize st (r :: reads) = x
  rw [recordLoop.eq_2] at hx
  split at hx
  · next hpos =>
    split at hx
    · next hlen => exact .inr (.inl ⟨hx.symm, hlen⟩)
    · split at hx
      · next e he => exact .inr (.inr (.inl ⟨_, e, by rw [← hx, he]⟩))
      · exact .inl ⟨_, hx.symm, .inl (List.ne_nil_of_length_pos hpos)⟩
  · next hlen =>
    have hnil : r.chunk = [] := List.eq_nil_of_length_eq_zero (by omega)
    split at hx
    · next heof => exact .inr (.inr (.inr ⟨hx.symm, hnil, heof⟩))
    · split at hx
      · next e he => exact .inr (.inr (.inl ⟨_, e, by rw [← hx, he]⟩))
      · next hnone => exact .inl ⟨_, hx.symm, .inr hnone⟩

-- ============================================================================
-- sendFileDirectory: the final ack and the whole goroutine
-- ============================================================================

/-- From `recOrErr := <-recordChan` on, with `err` the goroutine's `err` and `hashed` what
    the loop wrote to `hasher`.  A failed `readRecord` is reported with `sendErr(err)`: the
    goroutine's `err`, not `recOrErr.err`. -/
def sendFileFinish (sha256 : List UInt8 → List UInt8) (toLower : GoString → GoString)
    (env : FileSendEnv) (err : Option GoErr) (hashed : List UInt8) : Except Exit Unit :=
  match env.readRecord with
  | .error _ => throw (.sendErr err)
  | .ok respRec => do
    let ack ← checkResult (env.unmarshalAck respRec)
    exitIf (ack.Ack ≠ goStr "ok")
      (.sendErr (some (errorsNew (goStr "got non ok final ack from receiver"))))
    let shaSum := hexEncodeToString (sha256 hashed)
    exitIf (toLower ack.SHA256 ≠ shaSum) (.sendErr (some (errorsNew
      (goStr "receiver sha256 mismatch " ++ ack.SHA256 ++ goStr " vs " ++ shaSum))))

/-- The deferred mood of `sendFileDirectory`'s goroutine: an error with the text of
    `errOfferRejected` also closes the mailbox happily. -/
def sendFileMood (errDecryptFailed errOfferRejected : GoErr) (returnErr : Option GoErr) : Mood :=
  match returnErr with
  | none => .happy
  | some err =>
    if err.text = errOfferRejected.text then .happy
    else if err = errDecryptFailed then .scary else .errory

/-- `sendFileDirectory`'s goroutine; `none` while it is still in the record loop when the
    reader's results run out.  `totalSize` is the offer's file or zip size. -/
def sendFileDirectoryGoroutine (sha256 : List UInt8 → List UInt8) (toLower : GoString → GoString)
    (errDecryptFailed errOfferRejected : GoErr) (loggingEnabled progressFunc : Bool)
    (totalSize : Int) (env : FileSendEnv) : Option GoroutineEnd :=
  let mood := sendFileMood errDecryptFailed errOfferRejected
  match sendFileSetup loggingEnabled env with
  | .error exit => some (exitEnd mood [] (.error exit))
  | .ok err =>
    match recordLoop progressFunc totalSize LoopState.init env.reads with
    | (.reading, _) => none
    | (.sendErr e, st) => some (exitEnd mood st.progressCalls (.error (.sendErr e)))
    | (.panic, st) => some (exitEnd mood st.progressCalls (.error .panic))
    | (.eof, st) =>
      some (exitEnd mood st.progressCalls (sendFileFinish sha256 toLower env err st.hashed))

-- ============================================================================
-- SendFile
-- ============================================================================

/-- `readSeekerSize`: the offset `r.Seek(0, io.SeekEnd)` returns, once `r.Seek(0,
    io.SeekStart)` has put the reader back at its start; `-1` and the error when either
    seek fails. -/
def readSeekerSize (seekEnd seekStart : Except GoErr Int) : Int × Option GoErr :=
  match seekEnd with
  | .error err => (-1, some err)
  | .ok size =>
    match seekStart with
    | .error err => (-1, some err)
    | .ok _ => (size, none)

/-- The `FileSize` that `SendFile` offers and `sendFileDirectory` takes as `totalSize`; an
    error when `readSeekerSize` fails, which `SendFile` returns. -/
def sendFileSize (seekEnd seekStart : Except GoErr Int) : Except GoErr Int :=
  match readSeekerSize seekEnd seekStart with
  | (_, some err) => .error err
  | (size, none) => .ok size

end Wormhole.Send
