/-
  Wormhole.Send.RecordLoop

  What the record loop of `sendFileDirectory` streams.  With every
  `writeRecord` succeeding and no `Read` reporting more bytes than
  `recordSlice` holds, the loop leaves for the final-ack check exactly
  when a `Read` returns no data with `io.EOF` and every earlier `Read` either
  returned data or returned no data and no error (`recordLoop_eof_iff`).  On
  that exit the records written are the nonempty chunks read, in order, their
  concatenation is what was hashed, and `progressFunc` saw the running total
  after each record.

  A `Read` that returns data with an error is not checked: `err` is
  overwritten by `writeRecord`'s result and the loop goes on, so a read error
  other than `io.EOF` that comes with data never stops the transfer: once the
  receiver acks the digest of what was read, the goroutine reports success
  (`sendFileDirectoryGoroutine_completes`).
-/
import Wormhole.Send.Model

namespace Wormhole.Send

/-- The running byte totals after each of `records`, counting on from `base`. -/
def runningTotals (base : Int) : List (List UInt8) → List Int
  | [] => []
  | c :: cs => (base + c.length) :: runningTotals (base + c.length) cs

/-- The last running total is the base plus every byte of the records. -/
theorem runningTotals_getLast? (base : Int) (cs : List (List UInt8)) (h : cs ≠ []) :
    (runningTotals base cs).getLast? = some (base + cs.flatten.length) := by
  induction cs generalizing base with
  | nil => exact absurd rfl h
  | cons c cs ih =>
    cases cs with
    | nil => simp [runningTotals]
    | cons c' cs =>
      rw [runningTotals, List.getLast?_cons, ih _ (List.cons_ne_nil c' cs)]
      simp [Int.add_assoc]

/-- A `Read` the loop passes over and goes on from, when `writeRecord` succeeds: one that
    returned data (whatever its error), or no data and no error. -/
def ReadResult.Continues (r : ReadResult) : Prop :=
  r.chunk ≠ [] ∨ r.err = none

section

variable (progressFunc : Bool) (totalSize : Int)

/-- The loop state after writing the nonempty `chunks` from `st`. -/
def LoopState.written (st : LoopState) (chunks : List (List UInt8)) : LoopState where
  hashed := st.hashed ++ chunks.flatten
  records := st.records ++ chunks
  progress := st.progress + chunks.flatten.length
  progressCalls := st.progressCalls ++
    if progressFunc then (runningTotals st.progress chunks).map (·, totalSize) else []

theorem LoopState.written_nil (st : LoopState) : st.written progressFunc totalSize [] = st := by
  cases progressFunc <;> simp [LoopState.written, runningTotals]

/-- Writing one chunk is the loop body on a `Read` that returned it. -/
theorem LoopState.written_cons (st : LoopState) (c : List UInt8) (cs : List (List UInt8)) :
    st.written progressFunc totalSize (c :: cs) =
      ({ st with
          hashed := st.hashed ++ c
          records := st.records ++ [c]
          progress := st.progress + c.length
          progressCalls := if progressFunc then
              st.progressCalls ++ [(st.progress + c.length, totalSize)]
            else st.progressCalls } : LoopState).written progressFunc totalSize cs := by
  cases progressFunc <;>
    simp [LoopState.written, runningTotals, List.length_append, Int.add_assoc]

/-- A run that ends on `io.EOF`: when every `Read` before the first `(0, io.EOF)` returned
    data that fits `recordSlice` and that `writeRecord` took, or no data and no error, the
    loop leaves for the final ack with the nonempty chunks written. -/
theorem recordLoop_eof (st : LoopState) (pre : List ReadResult) (w : Option GoErr)
    (post : List ReadResult)
    (hpre : ∀ r ∈ pre, (r.chunk ≠ [] ∧ r.chunk.length ≤ recordSliceLen ∧ r.writeErr = none) ∨
      (r.chunk = [] ∧ r.err = none)) :
    recordLoop progressFunc totalSize st (pre ++ ⟨[], some ioEOF, w⟩ :: post) =
      (.eof, st.written progressFunc totalSize
        ((pre.map ReadResult.chunk).filter fun c => c ≠ [])) := by
  induction pre generalizing st with
  | nil => simp [recordLoop, LoopState.written_nil]
  | cons r pre ih =>
    have hrest := fun st => ih st fun r' h => hpre r' (List.mem_cons_of_mem r h)
    rw [List.cons_append, recordLoop.eq_2, List.map_cons]
    rcases hpre r (List.mem_cons_self r pre) with ⟨hc, hs, hw⟩ | ⟨hc, he⟩
    · -- a chunk with data: hashed, written, counted, and the loop goes on
      rw [if_pos (List.length_pos.mpr hc), if_neg (Nat.not_lt.mpr hs), hw,
        List.filter_cons_of_pos (by simpa using hc), LoopState.written_cons]
      exact hrest _
    · -- no data and no error: the loop goes on with nothing done
      rw [if_neg (by simp [hc]), if_neg (by simp [he]), he,
        List.filter_cons_of_neg (by simp [hc])]
      exact hrest st

/-- The loop leaves for the final ack only at a `(0, io.EOF)` `Read` that every earlier
    `Read` let it go on to. -/
theorem recordLoop_eof_split (st : LoopState) (reads : List ReadResult)
    (h : (recordLoop progressFunc totalSize st reads).1 = .eof) :
    ∃ pre w post, reads = pre ++ ⟨[], some ioEOF, w⟩ :: post ∧ ∀ r ∈ pre, r.Continues := by
  induction reads generalizing st with
  | nil => cases h
  | cons r rest ih =>
    rcases recordLoop_cons progressFunc totalSize st r rest with
      ⟨st', heq, hgo⟩ | ⟨heq, -⟩ | ⟨st', e, heq⟩ | ⟨-, hc, he⟩
    · obtain ⟨pre, w, post, rfl, hpre⟩ := ih st' (heq ▸ h)
      exact ⟨r :: pre, w, post, rfl, List.forall_mem_cons.mpr ⟨hgo, hpre⟩⟩
    · rw [heq] at h; cases h
    · rw [heq] at h; cases h
    · -- the `(0, io.EOF)` itself
      obtain ⟨chunk, err, writeErr⟩ := r
      obtain ⟨rfl, rfl⟩ : chunk = [] ∧ err = some ioEOF := ⟨hc, he⟩
      exact ⟨[], writeErr, rest, rfl, fun _ h => absurd h (List.not_mem_nil _)⟩

end

/-- A `Read` the loop goes on from, with its chunk fitting `recordSlice` and `writeRecord`
    succeeding, is one `recordLoop_eof` passes over. -/
theorem ReadResult.Continues.passes {r : ReadResult} (h : r.Continues)
    (hs : r.chunk.length ≤ recordSliceLen) (hw : r.writeErr = none) :
    (r.chunk ≠ [] ∧ r.chunk.length ≤ recordSliceLen ∧ r.writeErr = none) ∨
      (r.chunk = [] ∧ r.err = none) := by
  by_cases hc : r.chunk = []
  · exact .inr ⟨hc, h.resolve_left (not_not.mpr hc)⟩
  · exact .inl ⟨hc, hs, hw⟩

/-- The file send loop over every reader history in which `writeRecord` succeeds and no
    `Read` returns more than `recordSlice` holds.  It goes on to the final-ack check exactly
    when some `Read` returns `(0, io.EOF)` and every earlier `Read` returned data or no error:
    a `Read` that returned data with an error, one other than `io.EOF` included, does not
    stop it.  On that exit the records written are the nonempty chunks read, in order, each
    at most `recordSliceLen` bytes; what was hashed, the input of the digest compared with
    `ack.SHA256`, is their concatenation; `progressFunc` saw the running total after each
    record; and the total is the number of bytes read, which is the `FileSize` that
    `SendFile` offers when the reader's seeks measure the content it delivers. -/
theorem recordLoop_eof_iff (progressFunc : Bool) (totalSize : Int) (reads : List ReadResult)
    (hwrite : ∀ r ∈ reads, r.writeErr = none)
    (hsize : ∀ r ∈ reads, r.chunk.length ≤ recordSliceLen) :
    ((recordLoop progressFunc totalSize LoopState.init reads).1 = .eof ↔
      ∃ pre w post, reads = pre ++ ⟨[], some ioEOF, w⟩ :: post ∧ ∀ r ∈ pre, r.Continues) ∧
    ∀ pre w post, reads = pre ++ ⟨[], some ioEOF, w⟩ :: post → (∀ r ∈ pre, r.Continues) →
      let st := (recordLoop progressFunc totalSize LoopState.init reads).2
      st.records = (pre.map ReadResult.chunk).filter (fun c => c ≠ []) ∧
      (∀ c ∈ st.records, c.length ≤ recordSliceLen) ∧
      st.hashed = st.records.flatten ∧
      st.progressCalls =
        (if progressFunc then (runningTotals 0 st.records).map (·, totalSize) else []) ∧
      st.progress = st.hashed.length ∧
      (st.records ≠ [] → (runningTotals 0 st.records).getLast? = some st.progress) ∧
      ∀ content : List UInt8, (pre.map ReadResult.chunk).flatten = content →
        sendFileSize (.ok content.length) (.ok 0) = .ok st.progress := by
  -- the run up to the first `(0, io.EOF)`, from `recordLoop_eof`
  have hrun : ∀ pre w post, reads = pre ++ ⟨[], some ioEOF, w⟩ :: post →
      (∀ r ∈ pre, r.Continues) →
      recordLoop progressFunc totalSize LoopState.init reads =
        (.eof, LoopState.init.written progressFunc totalSize
          ((pre.map ReadResult.chunk).filter fun c => c ≠ [])) := by
    rintro pre w post rfl hpre
    exact recordLoop_eof progressFunc totalSize _ pre w post fun r hr =>
      (hpre r hr).passes (hsize r (List.mem_append_left _ hr)) (hwrite r (List.mem_append_left _ hr))
  refine ⟨⟨recordLoop_eof_split progressFunc totalSize _ reads, ?_⟩, ?_⟩
  · rintro ⟨pre, w, post, hreads, hpre⟩
    rw [hrun pre w post hreads hpre]
  · intro pre w post hreads hpre
    rw [hrun pre w post hreads hpre]
    -- the state `recordLoop_eof` gives meets all but two facts by definition
    refine ⟨rfl, fun c hc => ?_, rfl, rfl, Int.zero_add _, runningTotals_getLast? 0 _,
      fun content hcontent => ?_⟩
    · -- every record is a chunk some `Read` returned
      obtain ⟨r, hr, rfl⟩ := List.mem_map.mp (List.mem_filter.mp hc).1
      exact hsize r (hreads ▸ List.mem_append_left _ hr)
    · -- empty chunks add nothing to the bytes read
      subst hcontent
      simp only [sendFileSize, readSeekerSize, LoopState.written, LoopState.init,
        List.flatten_filter_ne_nil, Int.zero_add]

/-- The first `Read` returns three bytes with `io.ErrUnexpectedEOF`, the next `(0, io.EOF)`:
    the loop still goes on to the final ack. -/
theorem recordLoop_eof_iff_unexpectedEOF :
    let reads : List ReadResult :=
      [⟨[1, 2, 3], some ⟨2, goStr "unexpected EOF"⟩, none⟩, ⟨[], some ioEOF, none⟩]
    (∀ r ∈ reads, r.writeErr = none) ∧ (∀ r ∈ reads, r.chunk.length ≤ recordSliceLen) ∧
      (recordLoop false 0 LoopState.init reads).1 = .eof := by
  intro reads
  have hw : ∀ r ∈ reads, r.writeErr = none := by decide
  have hs : ∀ r ∈ reads, r.chunk.length ≤ recordSliceLen := by decide
  exact ⟨hw, hs, (recordLoop_eof_iff false 0 reads hw hs).1.mpr
    ⟨[⟨[1, 2, 3], some ⟨2, goStr "unexpected EOF"⟩, none⟩], none, [], rfl,
      List.forall_mem_singleton.mpr (.inl (List.cons_ne_nil _ _))⟩⟩

-- ============================================================================
-- The whole goroutine
-- ============================================================================

/-- Every running total lies between the base and the base plus all the bytes. -/
theorem runningTotals_bounds (base : Int) (cs : List (List UInt8)) :
    ∀ t ∈ runningTotals base cs, base ≤ t ∧ t ≤ base + cs.flatten.length := by
  induction cs generalizing base with
  | nil => simp [runningTotals]
  | cons c cs ih =>
    intro t ht
    rcases List.mem_cons.mp ht with rfl | ht
    · simp only [List.flatten_cons, List.length_append, Nat.cast_add]
      omega
    · have := ih _ t ht
      simp only [List.flatten_cons, List.length_append, Nat.cast_add] at this ⊢
      omega

/-- The goroutine completes after a failed `Read`.  Once it reaches the record loop, let
    every `Read` before the first `(0, io.EOF)` have returned data that fits `recordSlice`
    and that `writeRecord` took, with any error, or no data and no error, and let the
    receiver ack the digest of the chunks read.  Then the goroutine sends
    `SendResult{OK: true}`, closes `ch` and the mailbox happily, and `progressFunc` has seen
    the running totals.  Below `2^63` bytes each total is what Go's `int64` counter holds. -/
theorem sendFileDirectoryGoroutine_completes (sha256 : List UInt8 → List UInt8)
    (toLower : GoString → GoString) (errDecryptFailed errOfferRejected : GoErr)
    (loggingEnabled progressFunc : Bool) (totalSize : Int) (env : FileSendEnv)
    (err : Option GoErr) (pre : List ReadResult) (w : Option GoErr) (post : List ReadResult)
    (respRec : List UInt8) (ack : FileTransportAck)
    (hsetup : sendFileSetup loggingEnabled env = .ok err)
    (hreads : env.reads = pre ++ ⟨[], some ioEOF, w⟩ :: post)
    (hpre : ∀ r ∈ pre, (r.chunk ≠ [] ∧ r.chunk.length ≤ recordSliceLen ∧ r.writeErr = none) ∨
      (r.chunk = [] ∧ r.err = none))
    (hbytes : ((pre.map ReadResult.chunk).flatten.length : Int) < 2 ^ 63)
    (hrec : env.readRecord = .ok respRec) (hack : env.unmarshalAck respRec = .ok ack)
    (hok : ack.Ack = goStr "ok")
    (hsha : toLower ack.SHA256 = hexEncodeToString (sha256 (pre.map ReadResult.chunk).flatten)) :
    let calls := if progressFunc then
      (runningTotals 0 ((pre.map ReadResult.chunk).filter fun c => c ≠ [])).map (·, totalSize)
      else []
    sendFileDirectoryGoroutine sha256 toLower errDecryptFailed errOfferRejected loggingEnabled
        progressFunc totalSize env = some ⟨[.send ⟨true, none⟩, .close], calls, .happy, false⟩ ∧
    ∀ c ∈ calls, int64Wrap c.1 = c.1 := by
  intro calls
  -- the final ack passes both checks on the bytes read
  have hfin : sendFileFinish sha256 toLower env err (pre.map ReadResult.chunk).flatten = .ok () := by
    simp [sendFileFinish, hrec, hack, hok, hsha, checkResult, exitIf]
    rfl
  refine ⟨?_, fun c hc => ?_⟩
  · simp only [sendFileDirectoryGoroutine, hsetup, hreads,
      recordLoop_eof progressFunc totalSize _ pre w post hpre, LoopState.written, LoopState.init,
      List.nil_append, List.flatten_filter_ne_nil, hfin]
    rfl
  · -- every total is at most the bytes read
    cases progressFunc
    · simp [calls] at hc
    obtain ⟨t, ht, rfl⟩ := List.mem_map.mp (by simpa only [calls, if_true] using hc)
    have hb := runningTotals_bounds 0 _ t ht
    rw [List.flatten_filter_ne_nil] at hb
    exact int64Wrap_of_lt (by omega) (by omega)

/-- The first `Read` returns three bytes with `io.ErrUnexpectedEOF`: the goroutine still
    reports success once the receiver acks those three bytes. -/
theorem sendFileDirectoryGoroutine_completes_unexpectedEOF :
    ∃ env : FileSendEnv, ⟨[1, 2, 3], some ⟨2, goStr "unexpected EOF"⟩, none⟩ ∈ env.reads ∧
      sendFileDirectoryGoroutine id id ⟨2, []⟩ ⟨3, []⟩ false true 3 env =
        some ⟨[.send ⟨true, none⟩, .close], [(3, 3)], .happy, false⟩ :=
  let env : FileSendEnv :=
    { writePake := none, readPake := none, writeVersion := none, readVersion := none,
      verifierOk := none, verifier := .ok [], writeRejection := none,
      relayURL := none, listen := none, listenRelay := none, makeTransitMsg := none,
      writeTransit := none, writeOffer := none, collect := none,
      waitFor := .ok ⟨[], goStr "ok"⟩, accept := none, connNil := false,
      reads := [⟨[1, 2, 3], some ⟨2, goStr "unexpected EOF"⟩, none⟩, ⟨[], some ioEOF, none⟩],
      readRecord := .ok [],
      unmarshalAck := fun _ => .ok ⟨goStr "ok", hexEncodeToString [1, 2, 3]⟩ }
  ⟨env, List.mem_cons_self _ _, (sendFileDirectoryGoroutine_completes id id ⟨2, []⟩ ⟨3, []⟩ false
    true 3 env none [⟨[1, 2, 3], some ⟨2, goStr "unexpected EOF"⟩, none⟩] none [] [] _ rfl rfl
    (by decide) (by decide) rfl rfl rfl rfl).1⟩

end Wormhole.Send
