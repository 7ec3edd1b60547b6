/-
  Wormhole.Send.Api

  The entry points that start the result goroutines: `SendText` through
  `CreateOrAttachMailbox` and `SendTextMsg`, and `SendFile` and
  `SendDirectory` through `sendFileDirectory`, whose first half repeats
  `CreateOrAttachMailbox` inline (`sendFileDirectoryCode_eq`).

  A call either returns an error, with no goroutine started, or a code and a
  channel.  `SendFile` returns the goroutine's own channel.  `SendDirectory`
  interposes a goroutine that takes the first value from it, closes the
  temporary zip file and forwards the value on a channel of its own, which
  nothing ever closes.

  Left out: `crypto.RandSideID`, `c.AppID` and the rendezvous URL only name the
  mailbox; `rendezvous.NewClient` builds a client without I/O.  The options and
  the mailbox calls are environments as the goroutines' collaborators are.
-/
import Wormhole.Send.Report
import Wormhole.Send.Directory

namespace Wormhole.Send

-- ============================================================================
-- Options, offers and the mailbox
-- ============================================================================

/-- `transferOptions`, the two fields the send paths read: the code the caller chose (empty
    when none) and whether a progress function was given. -/
structure TransferOptions where
  code : GoString := []
  progressFunc : Bool := false
  deriving DecidableEq, Repr

/-- A `TransferOption`: what its `setOption` makes of the options, or its error. -/
abbrev TransferOption := TransferOptions → Except GoErr TransferOptions

/-- `for _, opt := range opts { err := opt.setOption(&options); if err != nil { return } }`. -/
def applyOptions : List TransferOption → TransferOptions → Except GoErr TransferOptions
  | [], options => .ok options
  | opt :: opts, options =>
    match opt options with
    | .error err => .error err
    | .ok options => applyOptions opts options

/-- What the rendezvous calls of the synchronous part return: `rc.Connect`,
    `rc.CreateMailbox` (the nameplate), `wordlist.ChooseWords(c.wordCount())`,
    `nameplateFromCode` and `rc.AttachMailbox`. -/
structure MailboxEnv where
  connect : Option GoErr
  createMailbox : Except GoErr GoString
  chooseWords : GoString
  nameplateFromCode : GoString → Except GoErr GoString
  attachMailbox : GoString → Option GoErr

/-- `CreateOrAttachMailbox` after `rc.Connect`: a new mailbox named
    `nameplate + "-" + words` when no code was given, else the given code once its
    nameplate is attached. -/
def createOrAttachMailbox (env : MailboxEnv) (code : GoString) : Except GoErr GoString :=
  match env.connect with
  | some err => .error err
  | none =>
    if code = [] then
      match env.createMailbox with
      | .error err => .error err
      | .ok nameplate => .ok (nameplate ++ goStr "-" ++ env.chooseWords)
    else
      match env.nameplateFromCode code with
      | .error err => .error err
      | .ok nameplate =>
        match env.attachMailbox nameplate with
        | some err => .error err
        | none => .ok code

/-- `offerFile`. -/
structure OfferFile where
  FileName : GoString
  FileSize : Int
  deriving DecidableEq, Repr

/-- `offerDirectory`. -/
structure OfferDirectory where
  Dirname : GoString
  Mode : GoString
  NumBytes : Int
  NumFiles : Int
  ZipSize : Int
  deriving DecidableEq, Repr

/-- `offerMsg`, the two kinds of offer `sendFileDirectory` is given. -/
structure OfferMsg where
  File : Option OfferFile := none
  Directory : Option OfferDirectory := none
  deriving DecidableEq, Repr

/-- `totalSize` as the file goroutine sets it from the offer. -/
def offerTotalSize (offer : OfferMsg) : Int :=
  match offer.File, offer.Directory with
  | some file, _ => file.FileSize
  | none, some dir => dir.ZipSize
  | none, none => 0

-- ============================================================================
-- The entry points
-- ============================================================================

/-- What a send call returns and starts: the code or the error, and the result goroutine
    (`none`: not started; `some none`: started and still in the record loop when the
    reader's results run out). -/
structure SendCall where
  result : Except GoErr GoString
  goroutine : Option (Option GoroutineEnd)

/-- `SendText`: the options, `CreateOrAttachMailbox`, then `SendTextMsg`, whose error
    `SendText` drops (`SendTextMsg` always returns nil). -/
def sendText (errDecryptFailed : GoErr) (opts : List TransferOption) (menv : MailboxEnv)
    (msg : GoString) (env : SendTextEnv) : SendCall :=
  match applyOptions opts {} with
  | .error err => ⟨.error err, none⟩
  | .ok options =>
    match createOrAttachMailbox menv options.code with
    | .error err => ⟨.error err, none⟩
    | .ok pwStr =>
      ⟨.ok pwStr, some (some (sendTextMsgGoroutine errDecryptFailed options.progressFunc msg env))⟩

/-- The mailbox steps of `sendFileDirectory`, written there inline. -/
def sendFileDirectoryCode (env : MailboxEnv) (options : TransferOptions) :
    Except GoErr GoString :=
  match env.connect with
  | some err => .error err
  | none =>
    if options.code = [] then
      match env.createMailbox with
      | .error err => .error err
      | .ok nameplate => .ok (nameplate ++ goStr "-" ++ env.chooseWords)
    else
      let pwStr := options.code
      match env.nameplateFromCode pwStr with
      | .error err => .error err
      | .ok nameplate =>
        match env.attachMailbox nameplate with
        | some err => .error err
        | none => .ok pwStr

/-- `sendFileDirectory`: the options, the mailbox, then the goroutine with the progress
    function of the options and the total size of the offer.  `loggingEnabled` is whether
    the context carries a log function. -/
def sendFileDirectory (sha256 : List UInt8 → List UInt8) (toLower : GoString → GoString)
    (errDecryptFailed errOfferRejected : GoErr) (loggingEnabled : Bool)
    (opts : List TransferOption) (menv : MailboxEnv) (offer : OfferMsg) (env : FileSendEnv) :
    SendCall :=
  match applyOptions opts {} with
  | .error err => ⟨.error err, none⟩
  | .ok options =>
    match sendFileDirectoryCode menv options with
    | .error err => ⟨.error err, none⟩
    | .ok pwStr =>
      ⟨.ok pwStr, some (sendFileDirectoryGoroutine sha256 toLower errDecryptFailed
        errOfferRejected loggingEnabled options.progressFunc (offerTotalSize offer) env)⟩

/-- `SendFile`: the file's size from `readSeekerSize`, offered with its name. -/
def sendFile (sha256 : List UInt8 → List UInt8) (toLower : GoString → GoString)
    (errDecryptFailed errOfferRejected : GoErr) (loggingEnabled : Bool)
    (opts : List TransferOption) (menv : MailboxEnv) (fileName : GoString)
    (seekEnd seekStart : Except GoErr Int) (env : FileSendEnv) : SendCall :=
  match readSeekerSize seekEnd seekStart with
  | (_, some err) => ⟨.error err, none⟩
  | (size, none) =>
    sendFileDirectory sha256 toLower errDecryptFailed errOfferRejected loggingEnabled opts menv
      { File := some ⟨fileName, size⟩ } env

/-- The goroutine `SendDirectory` puts between the file goroutine and its caller:
    `r := <-resultCh; zipInfo.file.Close(); retCh <- r`.  It blocks until the file
    goroutine sends or closes; a receive from a closed channel gives `SendResult{}`.  Its
    operations on `retCh`, and whether it closed the zip file. -/
def forwardResult : Option GoroutineEnd → List ChanOp × Bool
  | some e =>
    match e.ch with
    | .send r :: _ => ([.send r], true)
    | .close :: _ => ([.send ⟨false, none⟩], true)
    | [] => ([], false)
  | none => ([], false)

/-- The offer `SendDirectory` builds from `makeTmpZip`'s result. -/
def directoryOffer (directoryName : GoString) (zipInfo : ZipResult) : OfferMsg :=
  { Directory := some ⟨directoryName, goStr "zipfile/deflated", zipInfo.numBytes,
      zipInfo.numFiles, zipInfo.zipSize⟩ }

/-- What `SendDirectory` returns and does: the code or the error, the operations on the
    channel it returns, whether the temporary zip file was closed, and `makeTmpZip`'s log. -/
structure DirectoryCall where
  result : Except GoErr GoString
  retCh : List ChanOp
  zipClosed : Bool
  zipLog : ZipLog

/-- `SendDirectory`: `makeTmpZip`, the directory offer, `sendFileDirectory` on the zip file,
    and the forwarding goroutine. -/
def sendDirectory (sha256 : List UInt8 → List UInt8) (toLower trimSpace : GoString → GoString)
    (errDecryptFailed errOfferRejected : GoErr) (loggingEnabled : Bool)
    (opts : List TransferOption) (menv : MailboxEnv) (zenv : MakeZipEnv)
    (directoryName : GoString) (entries : List DirectoryEntry) (env : FileSendEnv) :
    DirectoryCall :=
  match makeTmpZip trimSpace zenv directoryName entries with
  | (.error err, zipLog) => ⟨.error err, [], false, zipLog⟩
  | (.ok zipInfo, zipLog) =>
    let call := sendFileDirectory sha256 toLower errDecryptFailed errOfferRejected
      loggingEnabled opts menv (directoryOffer directoryName zipInfo) env
    match call.result, call.goroutine with
    | .ok code, some g =>
      let fwd := forwardResult g
      ⟨.ok code, fwd.1, fwd.2, zipLog⟩
    | .ok code, none => ⟨.ok code, [], false, zipLog⟩
    | .error err, _ => ⟨.error err, [], false, zipLog⟩

-- ============================================================================
-- The two copies of the mailbox steps
-- ============================================================================

/-- The mailbox steps `sendFileDirectory` writes inline are `CreateOrAttachMailbox`'s. -/
theorem sendFileDirectoryCode_eq (env : MailboxEnv) (options : TransferOptions) :
    sendFileDirectoryCode env options = createOrAttachMailbox env options.code := rfl

end Wormhole.Send
