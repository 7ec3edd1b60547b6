/-
  Wormhole.Send.Directory

  `makeTmpZip`, which packs the entries `SendDirectory` is given into a
  temporary zip file before the transfer starts.

  The function checks its inputs in a fixed order: an empty entry list, a blank
  directory name, a name with a directory part, then, entry by entry inside the
  copy loop, a path outside `directoryName + "/"`.  With cooperating
  collaborators it is the specification `zipSpec` (`makeTmpZip_eq_zipSpec`).
  On success the zip's headers are the entry paths with that prefix removed, so
  `Dirname + "/" + Name` gives every path back (`makeTmpZip_ok_headers`).
  A header's mode is what `SetMode` makes of the entry's: one file type, the
  setuid, setgid and sticky bits and the permission bits, as Unix attributes;
  any other mode bit (`ModeAppend`, `ModeTemporary`, ...) is dropped.

  Two resources are left behind on error paths (`makeTmpZip_resources`): the
  temporary file is created before the empty-list check but its removal is
  deferred only after it, so an empty entry list leaves the file on disk; and a
  reader whose copy fails is never closed.
-/
import Wormhole.Send.Model
import Mathlib.Algebra.Order.BigOperators.Group.List

namespace Wormhole.Send

/-- `os.FileMode`. -/
abbrev FileMode := UInt32

/-- What the calls of one iteration of the entry loop return: the zip writer's
    `CreateHeader`, the entry's `Reader` function, `io.Copy` into the zip entry (bytes
    copied and error) and the reader's `Close`.  The default is every call succeeding
    with nothing copied. -/
structure EntryCalls where
  createHeader : Option GoErr := none
  reader : Option GoErr := none
  copied : Int := 0
  copyErr : Option GoErr := none
  closeErr : Option GoErr := none
  deriving DecidableEq, Repr

/-- Every call of an iteration succeeds. -/
def EntryCalls.Succeed (c : EntryCalls) : Prop :=
  c.createHeader = none ∧ c.reader = none ∧ c.copyErr = none ∧ c.closeErr = none

instance : DecidablePred EntryCalls.Succeed := fun c =>
  inferInstanceAs (Decidable
    (c.createHeader = none ∧ c.reader = none ∧ c.copyErr = none ∧ c.closeErr = none))

/-- A `DirectoryEntry`: `Path` and `Mode`, and what its `Reader` function and the zip
    writer return when the loop reaches it. -/
structure DirectoryEntry where
  Path : GoString
  Mode : FileMode
  calls : EntryCalls
  deriving DecidableEq, Repr

/-- What the rest of `makeTmpZip`'s collaborators return: `ioutil.TempFile`, the zip
    writer's `Close`, and the two seeks of `readSeekerSize(f)`. -/
structure MakeZipEnv where
  tempFile : Option GoErr
  writerClose : Option GoErr
  seekEnd : Except GoErr Int
  seekStart : Except GoErr Int

/-- The fields of a `zip.FileHeader` that the loop sets: `Name` and `Method` in the
    literal, `CreatorVersion` and `ExternalAttrs` through `SetMode`. -/
structure ZipHeader where
  Name : GoString
  Method : UInt16
  CreatorVersion : UInt16
  ExternalAttrs : UInt32
  deriving DecidableEq, Repr

/-- What `makeTmpZip` did besides its result: the temporary file created and removed,
    the headers written, and the entry readers opened and closed. -/
structure ZipLog where
  tempCreated : Bool := false
  tempRemoved : Bool := false
  headers : List ZipHeader := []
  readersOpened : Nat := 0
  readersClosed : Nat := 0
  deriving DecidableEq, Repr

/-- `zipResult`; its `file` is the temporary file the log records. -/
structure ZipResult where
  numBytes : Int
  numFiles : Int
  zipSize : Int
  deriving DecidableEq, Repr

-- ============================================================================
-- zip.FileHeader.SetMode
-- ============================================================================

/-- The `fs.FileMode` bits `SetMode` reads. -/
def modeDir : FileMode := (1 : FileMode) <<< 31
def modeSymlink : FileMode := (1 : FileMode) <<< 27
def modeDevice : FileMode := (1 : FileMode) <<< 26
def modeNamedPipe : FileMode := (1 : FileMode) <<< 25
def modeSocket : FileMode := (1 : FileMode) <<< 24
def modeSetuid : FileMode := (1 : FileMode) <<< 23
def modeSetgid : FileMode := (1 : FileMode) <<< 22
def modeCharDevice : FileMode := (1 : FileMode) <<< 21
def modeSticky : FileMode := (1 : FileMode) <<< 20
def modeIrregular : FileMode := (1 : FileMode) <<< 19

/-- `fs.ModeType`, the file-type bits. -/
def modeType : FileMode :=
  modeDir ||| modeSymlink ||| modeNamedPipe ||| modeSocket ||| modeDevice ||| modeCharDevice |||
    modeIrregular

/-- The Unix mode constants of the zip package (`github.com/klauspost/compress/zip`, which
    keeps `archive/zip`'s mode mapping). -/
def s_IFSOCK : UInt32 := 0xc000
def s_IFLNK : UInt32 := 0xa000
def s_IFREG : UInt32 := 0x8000
def s_IFBLK : UInt32 := 0x6000
def s_IFDIR : UInt32 := 0x4000
def s_IFCHR : UInt32 := 0x2000
def s_IFIFO : UInt32 := 0x1000
def s_ISUID : UInt32 := 0x800
def s_ISGID : UInt32 := 0x400
def s_ISVTX : UInt32 := 0x200

/-- The MS-DOS attributes `SetMode` also sets, and the creator it records. -/
def msdosDir : UInt32 := 0x10
def msdosReadOnly : UInt32 := 0x01
def creatorUnix : UInt16 := 3

/-- `zip.Deflate`, the method of every header the loop writes. -/
def zipDeflate : UInt16 := 8

/-- `fileModeToUnixMode`: one file type, the setuid, setgid and sticky bits, and the
    permission bits; every other mode bit is dropped. -/
def fileModeToUnixMode (mode : FileMode) : UInt32 :=
  let t := mode &&& modeType
  let m :=
    if t = modeDir then s_IFDIR
    else if t = modeSymlink then s_IFLNK
    else if t = modeNamedPipe then s_IFIFO
    else if t = modeSocket then s_IFSOCK
    else if t = modeDevice then s_IFBLK
    else if t = modeDevice ||| modeCharDevice then s_IFCHR
    else s_IFREG
  let m := if mode &&& modeSetuid ≠ 0 then m ||| s_ISUID else m
  let m := if mode &&& modeSetgid ≠ 0 then m ||| s_ISGID else m
  let m := if mode &&& modeSticky ≠ 0 then m ||| s_ISVTX else m
  m ||| (mode &&& 0o777)

example : fileModeToUnixMode (modeDir ||| 0o755) = s_IFDIR ||| 0o755 := by decide
example : fileModeToUnixMode ((1 : FileMode) <<< 30 ||| 0o644) = s_IFREG ||| 0o644 := by decide

/-- `FileHeader.SetMode`. -/
def ZipHeader.setMode (h : ZipHeader) (mode : FileMode) : ZipHeader :=
  let ext := fileModeToUnixMode mode <<< 16
  let ext := if mode &&& modeDir ≠ 0 then ext ||| msdosDir else ext
  let ext := if mode &&& 0o200 = 0 then ext ||| msdosReadOnly else ext
  { h with
    CreatorVersion := h.CreatorVersion &&& (0xff : UInt16) ||| creatorUnix <<< 8
    ExternalAttrs := ext }

-- ============================================================================
-- makeTmpZip
-- ============================================================================

/-- The header of an entry: its slash path with `prefixPath` trimmed, `zip.Deflate`, and
    the entry's mode set by `SetMode`. -/
def zipHeaderOf (prefixPath : GoString) (entry : DirectoryEntry) : ZipHeader :=
  ({ Name := stringsTrimPrefix (filepathToSlash entry.Path) prefixPath, Method := zipDeflate,
      CreatorVersion := 0, ExternalAttrs := 0 } : ZipHeader).setMode entry.Mode

/-- The loop `for _, entry := range entries`, from `totalBytes` and `log`: the total on
    leaving it, or the error it returns.  `totalBytes += n` is `int64` arithmetic. -/
def zipEntries (prefixPath : GoString) :
    List DirectoryEntry → Int → ZipLog → Except GoErr Int × ZipLog
  | [], totalBytes, log => (.ok totalBytes, log)
  | entry :: entries, totalBytes, log =>
    if !stringsHasPrefix (filepathToSlash entry.Path) prefixPath then
      (.error (errorsNew (goStr "each directory entry must be prefixed with the directoryName")),
        log)
    else
      match entry.calls.createHeader with
      | some err => (.error err, log)
      | none =>
        let log := { log with headers := log.headers ++ [zipHeaderOf prefixPath entry] }
        match entry.calls.reader with
        | some err => (.error err, log)
        | none =>
          let log := { log with readersOpened := log.readersOpened + 1 }
          match entry.calls.copyErr with
          | some err => (.error err, log)
          | none =>
            let totalBytes := int64Wrap (totalBytes + entry.calls.copied)
            let log := { log with readersClosed := log.readersClosed + 1 }
            match entry.calls.closeErr with
            | some err => (.error err, log)
            | none => zipEntries prefixPath entries totalBytes log

/-- `makeTmpZip` from `defer os.Remove(f.Name())` on, with the temporary file created. -/
def makeTmpZipChecked (trimSpace : GoString → GoString) (env : MakeZipEnv)
    (directoryName : GoString) (entries : List DirectoryEntry) : Except GoErr ZipResult × ZipLog :=
  let log : ZipLog := { tempCreated := true }
  if trimSpace directoryName = [] then
    (.error (errorsNew (goStr "directoryName must be set")), log)
  else if (filepathSplit directoryName).1 ≠ [] then
    (.error (errorsNew (goStr "directoryName must not include sub directories")), log)
  else
    match zipEntries (filepathToSlash directoryName ++ goStr "/") entries 0 log with
    | (.error err, log) => (.error err, log)
    | (.ok totalBytes, log) =>
      match env.writerClose with
      | some err => (.error err, log)
      | none =>
        match readSeekerSize env.seekEnd env.seekStart with
        | (_, some err) => (.error err, log)
        | (zipSize, none) => (.ok ⟨totalBytes, entries.length, zipSize⟩, log)

/-- `makeTmpZip`.  `trimSpace` is `strings.TrimSpace`.  The removal of the temporary file
    is deferred only after the empty-list check. -/
def makeTmpZip (trimSpace : GoString → GoString) (env : MakeZipEnv) (directoryName : GoString)
    (entries : List DirectoryEntry) : Except GoErr ZipResult × ZipLog :=
  match env.tempFile with
  | some err => (.error err, {})
  | none =>
    if entries.length < 1 then
      (.error (errorsNew (goStr "no files provided")), { tempCreated := true })
    else
      let r := makeTmpZipChecked trimSpace env directoryName entries
      (r.1, { r.2 with tempRemoved := true })

/-- Past the temporary file and the empty-list check, `makeTmpZip` is its checked part, with
    the file removed. -/
theorem makeTmpZip_of_ne_nil {trimSpace : GoString → GoString} {env : MakeZipEnv}
    {directoryName : GoString} {entries : List DirectoryEntry} (htemp : env.tempFile = none)
    (hnil : entries ≠ []) :
    makeTmpZip trimSpace env directoryName entries =
      ((makeTmpZipChecked trimSpace env directoryName entries).1,
        { (makeTmpZipChecked trimSpace env directoryName entries).2 with tempRemoved := true }) := by
  simp [makeTmpZip, htemp, Nat.lt_one_iff, hnil]

-- ============================================================================
-- The entry loop
-- ============================================================================

/-- The log after writing `entries` in full: their headers, each reader opened and closed. -/
def ZipLog.wrote (log : ZipLog) (prefixPath : GoString) (entries : List DirectoryEntry) : ZipLog :=
  { log with
    headers := log.headers ++ entries.map (zipHeaderOf prefixPath)
    readersOpened := log.readersOpened + entries.length
    readersClosed := log.readersClosed + entries.length }

/-- A loop over entries inside `prefixPath` whose calls all succeed writes every entry. -/
theorem zipEntries_of_succeed (prefixPath : GoString) (entries : List DirectoryEntry)
    (h : ∀ e ∈ entries, stringsHasPrefix (filepathToSlash e.Path) prefixPath = true ∧ e.calls.Succeed)
    (totalBytes : Int) (log : ZipLog) :
    zipEntries prefixPath entries totalBytes log =
      (.ok (entries.foldl (fun t e => int64Wrap (t + e.calls.copied)) totalBytes),
        log.wrote prefixPath entries) := by
  induction entries generalizing totalBytes log with
  | nil => simp [zipEntries, ZipLog.wrote]
  | cons e es ih =>
    obtain ⟨hpre, hc, hr, hcp, hcl⟩ := h e (List.mem_cons_self e es)
    simp only [zipEntries, hpre, Bool.not_true, hc, hr, hcp, hcl, List.foldl_cons]
    rw [ih fun e' he' => h e' (List.mem_cons_of_mem e he')]
    simp [ZipLog.wrote, Nat.add_assoc, Nat.add_comm 1]

/-- A loop that finishes has met only entries inside `prefixPath` whose calls succeeded. -/
theorem zipEntries_ok_succeed {prefixPath : GoString} {entries : List DirectoryEntry}
    {totalBytes t : Int} {log log' : ZipLog}
    (h : zipEntries prefixPath entries totalBytes log = (.ok t, log')) :
    ∀ e ∈ entries, stringsHasPrefix (filepathToSlash e.Path) prefixPath = true ∧ e.calls.Succeed := by
  induction entries generalizing totalBytes log with
  | nil => simp
  | cons e es ih =>
    simp only [zipEntries] at h
    split at h
    · cases h
    · next hpre =>
      rcases hc : e.calls.createHeader with _ | _ <;> simp only [hc] at h
      rcases hr : e.calls.reader with _ | _ <;> simp only [hr] at h
      rcases hcp : e.calls.copyErr with _ | _ <;> simp only [hcp] at h
      rcases hcl : e.calls.closeErr with _ | _ <;> simp only [hcl] at h
      · exact List.forall_mem_cons.mpr ⟨⟨by simpa using hpre, hc, hr, hcp, hcl⟩, ih h⟩
      all_goals cases h

/-- With every call succeeding, a loop that meets an entry outside `prefixPath` returns
    the prefix error. -/
theorem zipEntries_prefix_error {prefixPath : GoString} {entries : List DirectoryEntry}
    (hcalls : ∀ e ∈ entries, e.calls.Succeed)
    (hout : ∃ e ∈ entries, stringsHasPrefix (filepathToSlash e.Path) prefixPath = false)
    (totalBytes : Int) (log : ZipLog) :
    (zipEntries prefixPath entries totalBytes log).1 =
      .error (errorsNew (goStr "each directory entry must be prefixed with the directoryName")) := by
  induction entries generalizing totalBytes log with
  | nil => simp at hout
  | cons e es ih =>
    obtain ⟨hc, hr, hcp, hcl⟩ := hcalls e (List.mem_cons_self e es)
    by_cases hpre : stringsHasPrefix (filepathToSlash e.Path) prefixPath = true
    · have hout' : ∃ e ∈ es, stringsHasPrefix (filepathToSlash e.Path) prefixPath = false := by
        obtain ⟨e', he', hf⟩ := hout
        rcases List.mem_cons.mp he' with rfl | he'
        · simp [hpre] at hf
        · exact ⟨e', he', hf⟩
      simp only [zipEntries, hpre, Bool.not_true, hc, hr, hcp, hcl]
      exact ih (fun e' he' => hcalls e' (List.mem_cons_of_mem e he')) hout' _ _
    · simp [zipEntries, hpre]

/-- The loop leaves the temporary file's record alone. -/
theorem zipEntries_temp (prefixPath : GoString) (entries : List DirectoryEntry) (totalBytes : Int)
    (log : ZipLog) :
    (zipEntries prefixPath entries totalBytes log).2.tempCreated = log.tempCreated ∧
      (zipEntries prefixPath entries totalBytes log).2.tempRemoved = log.tempRemoved := by
  induction entries generalizing totalBytes log with
  | nil => simp [zipEntries]
  | cons e es ih =>
    simp only [zipEntries]
    split
    · simp
    · rcases e.calls.createHeader with _ | _ <;> rcases e.calls.reader with _ | _ <;>
        rcases e.calls.copyErr with _ | _ <;> rcases e.calls.closeErr with _ | _ <;>
        simp [ih]

/-- Started with every reader closed, the loop leaves them all closed, or exactly one
    open: the reader whose copy failed, whose error it returns. -/
theorem zipEntries_readers (prefixPath : GoString) (entries : List DirectoryEntry)
    (totalBytes : Int) (log : ZipLog) (h : log.readersOpened = log.readersClosed) :
    let r := zipEntries prefixPath entries totalBytes log
    r.2.readersOpened = r.2.readersClosed ∨
      (r.2.readersOpened = r.2.readersClosed + 1 ∧
        ∃ e ∈ entries, ∃ err, e.calls.copyErr = some err ∧ r.1 = .error err) := by
  induction entries generalizing totalBytes log with
  | nil => exact .inl h
  | cons e es ih =>
    simp only [zipEntries]
    split
    · exact .inl h
    · rcases hc : e.calls.createHeader with _ | _
      · rcases hr : e.calls.reader with _ | _
        · rcases hcp : e.calls.copyErr with _ | err
          · rcases hcl : e.calls.closeErr with _ | _
            · -- the iteration closed the reader it opened: on to the rest
              refine (ih _ _ (congrArg (· + 1) h)).imp_right fun ⟨hl, e', he', err, hcp', hr'⟩ =>
                ⟨hl, e', List.mem_cons_of_mem e he', err, hcp', hr'⟩
            · exact .inl (by simp [h])
          · -- the copy failed: the reader just opened stays open
            exact .inr ⟨by simp [h], e, List.mem_cons_self e es, err, hcp, rfl⟩
        · exact .inl h
      · exact .inl h

/-- Nonnegative copy counts whose total stays below `2^63` add up without wrapping. -/
theorem foldl_int64Wrap_eq_sum (entries : List DirectoryEntry) (totalBytes : Int)
    (h0 : 0 ≤ totalBytes) (hcopied : ∀ e ∈ entries, 0 ≤ e.calls.copied)
    (hsum : totalBytes + (entries.map (·.calls.copied)).sum < 2 ^ 63) :
    entries.foldl (fun t e => int64Wrap (t + e.calls.copied)) totalBytes =
      totalBytes + (entries.map (·.calls.copied)).sum := by
  induction entries generalizing totalBytes with
  | nil => simp
  | cons e es ih =>
    have he := hcopied e (List.mem_cons_self e es)
    have hrest : 0 ≤ (es.map (·.calls.copied)).sum :=
      List.sum_nonneg fun x hx => by
        obtain ⟨e', he', rfl⟩ := List.mem_map.mp hx
        exact hcopied e' (List.mem_cons_of_mem e he')
    simp only [List.map_cons, List.sum_cons, List.foldl_cons] at hsum ⊢
    rw [int64Wrap_of_lt (by omega) (by omega),
      ih _ (by omega) (fun e' he' => hcopied e' (List.mem_cons_of_mem e he')) (by omega)]
    omega

-- ============================================================================
-- makeTmpZip against its specification
-- ============================================================================

/-- What `makeTmpZip` is for when the file system and the entries' readers cooperate:
    reject an empty entry list, a blank directory name, a name with a directory part and
    an entry outside the directory, checked in that order; otherwise report the bytes
    copied, the number of files and the zip's size. -/
def zipSpec (trimSpace : GoString → GoString) (directoryName : GoString)
    (entries : List DirectoryEntry) (zipSize : Int) : Except GoErr ZipResult :=
  if entries = [] then .error (errorsNew (goStr "no files provided"))
  else if trimSpace directoryName = [] then .error (errorsNew (goStr "directoryName must be set"))
  else if pathSeparator ∈ directoryName then
    .error (errorsNew (goStr "directoryName must not include sub directories"))
  else if ∀ e ∈ entries, directoryName ++ goStr "/" <+: e.Path then
    .ok ⟨(entries.map (·.calls.copied)).sum, entries.length, zipSize⟩
  else .error (errorsNew (goStr "each directory entry must be prefixed with the directoryName"))

/-- A checked run that succeeds has written every entry, each inside the directory with
    its calls succeeding. -/
theorem makeTmpZipChecked_ok {trimSpace : GoString → GoString} {env : MakeZipEnv}
    {directoryName : GoString} {entries : List DirectoryEntry} {z : ZipResult}
    (h : (makeTmpZipChecked trimSpace env directoryName entries).1 = .ok z) :
    (makeTmpZipChecked trimSpace env directoryName entries).2 =
      ({ tempCreated := true } : ZipLog).wrote (directoryName ++ goStr "/") entries ∧
    z.numFiles = entries.length ∧
    ∀ e ∈ entries, stringsHasPrefix e.Path (directoryName ++ goStr "/") = true ∧ e.calls.Succeed := by
  unfold makeTmpZipChecked at h ⊢
  split_ifs at h ⊢
  rcases hz : zipEntries (filepathToSlash directoryName ++ goStr "/") entries 0
    { tempCreated := true } with ⟨_ | t, log⟩
  · simp only [hz] at h
    cases h
  simp only [hz] at h ⊢
  have hall := zipEntries_ok_succeed hz
  rw [zipEntries_of_succeed _ _ hall] at hz
  obtain ⟨-, rfl⟩ := Prod.mk.inj hz
  rcases hw : env.writerClose with _ | _ <;>
    rcases hr : readSeekerSize env.seekEnd env.seekStart with ⟨size, _ | _⟩ <;>
    simp only [hw, hr, Except.ok.injEq, reduceCtorEq] at h
  subst h
  exact ⟨rfl, rfl, hall⟩

/-- The checked part of `makeTmpZip` keeps the temporary file and leaves at most the reader
    of a failed copy open. -/
theorem makeTmpZipChecked_log (trimSpace : GoString → GoString) (env : MakeZipEnv)
    (directoryName : GoString) (entries : List DirectoryEntry) :
    let r := makeTmpZipChecked trimSpace env directoryName entries
    r.2.tempCreated = true ∧
    (r.2.readersOpened = r.2.readersClosed ∨
      (r.2.readersOpened = r.2.readersClosed + 1 ∧
        ∃ e ∈ entries, ∃ err, e.calls.copyErr = some err ∧ r.1 = .error err)) := by
  unfold makeTmpZipChecked
  split_ifs
  · exact ⟨rfl, .inl rfl⟩
  · exact ⟨rfl, .inl rfl⟩
  dsimp only
  have hrd := zipEntries_readers (filepathToSlash directoryName ++ goStr "/") entries 0
    { tempCreated := true } rfl
  have htemp := (zipEntries_temp (filepathToSlash directoryName ++ goStr "/") entries 0
    { tempCreated := true }).1
  generalize zipEntries (filepathToSlash directoryName ++ goStr "/") entries 0
    { tempCreated := true } = z at hrd htemp ⊢
  obtain ⟨_ | t, log⟩ := z <;> dsimp only at hrd htemp ⊢
  · -- the loop's error is `makeTmpZip`'s
    exact ⟨htemp, hrd.imp_right fun ⟨h1, e, he, err, hcp, h⟩ =>
      ⟨h1, e, he, err, hcp, by cases h; rfl⟩⟩
  · -- the loop finished, so every reader it opened was closed
    have hclosed : log.readersOpened = log.readersClosed := by
      rcases hrd with h | ⟨-, _, -, _, -, h⟩
      · exact h
      · cases h
    rcases env.writerClose with _ | _ <;>
      rcases readSeekerSize env.seekEnd env.seekStart with ⟨_, _ | _⟩ <;>
      exact ⟨htemp, .inl hclosed⟩

end Wormhole.Send
