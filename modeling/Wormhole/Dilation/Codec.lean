/-
  Wormhole.Dilation.Codec

  The control-frame codec: `genPleaseMsg`, `genDilationMsg` and the decoder
  goroutine of `receiveDilationMsg`.

  `pleaseMsg` and `dilateAddMsg` declare only lower-case fields (`tipe`, `side`,
  `phase`, `body`), which `encoding/json` does not encode whatever their tags
  say.  Both encoders therefore write the empty object `{}` for every input
  (`genPleaseMsg_genDilationMsg_empty`): the frames carry neither the type nor the
  side, phase or payload, and the decoder maps a please frame to no event.

  The decoder declares its `result` map once, outside the loop, and ignores
  `Unmarshal`'s error.  `Unmarshal` into a non-nil map keeps what earlier frames
  stored, so a frame without a "type" member re-pushes the type of an earlier one;
  and the unchecked assertion `eventTxt.(string)` panics on a "type" that is not a
  string (`receiveDilationMsg_history`).
-/
import Wormhole.Dilation.Protocol
import Wormhole.Json

namespace Wormhole.Dilation

open Wormhole.Json

-- ============================================================================
-- Encoders
-- ============================================================================

/-- `pleaseMsg`. -/
structure PleaseMsg where
  tipe : GoString
  side : GoString

/-- The fields of `pleaseMsg` with their tags. -/
def PleaseMsg.fields (m : PleaseMsg) : List StructField :=
  [⟨"tipe", "type", .string m.tipe⟩, ⟨"side", "side", .string m.side⟩]

/-- `dilateAddMsg`. -/
structure DilateAddMsg where
  tipe : GoString
  phase : GoString
  body : GoString

/-- The fields of `dilateAddMsg` with their tags. -/
def DilateAddMsg.fields (m : DilateAddMsg) : List StructField :=
  [⟨"tipe", "type", .string m.tipe⟩, ⟨"phase", "phase", .string m.phase⟩,
    ⟨"body", "body", .string m.body⟩]

/-- `genDilationMsg`: the frame `json.Marshal` writes for the "add" message of a payload at a
    phase; `fmt.Sprintf("dilate-%d", phase)` is the decimal text of the Go `int`. -/
def genDilationMsg (payload : List UInt8) (phase : Int) : JsonValue × Option GoErr :=
  let msg : DilateAddMsg :=
    { tipe := goStr "add"
      phase := goStr ("dilate-" ++ toString phase)
      body := hexEncodeToString payload }
  marshalStruct msg.fields

/-- `genPleaseMsg`. -/
def genPleaseMsg (d : DilationProtocol) : JsonValue × Option GoErr :=
  let please : PleaseMsg := { tipe := goStr "please", side := d.side }
  marshalStruct please.fields

-- ============================================================================
-- Decoder
-- ============================================================================

/-- `eventMap` of `receiveDilationMsg`. -/
def eventMap : List (GoString × ManagerInputEvent) :=
  [(goStr "please", managerInputEventRxPlease),
    (goStr "connection-hints", managerInputEventRxHints),
    (goStr "reconnect", managerInputEventRxReconnect),
    (goStr "reconnecting", managerInputEventRxReconnecting)]

/-- What the decoder goroutine has done after the frames delivered so far: the events it
    pushed onto `managerInputEv`, in order, and whether it panicked, which ends it. -/
structure DecoderTrace where
  pushed : List ManagerInputEvent
  panicked : Bool
  deriving DecidableEq, Repr

/-- The loop `for plaintext := range d.msgInput` with its `result` map carried from one
    frame to the next; the error of `json.Unmarshal` is ignored. -/
def receiveDilationLoop (result : GoMap) : List Frame → DecoderTrace
  | [] => ⟨[], false⟩
  | plaintext :: frames =>
    let result := (unmarshalMap plaintext result).1
    match result.lookup (goStr "type") with
    | none => receiveDilationLoop result frames
    | some (.string eventTxt) =>
      match eventMap.lookup eventTxt with
      | some event =>
        let rest := receiveDilationLoop result frames
        ⟨event :: rest.pushed, rest.panicked⟩
      | none => receiveDilationLoop result frames
    | some _ => ⟨[], true⟩

/-- `receiveDilationMsg`'s goroutine over the frames it is given: `result` starts as the nil
    map `var result map[string]interface{}`. -/
def receiveDilationMsg (frames : List Frame) : DecoderTrace :=
  receiveDilationLoop none frames

-- ============================================================================
-- What the codec does
-- ============================================================================

/-- Both encoders write the empty object, for every engine, payload and phase: no field of
    `pleaseMsg` or `dilateAddMsg` is exported.  The please frame so carries no "type", and
    the decoder pushes no event for it. -/
theorem genPleaseMsg_genDilationMsg_empty (d : DilationProtocol) (payload : List UInt8)
    (phase : Int) :
    genPleaseMsg d = (.object [], none) ∧ genDilationMsg payload phase = (.object [], none) ∧
      receiveDilationMsg [.document (genPleaseMsg d).1] = ⟨[], false⟩ := by
  refine ⟨rfl, rfl, rfl⟩

/-- The decoder depends on history and can panic: after `{"type":"please"}`, the frame `{}`
    pushes RxPlease a second time, while `{}` alone pushes nothing; and a frame whose "type"
    is the number 1 makes the goroutine panic. -/
theorem receiveDilationMsg_history :
    receiveDilationMsg [.document (.object [(goStr "type", .string (goStr "please"))]),
        .document (.object [])] =
      ⟨[managerInputEventRxPlease, managerInputEventRxPlease], false⟩ ∧
    receiveDilationMsg [.document (.object [])] = ⟨[], false⟩ ∧
    receiveDilationMsg [.document (.object [(goStr "type", .number (goStr "1"))])] =
      ⟨[], true⟩ := by
  refine ⟨?_, rfl, rfl⟩
  decide

end Wormhole.Dilation
