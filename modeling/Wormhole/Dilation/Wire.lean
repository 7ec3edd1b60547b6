/-
  Wormhole.Dilation.Wire

  The codec and the manager together: what a manager hears of its peer.  The
  peer writes its control frames with `genPleaseMsg` and `genDilationMsg`, and
  the local decoder goroutine turns the frames it receives into manager input
  events.

  Every frame either encoder writes is the empty object, and the decoder's map
  never gains a "type" entry from one, so it pushes no event for any sequence of
  them.  A manager that has started therefore stays Wanting after its one
  SendPlease: no RxPlease arrives, and role election never happens over the
  wire (`managerRun_peerFrames`).
-/
import Wormhole.Dilation.Codec
import Wormhole.Dilation.Manager

namespace Wormhole.Dilation

open Wormhole.Json

/-- Storing the members of the empty object keeps a map without a "type" entry so. -/
theorem unmarshalMap_empty_lookup {result : GoMap} (h : result.lookup (goStr "type") = none) :
    (unmarshalMap (.document (.object [])) result).1.lookup (goStr "type") = none := by
  cases result with
  | none => rfl
  | some entries => exact h

/-- The decoder pushes nothing and does not panic on frames that are all the empty object,
    from any map without a "type" entry. -/
theorem receiveDilationLoop_empty_objects (result : GoMap)
    (hres : result.lookup (goStr "type") = none) (frames : List Frame)
    (h : ∀ f ∈ frames, f = .document (.object [])) :
    receiveDilationLoop result frames = ⟨[], false⟩ := by
  induction frames generalizing result with
  | nil => rfl
  | cons f frames ih =>
    obtain rfl := h f (List.mem_cons_self f frames)
    simp only [receiveDilationLoop, unmarshalMap_empty_lookup hres]
    exact ih _ (unmarshalMap_empty_lookup hres) fun g hg => h g (List.mem_cons_of_mem _ hg)

/-- Over the wire a manager never hears its peer: for every sequence of frames the peer's
    encoders write, please frames of any engine and add frames of any payload and phase,
    the decoder pushes no event and does not panic, so a manager that has started stays
    Wanting with its one SendPlease. -/
theorem managerRun_peerFrames (mySide : GoString) (frames : List Frame)
    (h : ∀ f ∈ frames, (∃ d, f = .document (genPleaseMsg d).1) ∨
      ∃ payload phase, f = .document (genDilationMsg payload phase).1) :
    receiveDilationMsg frames = ⟨[], false⟩ ∧
    managerRun (initDilation mySide) (managerInputEventStart :: (receiveDilationMsg frames).pushed) =
      ({ initDilation mySide with managerState := managerStateWanting },
        [managerOutputEventSendPlease]) := by
  have hpushed : receiveDilationMsg frames = ⟨[], false⟩ :=
    receiveDilationLoop_empty_objects none rfl frames fun f hf => by
      rcases h f hf with ⟨d, rfl⟩ | ⟨payload, phase, rfl⟩ <;> rfl
  refine ⟨hpushed, ?_⟩
  rw [hpushed]
  rfl

/-- The peer's please frame and an add frame reach a freshly started engine. -/
theorem managerRun_peerFrames_please_add :
    (∀ f ∈ [Frame.document (genPleaseMsg (initDilation (goStr "ffffffffffffffff"))).1,
        .document (genDilationMsg [1, 2] 0).1],
      (∃ d, f = .document (genPleaseMsg d).1) ∨
        ∃ payload phase, f = .document (genDilationMsg payload phase).1) ∧
    managerRun (initDilation (goStr "aaaaaaaaaaaaaaaa"))
        (managerInputEventStart :: (receiveDilationMsg
          [.document (genPleaseMsg (initDilation (goStr "ffffffffffffffff"))).1,
            .document (genDilationMsg [1, 2] 0).1]).pushed) =
      ({ initDilation (goStr "aaaaaaaaaaaaaaaa") with managerState := managerStateWanting },
        [managerOutputEventSendPlease]) := by
  have hframes : ∀ f ∈ [Frame.document (genPleaseMsg (initDilation (goStr "ffffffffffffffff"))).1,
      .document (genDilationMsg [1, 2] 0).1],
      (∃ d, f = .document (genPleaseMsg d).1) ∨
        ∃ payload phase, f = .document (genDilationMsg payload phase).1 := by
    intro f hf
    rcases List.mem_pair.mp hf with rfl | rfl
    · exact .inl ⟨_, rfl⟩
    · exact .inr ⟨_, _, rfl⟩
  exact ⟨hframes, (managerRun_peerFrames _ _ hframes).2⟩

end Wormhole.Dilation
