/-
  Wormhole.Relay

  The transit relay the package's tests run (`testRelayServer.handleConn`).
  Each connection first sends a fixed-width handshake,
  `"please relay " + 64-byte channel id + " for side " + 16-byte side + one
  byte`; the relay then takes its lock, and either parks the connection under
  its channel id in the map `streams` or, if a connection is parked there
  already, joins the two and copies bytes both ways.

  The handshake parser accepts exactly the headers of that shape whose id and
  side are hex, whatever the last byte is (`handshake_accepted_iff`).  The
  handlers share nothing but `streams`, which they touch only under the lock,
  so every interleaving of them is the sequential run in the order they take
  the lock (`relayRun`).  Over every such order the relay joins each
  connection to the first earlier connection of its channel and to nothing
  else; the entry of a channel is never removed, so every later connection of
  a channel is joined to its first one again (`relayRun_pairs`).

  Left out: the byte copies after a join, and the `WaitGroup`; the listener
  loops (`run`, `handleWSRelay`) only start `handleConn`.
-/
import Wormhole.Go

namespace Wormhole.Relay

-- ============================================================================
-- The handshake
-- ============================================================================

/-- `headerPrefix`. -/
def headerPrefix : GoString := goStr "please relay "

/-- `headerSide`. -/
def headerSide : GoString := goStr " for side "

/-- What the relay writes to a connection whose handshake does not match, then closes it. -/
def badHandshake : GoString := goStr "bad handshake\n"

/-- `io.ReadFull(c, buf)` with `len(buf) = n`, on a connection whose peer sends `input` and
    then closes: the `n` bytes and what follows them, or an error when fewer arrive. -/
def readFull (n : Nat) (input : GoString) : Option (GoString × GoString) :=
  if n ≤ input.length then some (input.take n, input.drop n) else none

/-- How `handleConn`'s handshake ends: the connection closed after `reply` was written to
    it, or the channel id and side read, with the bytes that follow. -/
inductive Handshake
  | closed (reply : GoString)
  | accepted (chanID side rest : GoString)
  deriving DecidableEq, Repr

/-- `matchExpect(expect)`: the bytes after `expect`, or the reply written before closing. -/
def matchExpect (expect input : GoString) : Except GoString GoString :=
  match readFull expect.length input with
  | none => .error []
  | some (got, rest) => if got = expect then .ok rest else .error badHandshake

/-- `isHex(str)`: whether `hex.DecodeString` succeeds. -/
def isHex (str : GoString) : Bool := (hexDecodeString str).isSome

/-- The handshake of `handleConn`, up to the lock. -/
def handshake (input : GoString) : Handshake :=
  match matchExpect headerPrefix input with
  | .error reply => .closed reply
  | .ok input =>
    match readFull 64 input with
    | none => .closed []
    | some (chanID, input) =>
      if !isHex chanID then .closed badHandshake
      else
        match matchExpect headerSide input with
        | .error reply => .closed reply
        | .ok input =>
          match readFull 16 input with
          | none => .closed []
          | some (side, input) =>
            if !isHex side then .closed badHandshake
            else
              match readFull 1 input with
              | none => .closed []
              | some (_, rest) => .accepted chanID side rest

theorem readFull_eq_some {n : Nat} {input a b : GoString} :
    readFull n input = some (a, b) ↔ a.length = n ∧ input = a ++ b := by
  unfold readFull
  split_ifs with h
  · simp only [Option.some.injEq, Prod.mk.injEq]
    constructor
    · rintro ⟨rfl, rfl⟩
      exact ⟨List.length_take_of_le h, (List.take_append_drop n input).symm⟩
    · rintro ⟨rfl, rfl⟩
      simp
  · simp only [reduceCtorEq, false_iff, not_and]
    rintro rfl rfl
    simp at h

theorem matchExpect_eq_ok {expect input rest : GoString} :
    matchExpect expect input = .ok rest ↔ input = expect ++ rest := by
  unfold matchExpect
  constructor
  · intro h
    rcases hr : readFull expect.length input with _ | ⟨got, r⟩ <;> simp only [hr] at h
    · cases h
    · split_ifs at h with hg
      · cases h
        obtain ⟨-, rfl⟩ := readFull_eq_some.mp hr
        rw [hg]
  · rintro rfl
    have hread : readFull expect.length (expect ++ rest) = some (expect, rest) :=
      readFull_eq_some.mpr ⟨rfl, rfl⟩
    simp [hread]

/-- The handshake accepts exactly the headers `"please relay " + id + " for side " + side`
    followed by one byte, any byte, whose 64-byte id and 16-byte side are hex; it returns
    them and what follows. -/
theorem handshake_accepted_iff (input chanID side rest : GoString) :
    handshake input = .accepted chanID side rest ↔
      chanID.length = 64 ∧ side.length = 16 ∧ isHex chanID = true ∧ isHex side = true ∧
        ∃ b, input = headerPrefix ++ chanID ++ headerSide ++ side ++ b :: rest := by
  constructor
  · intro h
    unfold handshake at h
    rcases h1 : matchExpect headerPrefix input with _ | input₁ <;> simp only [h1] at h
    · cases h
    rcases h2 : readFull 64 input₁ with _ | ⟨k, input₂⟩ <;> simp only [h2] at h
    · cases h
    split_ifs at h with hk
    rcases h3 : matchExpect headerSide input₂ with _ | input₃ <;> simp only [h3] at h
    · cases h
    rcases h4 : readFull 16 input₃ with _ | ⟨s, input₄⟩ <;> simp only [h4] at h
    · cases h
    split_ifs at h with hs
    rcases h5 : readFull 1 input₄ with _ | ⟨b, rest'⟩ <;> simp only [h5] at h
    · cases h
    obtain ⟨rfl, rfl, rfl⟩ : k = chanID ∧ s = side ∧ rest' = rest := by
      simpa using h
    obtain ⟨hlen₂, rfl⟩ := readFull_eq_some.mp h2
    obtain ⟨hlen₄, rfl⟩ := readFull_eq_some.mp h4
    obtain ⟨hlen₅, rfl⟩ := readFull_eq_some.mp h5
    obtain ⟨c, rfl⟩ := List.length_eq_one.mp hlen₅
    refine ⟨hlen₂, hlen₄, by simpa using hk, by simpa using hs, c, ?_⟩
    rw [matchExpect_eq_ok.mp h1, matchExpect_eq_ok.mp h3]
    simp
  · rintro ⟨hk, hs, hhk, hhs, b, rfl⟩
    have e₁ : matchExpect headerPrefix (headerPrefix ++ chanID ++ headerSide ++ side ++ b :: rest) =
        .ok (chanID ++ headerSide ++ side ++ b :: rest) :=
      matchExpect_eq_ok.mpr (by simp)
    have e₂ : readFull 64 (chanID ++ headerSide ++ side ++ b :: rest) =
        some (chanID, headerSide ++ side ++ b :: rest) :=
      readFull_eq_some.mpr ⟨hk, by simp⟩
    have e₃ : matchExpect headerSide (headerSide ++ side ++ b :: rest) = .ok (side ++ b :: rest) :=
      matchExpect_eq_ok.mpr (by simp)
    have e₄ : readFull 16 (side ++ b :: rest) = some (side, b :: rest) :=
      readFull_eq_some.mpr ⟨hs, rfl⟩
    have e₅ : readFull 1 (b :: rest) = some ([b], rest) := readFull_eq_some.mpr ⟨rfl, rfl⟩
    simp only [handshake, e₁, e₂, hhk, Bool.not_true, e₃, e₄, hhs, e₅]
    rfl

-- ============================================================================
-- Lock order: the map `streams` and the joins
-- ============================================================================

/-- A connection, by the order in which the relay accepted it. -/
abbrev ConnId := Nat

/-- What the handlers share: the map `streams` from channel id to the parked connection,
    and the pairs `(existing, c)` joined so far, in order. -/
structure RelayState where
  streams : List (GoString × ConnId)
  pairs : List (ConnId × ConnId)
  deriving DecidableEq, Repr

/-- The relay before any connection. -/
def RelayState.init : RelayState := ⟨[], []⟩

/-- The locked section: look `chanID` up; park `c` there if it is absent, else join `c` to
    the connection found, leaving the entry in place. -/
def RelayState.register (st : RelayState) (c : ConnId) (chanID : GoString) : RelayState :=
  match st.streams.lookup chanID with
  | some existing => { st with pairs := st.pairs ++ [(existing, c)] }
  | none => { st with streams := st.streams ++ [(chanID, c)] }

/-- `handleConn` for connection `c` whose peer sends `input`. -/
def handleConn (st : RelayState) (c : ConnId) (input : GoString) : RelayState :=
  match handshake input with
  | .accepted chanID _ _ => st.register c chanID
  | .closed _ => st

/-- The handlers in the order they take the lock. -/
def relayRun (st : RelayState) (conns : List (ConnId × GoString)) : RelayState :=
  conns.foldl (fun st x => handleConn st x.1 x.2) st

-- ============================================================================
-- What the relay joins
-- ============================================================================

/-- The accepted handshakes of a run in lock order: channel id and connection. -/
def arrivals (conns : List (ConnId × GoString)) : List (GoString × ConnId) :=
  conns.filterMap fun x =>
    match handshake x.2 with
    | .accepted chanID _ _ => some (chanID, x.1)
    | .closed _ => none

/-- What the relay joins, said directly: the connection at each position is joined to the
    first earlier connection with its channel id, if there is one. -/
def pairsSpec (arrivals : List (GoString × ConnId)) : List (ConnId × ConnId) :=
  arrivals.enum.filterMap fun x => ((arrivals.take x.1).lookup x.2.1).map (·, x.2.2)

/-- A new arrival adds to the joins only its own, with the first earlier connection of its
    channel. -/
theorem pairsSpec_append_singleton (arrivals : List (GoString × ConnId)) (k : GoString)
    (c : ConnId) :
    pairsSpec (arrivals ++ [(k, c)]) = pairsSpec arrivals ++ ((arrivals.lookup k).map (·, c)).toList := by
  unfold pairsSpec
  rw [List.enum_append, List.filterMap_append, List.enumFrom_singleton]
  congr 1
  · refine List.filterMap_congr fun x hx => ?_
    rw [List.take_append_of_le_length (Nat.le_of_lt (List.fst_lt_of_mem_enum hx))]
  · simp only [List.filterMap_cons, List.filterMap_nil, List.take_left' rfl]
    cases arrivals.lookup k <;> rfl

theorem relayRun_append_singleton (st : RelayState) (conns : List (ConnId × GoString))
    (x : ConnId × GoString) :
    relayRun st (conns ++ [x]) = handleConn (relayRun st conns) x.1 x.2 := by
  simp [relayRun]

theorem arrivals_append_singleton (conns : List (ConnId × GoString)) (x : ConnId × GoString) :
    arrivals (conns ++ [x]) = arrivals conns ++
      match handshake x.2 with
      | .accepted chanID _ _ => [(chanID, x.1)]
      | .closed _ => [] := by
  unfold arrivals
  rw [List.filterMap_append]
  split <;> simp_all

/-- After the lock-order run, the map holds the first connection of each channel and the
    joins are `pairsSpec`'s. -/
theorem relayRun_spec (conns : List (ConnId × GoString)) :
    (∀ k, (relayRun RelayState.init conns).streams.lookup k = (arrivals conns).lookup k) ∧
      (relayRun RelayState.init conns).pairs = pairsSpec (arrivals conns) := by
  induction conns using List.reverseRecOn with
  | nil => exact ⟨fun _ => rfl, rfl⟩
  | append_singleton conns x ih =>
    obtain ⟨hstreams, hpairs⟩ := ih
    rw [relayRun_append_singleton, arrivals_append_singleton]
    unfold handleConn
    rcases hx : handshake x.2 with _ | ⟨k, side, rest⟩
    · simpa using ⟨hstreams, hpairs⟩
    simp only [RelayState.register, hstreams k, pairsSpec_append_singleton, ← hpairs,
      List.lookup_append]
    rcases hA : (arrivals conns).lookup k with _ | e
    · -- a new channel: the connection is parked under it
      exact ⟨fun k' => by rw [List.lookup_append, hstreams], by simp⟩
    · -- a known channel: joined to the parked connection, whose entry stays
      refine ⟨fun k' => ?_, by simp⟩
      rw [hstreams k']
      rcases hk' : (arrivals conns).lookup k' with _ | e'
      · have hne : k' ≠ k := by
          rintro rfl
          rw [hA] at hk'
          cases hk'
        simp [List.lookup_cons, beq_eq_false_iff_ne.mpr hne]
      · rfl

/-- A lookup finds an entry of the list. -/
theorem mem_of_lookup_eq_some {l : List (GoString × ConnId)} {k : GoString} {v : ConnId}
    (h : l.lookup k = some v) : (k, v) ∈ l := by
  obtain ⟨l₁, l₂, rfl, -⟩ := List.lookup_eq_some_iff.mp h
  simp

/-- Each join of `pairsSpec` joins two arrivals of one channel. -/
theorem pairsSpec_same_channel {arrivals : List (GoString × ConnId)} {p : ConnId × ConnId}
    (h : p ∈ pairsSpec arrivals) : ∃ k, (k, p.1) ∈ arrivals ∧ (k, p.2) ∈ arrivals := by
  obtain ⟨x, hx, hp⟩ := List.mem_filterMap.mp h
  obtain ⟨e, he, rfl⟩ := Option.map_eq_some'.mp hp
  exact ⟨x.2.1, List.mem_of_mem_take (mem_of_lookup_eq_some he), List.snd_mem_of_mem_enum hx⟩

/-- The relay over every order in which the handlers take the lock.  Its map keeps, for
    every channel, the first connection that completed a handshake for it, and never drops
    it; each accepted connection is joined to the first earlier connection of its channel,
    if there is one, and to nothing else.  So every join is within one channel, and a
    channel's first connection is joined again to each later connection of it. -/
theorem relayRun_pairs (conns : List (ConnId × GoString)) :
    let st := relayRun RelayState.init conns
    (∀ k, st.streams.lookup k = (arrivals conns).lookup k) ∧
    st.pairs = pairsSpec (arrivals conns) ∧
    ∀ p ∈ st.pairs, ∃ k, (k, p.1) ∈ arrivals conns ∧ (k, p.2) ∈ arrivals conns := by
  obtain ⟨hstreams, hpairs⟩ := relayRun_spec conns
  exact ⟨hstreams, hpairs, fun p hp => pairsSpec_same_channel (hpairs ▸ hp)⟩

end Wormhole.Relay
