/-
  Wormhole.Go

  The Go runtime values the model needs.  A Go `string` is an immutable byte
  sequence, modelled as `List UInt8`; a string literal of the source is its UTF-8
  bytes (`goStr`).  Go orders strings bytewise (`runtime.cmpstring`): the first
  differing byte decides, and a proper prefix comes first.  `cmpstring_eq_iff` and
  `cmpstring_swap` are the two facts role election rests on.

  A non-nil `error` is a `GoErr`: the identity of the value, which is what `==`
  on two errors compares, and the text its `Error` method returns.  `io.EOF` and
  `hex.EncodeToString` are the two pieces of the standard library both the
  codec and the send goroutines use.
-/
import Mathlib.Data.List.Basic
import Mathlib.Algebra.Ring.Int.Defs

namespace Wormhole

/-- A Go `string`: an immutable sequence of bytes. -/
abbrev GoString := List UInt8

/-- The bytes of a Go string literal: its UTF-8 encoding. -/
def goStr (s : String) : GoString := s.toUTF8.data.toList

/-- Go's string comparison (`runtime.cmpstring`): bytewise, the first differing byte
    decides and a proper prefix comes first.  Go's `a > b` on strings is
    `cmpstring a b = .gt`, `a < b` is `cmpstring a b = .lt`. -/
def cmpstring : GoString → GoString → Ordering
  | [], [] => .eq
  | [], _ :: _ => .lt
  | _ :: _, [] => .gt
  | c₁ :: s₁, c₂ :: s₂ => if c₁ < c₂ then .lt else if c₂ < c₁ then .gt else cmpstring s₁ s₂

/-- Two bytes neither of which is below the other are equal. -/
theorem byte_eq_of_not_lt {a b : UInt8} (h₁ : ¬ a < b) (h₂ : ¬ b < a) : a = b := by
  simp only [UInt8.lt_def, BitVec.lt_def] at h₁ h₂
  exact UInt8.toNat.inj (by simp only [UInt8.toNat]; omega)

theorem cmpstring_self (s : GoString) : cmpstring s s = .eq := by
  induction s with
  | nil => rfl
  | cons c s ih => simp [cmpstring, ih]

/-- The comparison says "equal" exactly on equal strings. -/
theorem cmpstring_eq_iff {a b : GoString} : cmpstring a b = .eq ↔ a = b := by
  refine ⟨fun h => ?_, fun h => h ▸ cmpstring_self a⟩
  induction a generalizing b with
  | nil => cases b <;> simp_all [cmpstring]
  | cons c₁ s₁ ih =>
    cases b with
    | nil => simp [cmpstring] at h
    | cons c₂ s₂ =>
      simp only [cmpstring] at h
      split_ifs at h with h₁ h₂
      rw [byte_eq_of_not_lt h₁ h₂, ih h]

/-- Comparing the other way round swaps the verdict. -/
theorem cmpstring_swap (a b : GoString) : cmpstring b a = (cmpstring a b).swap := by
  induction a generalizing b with
  | nil => cases b <;> rfl
  | cons c₁ s₁ ih =>
    cases b with
    | nil => rfl
    | cons c₂ s₂ =>
      simp only [cmpstring]
      by_cases h₁ : c₁ < c₂
      · simp [h₁, UInt8.lt_asymm h₁, Ordering.swap]
      · by_cases h₂ : c₂ < c₁
        · simp [h₁, h₂, Ordering.swap]
        · simp [h₁, h₂, ih]

/-- `hex.EncodeToString`: each byte as two lower-case hex digits, high nibble first. -/
def hexEncodeToString (src : List UInt8) : GoString :=
  src.flatMap fun v => [hextable.getD (v >>> 4).toNat 0, hextable.getD (v &&& 0x0f).toNat 0]
where
  hextable : GoString := goStr "0123456789abcdef"

/-- A non-nil Go `error` value: `ident` is the identity of the value (two errors are
    `==` only when they are the same value) and `text` what its `Error` method returns. -/
structure GoErr where
  ident : Nat
  text : GoString
  deriving DecidableEq, Repr

/-- `errors.New(text)` and `fmt.Errorf` allocate a new value; the model gives every value
    the modelled code allocates identity `0`, which no package-level error shares. -/
def errorsNew (text : GoString) : GoErr := ⟨0, text⟩

/-- `io.EOF`, the standard library's end-of-input error; its identity in the model is `1`. -/
def ioEOF : GoErr := ⟨1, goStr "EOF"⟩

-- ============================================================================
-- strings, path/filepath, encoding/hex, int64
-- ============================================================================

/-- `strings.HasPrefix`: `len(s) >= len(prefix) && s[0:len(prefix)] == prefix`. -/
def stringsHasPrefix (s pre : GoString) : Bool :=
  decide (pre.length ≤ s.length) && s.take pre.length == pre

/-- `strings.TrimPrefix`: `s` without `prefix` when it starts with it. -/
def stringsTrimPrefix (s pre : GoString) : GoString :=
  if stringsHasPrefix s pre then s.drop pre.length else s

theorem stringsHasPrefix_iff (s pre : GoString) : stringsHasPrefix s pre = true ↔ pre <+: s := by
  simp only [stringsHasPrefix, Bool.and_eq_true, decide_eq_true_eq, beq_iff_eq]
  exact ⟨fun ⟨_, h⟩ => List.prefix_iff_eq_take.mpr h.symm,
    fun h => ⟨h.length_le, (List.prefix_iff_eq_take.mp h).symm⟩⟩

/-- Trimming a prefix the string has leaves what follows it. -/
theorem stringsTrimPrefix_append (s pre : GoString) (h : stringsHasPrefix s pre = true) :
    pre ++ stringsTrimPrefix s pre = s := by
  obtain ⟨t, rfl⟩ := (stringsHasPrefix_iff s pre).mp h
  simp [stringsTrimPrefix, h]

/-- `os.PathSeparator` on the Unix targets the module is built for: `'/'`. -/
def pathSeparator : UInt8 := 47

/-- `filepath.ToSlash` with `os.PathSeparator = '/'`: the path itself. -/
def filepathToSlash (path : GoString) : GoString := path

/-- `filepath.Split` on Unix (empty volume name): scan back from the end to the last
    separator; the directory keeps it, the file is what follows. -/
def filepathSplit (path : GoString) : GoString × GoString :=
  let file := (path.reverse.takeWhile (· ≠ pathSeparator)).reverse
  (path.take (path.length - file.length), file)

/-- The directory part of `filepath.Split` is empty exactly when the path has no
    separator. -/
theorem filepathSplit_fst_eq_nil (path : GoString) :
    (filepathSplit path).1 = [] ↔ pathSeparator ∉ path := by
  have hsub := List.takeWhile_sublist (l := path.reverse) (· ≠ pathSeparator)
  have hle := hsub.length_le
  simp only [List.length_reverse] at hle
  -- the scan reaches the start exactly when it meets no separator
  have hall : path.reverse.takeWhile (· ≠ pathSeparator) = path.reverse ↔ pathSeparator ∉ path := by
    simp only [List.takeWhile_eq_self_iff, List.mem_reverse, ne_eq, decide_eq_true_eq]
    exact ⟨fun h hmem => h _ hmem rfl, fun h x hx hx' => h (hx' ▸ hx)⟩
  simp only [filepathSplit, List.length_reverse, List.take_eq_nil_iff, ← hall]
  constructor
  · rintro (h | rfl)
    · exact hsub.eq_of_length (by simp only [List.length_reverse]; omega)
    · rfl
  · intro h
    left
    rw [h, List.length_reverse, Nat.sub_self]

/-- Go's `int64` addition: the mathematical sum wrapped into `[-2^63, 2^63)`. -/
def int64Wrap (x : Int) : Int := (x + 2 ^ 63) % 2 ^ 64 - 2 ^ 63

/-- A sum inside the `int64` range does not wrap. -/
theorem int64Wrap_of_lt {x : Int} (h₁ : -2 ^ 63 ≤ x) (h₂ : x < 2 ^ 63) : int64Wrap x = x := by
  unfold int64Wrap
  rw [Int.emod_eq_of_lt (by omega) (by omega)]
  omega

/-- The value of one hex digit, either case, as `encoding/hex`'s `reverseHexTable` gives
    it; `none` for a byte that is not a hex digit. -/
def fromHexChar (c : UInt8) : Option UInt8 :=
  if 48 ≤ c ∧ c ≤ 57 then some (c - 48)
  else if 97 ≤ c ∧ c ≤ 102 then some (c - 87)
  else if 65 ≤ c ∧ c ≤ 70 then some (c - 55)
  else none

/-- `hex.DecodeString`: pairs of hex digits, high nibble first.  `none` is a non-nil
    error, `InvalidByteError` or `ErrLength`; the callers modelled only test it. -/
def hexDecodeString : GoString → Option (List UInt8)
  | [] => some []
  | [_] => none
  | p :: q :: s => do
    let a ← fromHexChar p
    let b ← fromHexChar q
    let rest ← hexDecodeString s
    pure (((a <<< 4) ||| b) :: rest)

end Wormhole
