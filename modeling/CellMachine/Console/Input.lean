/-!
# Byte input

Bytes arrive in buffers of any sizes. How they are cut has no meaning: `take` gives the next bytes
of the whole, across as many buffers as it needs.

## Main statements

* `take_fst`, `bytes_take_snd` — what `take` gives and leaves, in terms of `bytes` alone
-/

namespace CellMachine

/-- The bytes that are still to be read, in the buffers that deliver them. -/
structure Input where
  buffers : List (List UInt8)
  deriving DecidableEq, Repr

namespace Input

/-- Input that arrives all at once. -/
def ofBytes (bytes : List UInt8) : Input := ⟨[bytes]⟩

/-- Input that arrives in buffers of a given size, at least one byte each. -/
def chunked (size : Nat) (bytes : List UInt8) : Input := ⟨go bytes.length bytes⟩
where
  /-- At most `count` buffers. -/
  go : Nat → List UInt8 → List (List UInt8)
    | 0, _ | _, [] => []
    | count + 1, b :: bs => (b :: bs.take (size - 1)) :: go count (bs.drop (size - 1))

/-- The bytes that are still to be read. -/
def bytes (input : Input) : List UInt8 := input.buffers.flatten

/-- The input with more bytes at its end. -/
def append (input : Input) (bytes : List UInt8) : Input := ⟨input.buffers ++ [bytes]⟩

/-- The next `n` bytes of the buffers, or all if there are fewer, and the buffers without them. -/
def takeFrom (n : Nat) : List (List UInt8) → List UInt8 × List (List UInt8)
  | [] => ([], [])
  | buffer :: rest =>
    let piece := buffer.take n
    if piece.length = n then (piece, buffer.drop n :: rest)
    else
      let (more, rest) := takeFrom (n - piece.length) rest
      (piece ++ more, rest)

/-- The next `n` bytes, or all if there are fewer, and the input after them. -/
def take (n : Nat) (input : Input) : List UInt8 × Input :=
  let (taken, buffers) := takeFrom n input.buffers
  (taken, ⟨buffers⟩)

theorem takeFrom_eq (n : Nat) (buffers : List (List UInt8)) :
    (takeFrom n buffers).1 = buffers.flatten.take n ∧
      (takeFrom n buffers).2.flatten = buffers.flatten.drop n := by
  induction buffers generalizing n with
  | nil => simp [takeFrom]
  | cons buffer rest ih =>
    have hlength : (buffer.take n).length = min n buffer.length := List.length_take
    simp only [takeFrom]
    split
    · next h =>
      have hle : n ≤ buffer.length := by omega
      simp [List.take_append_of_le_length hle, List.drop_append_of_le_length hle]
    · next h =>
      obtain ⟨h₁, h₂⟩ := ih (n - (buffer.take n).length)
      have hle : buffer.length ≤ n := by omega
      have htake : buffer.take n = buffer := List.take_of_length_le hle
      rw [htake] at h₁ h₂ ⊢
      simp [h₁, h₂, List.take_append, List.drop_append, List.take_of_length_le hle,
        List.drop_eq_nil_of_le hle]

@[simp] theorem take_fst (n : Nat) (input : Input) : (input.take n).1 = input.bytes.take n :=
  (takeFrom_eq n input.buffers).1

@[simp] theorem bytes_take_snd (n : Nat) (input : Input) :
    (input.take n).2.bytes = input.bytes.drop n :=
  (takeFrom_eq n input.buffers).2

@[simp] theorem bytes_append (input : Input) (bs : List UInt8) :
    (input.append bs).bytes = input.bytes ++ bs := by
  simp [append, bytes]

@[simp] theorem bytes_ofBytes (bs : List UInt8) : (ofBytes bs).bytes = bs := by
  simp [ofBytes, bytes]

theorem flatten_go (size count : Nat) (bs : List UInt8) (h : bs.length ≤ count) :
    (chunked.go size count bs).flatten = bs := by
  induction count generalizing bs with
  | zero =>
    obtain rfl := List.length_eq_zero_iff.mp (Nat.le_zero.mp h)
    rfl
  | succ count ih =>
    cases bs with
    | nil => rfl
    | cons b bs =>
      have hdrop : (bs.drop (size - 1)).length ≤ count := by
        simp only [List.length_cons, List.length_drop] at h ⊢
        omega
      simp [chunked.go, ih _ hdrop]

@[simp] theorem bytes_chunked (size : Nat) (bs : List UInt8) : (chunked size bs).bytes = bs :=
  flatten_go size bs.length bs (Nat.le_refl _)

end Input

end CellMachine
