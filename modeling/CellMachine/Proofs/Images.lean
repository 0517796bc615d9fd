import CellMachine.Program

/-!
# Images and their cells

An image holds its cells one after the other, two bytes for each, the low byte first. Reading an
image is the inverse of writing one, but for the last byte of an odd number: it stands for a cell of
its own, the same that it would begin if a zero byte followed.

## Main statements

* `getElem?_decode` — where the bytes of a cell are
* `decode_append` — an image can be read in parts, cut between cells
* `decode_eq_iff` — two images have the same cells if they are the same once padded
* `decode_inverts_encode` — reading and writing, both ways round
-/

namespace CellMachine.Image

variable {x y : List UInt8}

/-- An image with a zero byte at its end if the number of its bytes is odd. -/
def padded (bytes : List UInt8) : List UInt8 :=
  if bytes.length % 2 = 0 then bytes else bytes ++ [0]

theorem length_cons_cons_mod_two (low high : UInt8) (rest : List UInt8) :
    (low :: high :: rest).length % 2 = rest.length % 2 := by
  simp only [List.length_cons]
  omega

theorem padded_cons_cons (low high : UInt8) (rest : List UInt8) :
    padded (low :: high :: rest) = low :: high :: padded rest := by
  rw [padded, padded, length_cons_cons_mod_two]
  split <;> rfl

/-- Padding adds no cell and changes none. -/
theorem decode_padded (bytes : List UInt8) : decode (padded bytes) = decode bytes := by
  fun_induction decode bytes with
  | case1 => rfl
  | case2 low => rfl
  | case3 low high rest ih => rw [padded_cons_cons, decode, ih]

theorem decode_eq_iff : decode x = decode y ↔ padded x = padded y := by
  constructor
  · intro h
    have hencode := congrArg encode h
    rwa [encode_decode, encode_decode] at hencode
  · intro h
    rw [← decode_padded x, h, decode_padded]

theorem length_decode (bytes : List UInt8) : (decode bytes).length = (bytes.length + 1) / 2 := by
  fun_induction decode bytes with
  | case1 => rfl
  | case2 low => simp
  | case3 low high rest ih =>
    simp only [List.length_cons, ih]
    omega

/-- **Where the bytes of a cell are**: its low byte is at twice its place, and its high byte is the
next one, or zero if the image ends before. -/
theorem getElem?_decode (bytes : List UInt8) (i : Nat) :
    (decode bytes)[i]? =
      bytes[2 * i]?.map fun low => joinBytes low (bytes[2 * i + 1]?.getD 0) := by
  fun_induction decode bytes generalizing i with
  | case1 => rfl
  | case2 low =>
    cases i with
    | zero => rfl
    | succ i => rfl
  | case3 low high rest ih =>
    cases i with
    | zero => rfl
    | succ i => exact ih i

/-- **An image can be read in parts**, if it is cut between two cells. -/
theorem decode_append (h : x.length % 2 = 0) (y : List UInt8) :
    decode (x ++ y) = decode x ++ decode y := by
  fun_induction decode x with
  | case1 => rfl
  | case2 low => cases h
  | case3 low high rest ih =>
    rw [length_cons_cons_mod_two] at h
    rw [List.cons_append, List.cons_append, decode, ih h, List.cons_append]

theorem ofImage_eq_iff : Program.ofImage x = Program.ofImage y ↔ decode x = decode y := by
  simp only [Program.ofImage, Program.ofCells, Program.mk.injEq, and_true]
  exact ⟨congrArg Array.toList, congrArg List.toArray⟩

/-- The bytes of a cell, of which the low one comes first. -/
theorem encode_singleton (c : Cell) :
    ∃ low high : UInt8, encode [c] = [low, high] ∧ c.toNat = low.toNat + 256 * high.toNat := by
  have hc := c.toNat_lt
  refine ⟨.ofNat (c.toNat % 256), .ofNat (c.toNat / 256), rfl, ?_⟩
  simp only [UInt8.toNat_ofNat']
  omega

/-- **Reading an image is the inverse of writing one**, up to the high byte that an odd number of
bytes lacks. So the images of a program differ in that byte alone, and parts of an even number of
bytes are read for themselves. -/
theorem decode_inverts_encode :
    (∀ c, ∃ low high : UInt8, encode [c] = [low, high] ∧ c.toNat = low.toNat + 256 * high.toNat) ∧
      (∀ cs ds, encode (cs ++ ds) = encode cs ++ encode ds) ∧
      (∀ cells, decode (encode cells) = cells) ∧
      (∀ bytes, (decode bytes).length = (bytes.length + 1) / 2 ∧
        (∀ i : Nat, (decode bytes)[i]? =
          bytes[2 * i]?.map fun low => joinBytes low (bytes[2 * i + 1]?.getD 0)) ∧
        encode (decode bytes) = if bytes.length % 2 = 0 then bytes else bytes ++ [0]) ∧
      (∀ x y, Program.ofImage x = Program.ofImage y ↔ padded x = padded y) ∧
      ∀ x y, x.length % 2 = 0 → decode (x ++ y) = decode x ++ decode y := by
  refine ⟨encode_singleton, ?_, decode_encode, ?_, ?_, ?_⟩
  · intro cs ds
    exact List.flatMap_append
  · intro bytes
    exact ⟨length_decode bytes, getElem?_decode bytes, encode_decode bytes⟩
  · intro x y
    exact ofImage_eq_iff.trans decode_eq_iff
  · intro x y h
    exact decode_append h y

/-- An image with an odd last byte, read behind another one, and the same program with that byte
padded. After the odd image the next bytes would be read otherwise. -/
theorem decode_inverts_encode_odd :
    let x := encode [9, 32768]
    let y : List UInt8 := [0x13, 0x00, 0x41]
    x.length % 2 = 0 ∧ decode (x ++ y) = [9, 32768, 19, 0x41] ∧
      Program.ofImage y = .ofImage (y ++ [0]) ∧ (decode y).length = 2 ∧
      encode (decode y) = y ++ [0] ∧ decode (y ++ [1]) ≠ decode y ++ decode [1] := by
  intro x y
  obtain ⟨-, -, hinverse, hback, hprograms, happend⟩ := decode_inverts_encode
  have hx : x.length % 2 = 0 := by decide
  have hodd : ¬y.length % 2 = 0 := by decide
  have hpadded : padded y = padded (y ++ [0]) := by decide
  obtain ⟨hlength, -, hencode⟩ := hback y
  rw [if_neg hodd] at hencode
  refine ⟨hx, ?_, (hprograms y (y ++ [0])).mpr hpadded, hlength.trans (by decide), hencode,
    by decide⟩
  rw [happend x y hx, hinverse]
  rfl

end CellMachine.Image
