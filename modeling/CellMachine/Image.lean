import CellMachine.Cell

/-!
# Program images

An image is a string of bytes that holds one cell in every two of them, the low byte first. When
the number of bytes is odd, the last one is the low byte of a cell whose high byte is zero.

## Main statements

* `decode_encode` — reading back what was written gives the cells
* `encode_decode` — writing what was read gives the bytes, with the missing high byte filled in
-/

namespace CellMachine.Image

/-- The cell of a low and a high byte. -/
def joinBytes (low high : UInt8) : Cell := .ofNat (low.toNat + 256 * high.toNat)

/-- The cells of an image. -/
def decode : List UInt8 → List Cell
  | [] => []
  | [low] => [joinBytes low 0]
  | low :: high :: rest => joinBytes low high :: decode rest

/-- The image of a list of cells. -/
def encode (cells : List Cell) : List UInt8 :=
  cells.flatMap fun c => [.ofNat (c.toNat % 256), .ofNat (c.toNat / 256)]

theorem toNat_joinBytes (low high : UInt8) :
    (joinBytes low high).toNat = low.toNat + 256 * high.toNat := by
  have h₁ := low.toNat_lt
  have h₂ := high.toNat_lt
  simp only [joinBytes, UInt16.toNat_ofNat']
  omega

theorem decode_encode (cells : List Cell) : decode (encode cells) = cells := by
  induction cells with
  | nil => rfl
  | cons c cs ih =>
    have hc := c.toNat_lt
    have hjoin : joinBytes (.ofNat (c.toNat % 256)) (.ofNat (c.toNat / 256)) = c := by
      apply UInt16.toNat_inj.mp
      simp only [toNat_joinBytes, UInt8.toNat_ofNat']
      omega
    rw [encode, List.flatMap_cons, ← encode]
    simp only [List.cons_append, List.nil_append, decode, hjoin, ih]

theorem encode_decode (bytes : List UInt8) :
    encode (decode bytes) = if bytes.length % 2 = 0 then bytes else bytes ++ [0] := by
  have split (low high : UInt8) :
      encode [joinBytes low high] = [low, high] := by
    have h₁ := low.toNat_lt
    have h₂ := high.toNat_lt
    simp only [encode, List.flatMap_cons, List.flatMap_nil, List.append_nil, toNat_joinBytes,
      List.cons.injEq, and_true]
    constructor <;> apply UInt8.toNat_inj.mp <;> simp only [UInt8.toNat_ofNat'] <;> omega
  fun_induction decode bytes with
  | case1 => rfl
  | case2 low => simpa using split low 0
  | case3 low high rest ih =>
    have hcons : encode (joinBytes low high :: decode rest) =
        encode [joinBytes low high] ++ encode (decode rest) := by
      simp [encode]
    rw [hcons, split, ih]
    have hparity : (low :: high :: rest).length % 2 = rest.length % 2 := by
      simp only [List.length_cons]
      omega
    rw [hparity]
    split <;> simp

end CellMachine.Image
