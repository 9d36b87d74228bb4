import Mathlib.Data.List.Basic

/-!
# The receive buffer of a Pod session

`read_loop` keeps the bytes it could not parse yet at the front of a vector
that only grows: `valid_bytes` of its bytes are received data, the rest is free
space for the next read.  Every operation is described by its effect on the
pending bytes, so that later files never look at the vector itself.
-/

namespace CocktailMaker

/-- `rx_buffer` together with `valid_bytes`. -/
structure RxBuffer where
  bytes : List UInt8
  validBytes : Nat
  validBytes_le : validBytes ≤ bytes.length

namespace RxBuffer

/-- The received bytes that have not been consumed yet. -/
def pending (rx : RxBuffer) : List UInt8 :=
  rx.bytes.take rx.validBytes

/-- `rx_buffer.size()`. -/
def size (rx : RxBuffer) : Nat :=
  rx.bytes.length

/-- The part of the vector that the next read may fill. -/
def free (rx : RxBuffer) : Nat :=
  rx.size - rx.validBytes

/-- The buffer `read_loop` starts with. -/
def initial : RxBuffer where
  bytes := List.replicate 4096 0
  validBytes := 0
  validBytes_le := Nat.zero_le _

/-- `rx_buffer.resize(rx_buffer.size() * 2)`. -/
def resizeDouble (rx : RxBuffer) : RxBuffer where
  bytes := rx.bytes ++ List.replicate rx.size 0
  validBytes := rx.validBytes
  validBytes_le := by
    have := rx.validBytes_le
    rw [List.length_append]
    omega

/-- A read that stored `chunk` behind the valid bytes. -/
def append (rx : RxBuffer) (chunk : List UInt8) : RxBuffer where
  bytes := rx.pending ++ chunk ++ rx.bytes.drop (rx.validBytes + chunk.length)
  validBytes := rx.validBytes + chunk.length
  validBytes_le := by
    have := rx.validBytes_le
    simp only [pending, List.length_append, List.length_take,
      List.length_drop]
    omega

/-- The lambda `consume_front`: drop `count` bytes by moving the valid ones
behind them to the front. -/
def consumeFront (rx : RxBuffer) (count : Nat) : RxBuffer :=
  if count = 0 then rx
  else if rx.validBytes ≤ count then
    { rx with validBytes := 0, validBytes_le := Nat.zero_le _ }
  else
    { bytes := rx.pending.drop count ++ rx.bytes.drop (rx.validBytes - count)
      validBytes := rx.validBytes - count
      validBytes_le := by
        have := rx.validBytes_le
        simp only [pending, List.length_append, List.length_take,
          List.length_drop]
        omega }

@[simp]
theorem pending_length (rx : RxBuffer) :
    rx.pending.length = rx.validBytes := by
  have := rx.validBytes_le
  simp [pending, this]

@[simp]
theorem pending_initial : initial.pending = [] :=
  rfl

@[simp]
theorem size_initial : initial.size = 4096 :=
  List.length_replicate

@[simp]
theorem size_resizeDouble (rx : RxBuffer) :
    rx.resizeDouble.size = rx.size * 2 := by
  simp [resizeDouble, size, Nat.mul_two]

@[simp]
theorem pending_resizeDouble (rx : RxBuffer) :
    rx.resizeDouble.pending = rx.pending :=
  List.take_append_of_le_length rx.validBytes_le

@[simp]
theorem pending_append (rx : RxBuffer) (chunk : List UInt8) :
    (rx.append chunk).pending = rx.pending ++ chunk := by
  have lengthEq : (rx.pending ++ chunk).length =
      rx.validBytes + chunk.length := by simp
  simp only [pending, append]
  exact List.take_left' lengthEq

/-- A read into the free space does not change the vector's size. -/
theorem size_append {rx : RxBuffer} {chunk : List UInt8}
    (fits : chunk.length ≤ rx.free) : (rx.append chunk).size = rx.size := by
  have := rx.validBytes_le
  simp only [free, size] at fits
  simp only [size, append, List.length_append, pending_length,
    List.length_drop]
  omega

theorem validBytes_consumeFront (rx : RxBuffer) (count : Nat) :
    (rx.consumeFront count).validBytes = rx.validBytes - count := by
  unfold consumeFront
  split
  · omega
  · split
    · simp only; omega
    · rfl

@[simp]
theorem pending_consumeFront (rx : RxBuffer) (count : Nat) :
    (rx.consumeFront count).pending = rx.pending.drop count := by
  unfold consumeFront
  split
  · next zero => simp [zero]
  · split
    · next all =>
        rw [List.drop_eq_nil_of_le (by simpa using all)]
        rfl
    · have lengthEq : (rx.pending.drop count).length =
          rx.validBytes - count := by simp
      exact List.take_left' lengthEq

@[simp]
theorem size_consumeFront (rx : RxBuffer) (count : Nat) :
    (rx.consumeFront count).size = rx.size := by
  have := rx.validBytes_le
  unfold consumeFront
  split
  · rfl
  · split
    · rfl
    · simp only [size, List.length_append, List.length_drop, pending_length]
      omega

end RxBuffer

end CocktailMaker
