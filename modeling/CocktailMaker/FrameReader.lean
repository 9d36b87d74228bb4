import CocktailMaker.PodMessage
import Mathlib.Logic.Function.Iterate

/-!
# The generated frame reader

The code behind `InFrame::read` is generated from the protocol schema and is a
parameter of this development.  This file fixes what one call returns, the
properties the receive loop relies on, and the frame layout of the protocol
documentation as a reader that has these properties.
-/

namespace CocktailMaker

/-- What one call of `InFrame::read` leaves behind: its status, the message
pointer, and the distance the iterator moved. -/
structure ReadResult (Msg : Type*) where
  es : ErrorStatus
  msg : Option Msg
  consumed : Nat

/-- The frame reader, applied to the valid bytes of the buffer. -/
abbrev FrameRead (Msg : Type*) := List UInt8 → ReadResult Msg

/-- The reader waits on an empty buffer, stays inside the bytes it is given,
and a successful read takes at least one of them. -/
structure ReadContract {Msg : Type*} (read : FrameRead Msg) : Prop where
  nil_waits : (read []).es = .notEnoughData
  consumed_le : ∀ bytes, (read bytes).consumed ≤ bytes.length
  success_pos : ∀ bytes, (read bytes).es = .success → 0 < (read bytes).consumed

/-- A result other than `NotEnoughData` does not change when more bytes
follow. -/
def PrefixStable {Msg : Type*} (read : FrameRead Msg) : Prop :=
  ∀ bytes more, (read bytes).es ≠ .notEnoughData →
    read (bytes ++ more) = read bytes

/-- What resynchronisation relies on.  `sync` is the marker, `Intact frame msg`
says that `frame` is a well-formed frame carrying `msg`, and `frameLength` is
`OutFrame::length`, the number of bytes `msg` takes on the wire. -/
structure SyncContract {Msg : Type*} (read : FrameRead Msg) (sync : List UInt8)
    (Intact : List UInt8 → Msg → Prop) (frameLength : Msg → Nat) : Prop where
  sync_length : sync.length = 2
  short_waits : ∀ bytes, bytes.length < 2 → (read bytes).es = .notEnoughData
  noSync : ∀ bytes, 2 ≤ bytes.length → ¬ sync <+: bytes →
    (read bytes).es = .protocolError ∧ (read bytes).consumed = 2
  partial_waits : ∀ frame msg bytes, Intact frame msg → bytes <+: frame →
    bytes ≠ frame → (read bytes).es = .notEnoughData
  intact_read : ∀ frame msg bytes, Intact frame msg → frame <+: bytes →
    read bytes = ⟨.success, some msg, frame.length⟩
  intact_length : ∀ frame msg, Intact frame msg → frame.length = frameLength msg
  success_length : ∀ bytes msg, (read bytes).es = .success →
    (read bytes).msg = some msg → frameLength msg ≤ (read bytes).consumed

namespace WireFrame

/-- The two bytes of the Sync field. -/
def sync : List UInt8 := [0xab, 0xcd]

/-- One bit of a CRC-16 with the CCITT polynomial. -/
def crcBit (crc : UInt16) : UInt16 :=
  if crc &&& 0x8000 ≠ 0 then (crc <<< 1) ^^^ 0x1021 else crc <<< 1

/-- The checksum over Size through Payload. -/
def checksum (bytes : List UInt8) : List UInt8 :=
  let crc : UInt16 := bytes.foldl
    (fun crc byte => crcBit^[8] (crc ^^^ (UInt8.toUInt16 byte <<< 8))) 0xffff
  [(crc >>> 8).toUInt8, crc.toUInt8]

/-- A 16-bit field. -/
def field16 (value : Nat) : List UInt8 :=
  [UInt8.ofNat (value / 256), UInt8.ofNat (value % 256)]

/-- The frame around `content`, its MsgId, TransactionId and Payload. -/
def encode (content : List UInt8) : List UInt8 :=
  let size := field16 (content.length + 2)
  sync ++ size ++ content ++ checksum (size ++ content)

/-- Content that has a MsgId and a TransactionId and whose frame fits the Size
field. -/
def WellFormed (content : List UInt8) : Prop :=
  3 ≤ content.length ∧ content.length + 2 < 65536

instance (content : List UInt8) : Decidable (WellFormed content) :=
  inferInstanceAs (Decidable (_ ∧ _))

def waits : ReadResult (List UInt8) := ⟨.notEnoughData, none, 0⟩

/-- A reader of the documented frame layout that hands on the content. -/
def read : FrameRead (List UInt8)
  | first :: second :: high :: low :: body =>
      if [first, second] ≠ sync then ⟨.protocolError, none, 2⟩
      else
        let size := high.toNat * 256 + low.toNat
        let content := (body.take size).take (size - 2)
        if body.length < size then waits
        else if 5 ≤ size ∧
            body.take size = content ++ checksum (high :: low :: content) then
          ⟨.success, some content, 4 + size⟩
        else ⟨.protocolError, none, 2⟩
  | first :: second :: _ =>
      if [first, second] ≠ sync then ⟨.protocolError, none, 2⟩ else waits
  | _ => waits

/-- The number of bytes of the frame around `content`. -/
def frameLength (content : List UInt8) : Nat :=
  content.length + 6

@[simp]
theorem checksum_length (bytes : List UInt8) : (checksum bytes).length = 2 :=
  rfl

theorem encode_length (content : List UInt8) :
    (encode content).length = frameLength content := by
  simp [encode, sync, field16, frameLength]

theorem readContract : ReadContract read where
  nil_waits := rfl
  consumed_le bytes := by
    unfold read
    split
    · simp only [waits]
      grind
    · grind [waits]
    · grind [waits]
  success_pos bytes := by
    unfold read
    split
    · simp only [waits]
      grind
    · grind [waits]
    · grind [waits]

theorem read_of_ne_sync {first second : UInt8} (rest : List UInt8)
    (differs : [first, second] ≠ sync) :
    read (first :: second :: rest) = ⟨.protocolError, none, 2⟩ := by
  match rest with
  | [] => simp [read, differs]
  | [_] => simp [read, differs]
  | _ :: _ :: _ => simp [read, differs]

theorem prefixStable : PrefixStable read := by
  intro bytes more decided
  match bytes with
  | [] => simp [read, waits] at decided
  | [_] => simp [read, waits] at decided
  | [first, second] =>
      by_cases synced : [first, second] = sync
      · simp [read, waits, synced] at decided
      · rw [read_of_ne_sync [] synced]
        exact read_of_ne_sync more synced
  | [first, second, third] =>
      by_cases synced : [first, second] = sync
      · simp [read, waits, synced] at decided
      · rw [read_of_ne_sync [third] synced]
        exact read_of_ne_sync (third :: more) synced
  | first :: second :: high :: low :: body =>
      by_cases synced : [first, second] = sync
      · have complete : high.toNat * 256 + low.toNat ≤ body.length := by
          by_contra short
          simp [read, waits, synced, Nat.not_le.mp short] at decided
        have sameFrame : (body ++ more).take (high.toNat * 256 + low.toNat) =
            body.take (high.toNat * 256 + low.toNat) :=
          List.take_append_of_le_length complete
        have longer : high.toNat * 256 + low.toNat ≤ (body ++ more).length := by
          rw [List.length_append]
          omega
        simp only [List.cons_append, read, sameFrame,
          if_neg (Nat.not_lt.mpr complete), if_neg (Nat.not_lt.mpr longer)]
      · rw [read_of_ne_sync (high :: low :: body) synced]
        exact read_of_ne_sync (high :: low :: (body ++ more)) synced

theorem field16_value {value : Nat} (fits : value < 65536) :
    ∃ high low, field16 value = [high, low] ∧
      high.toNat * 256 + low.toNat = value := by
  refine ⟨_, _, rfl, ?_⟩
  simp only [UInt8.toNat_ofNat']
  omega

/-- A buffer that starts with a well-formed frame yields its content. -/
theorem read_encode_append {content : List UInt8}
    (wellFormed : WellFormed content) (rest : List UInt8) :
    read (encode content ++ rest) =
      ⟨.success, some content, frameLength content⟩ := by
  obtain ⟨long, fits⟩ := wellFormed
  obtain ⟨high, low, fieldEq, sizeEq⟩ := field16_value fits
  have contentEq : (content ++ (checksum (high :: low :: content) ++ rest)).take
      (content.length + 2) = content ++ checksum (high :: low :: content) := by
    rw [← List.append_assoc]
    exact List.take_left' (by simp)
  have notShort : ¬ (content ++ (checksum (high :: low :: content) ++
      rest)).length < content.length + 2 := by
    simp only [List.length_append, checksum_length]
    omega
  simp only [encode, fieldEq, sync, List.cons_append, List.nil_append,
    List.append_assoc, read, sizeEq, contentEq, if_neg notShort]
  have size : 5 ≤ content.length + 2 := by omega
  simp [size, frameLength]
  omega

theorem read_prefix_waits {content bytes : List UInt8}
    (wellFormed : WellFormed content) (isPrefix : bytes <+: encode content)
    (proper : bytes ≠ encode content) : (read bytes).es = .notEnoughData := by
  obtain ⟨rest, whole⟩ := isPrefix
  by_contra decided
  have stable := prefixStable bytes rest decided
  have onFrame := read_encode_append wellFormed []
  rw [List.append_nil, ← whole, stable] at onFrame
  have stays := readContract.consumed_le bytes
  rw [onFrame, ← encode_length, ← whole, List.length_append] at stays
  have restEmpty : rest = [] := List.length_eq_zero_iff.mp (by
    simp only at stays
    omega)
  exact proper (by simpa [restEmpty] using whole)

theorem syncContract : SyncContract read sync
    (fun frame content => frame = encode content ∧ WellFormed content)
    frameLength where
  sync_length := rfl
  short_waits bytes short := by
    match bytes with
    | [] => rfl
    | [_] => rfl
    | _ :: _ :: _ =>
        simp only [List.length_cons] at short
        omega
  noSync bytes long noSync := by
    match bytes with
    | [] => simp at long
    | [_] => simp at long
    | first :: second :: rest =>
        have differs : [first, second] ≠ sync := by
          intro same
          exact noSync (same ▸ List.prefix_append [first, second] rest)
        rw [read_of_ne_sync rest differs]
        exact ⟨rfl, rfl⟩
  partial_waits _ content bytes intact isPrefix proper := by
    obtain ⟨rfl, wellFormed⟩ := intact
    exact read_prefix_waits wellFormed isPrefix proper
  intact_read _ content bytes intact isPrefix := by
    obtain ⟨rfl, wellFormed⟩ := intact
    obtain ⟨rest, rfl⟩ := isPrefix
    rw [read_encode_append wellFormed, encode_length]
  intact_length _ content intact := by
    rw [intact.1, encode_length]
  success_length bytes content success carries := by
    unfold read at success carries ⊢
    split at success
    · grind [waits, frameLength]
    · grind [waits]
    · grind [waits]

end WireFrame

end CocktailMaker
