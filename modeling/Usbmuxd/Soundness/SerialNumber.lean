import Mathlib.Data.List.TakeWhile
import Mathlib.Data.Nat.Bitwise
import Usbmuxd.Model.Usb.Serial

/-! # The serial number of a device

Whatever a string descriptor holds, the stores of `get_serial_callback` stay inside the buffer, and the
text they leave in it is the descriptor's text.
-/

namespace Usbmuxd

/-- The code unit at an offset, in little endian order. -/
def codeUnit (data : Bytes) (offset : ℕ) : ℕ := (data.getD offset 0).toNat + 256 * (data.getD (offset + 1) 0).toNat

/-- How many code units start at `start`, `start + 2`, … and below the length byte. -/
def unitCount (data : Bytes) (start : ℕ) : ℕ := ((data.getD 0 0).toNat - start + 1) / 2

/-- The code units that start below the length byte. -/
def codeUnits (data : Bytes) (start : ℕ) : List ℕ :=
  (List.range (unitCount data start)).map fun i => codeUnit data (start + 2 * i)

/-- A code unit as a character, or a question mark. -/
def toAscii (unit : ℕ) : UInt8 := if unit < 128 then UInt8.ofNat unit else 63

/-- The text in a string descriptor, without code units from the first zero on. -/
def descriptorText (data : Bytes) : Bytes := ((codeUnits data 2).takeWhile (· ≠ 0)).map toAscii

/-- A text of 24 characters with a hyphen after the eighth, any other as it is. -/
def hyphenated (text : Bytes) : Bytes := if text.length = 24 then text.take 8 ++ 45 :: text.drop 8 else text

private theorem lt_unitCount {data : Bytes} {start i : ℕ} :
    i < unitCount data start ↔ start + 2 * i < (data.getD 0 0).toNat := by
  rw [unitCount]
  omega

private theorem codeUnits_done {data : Bytes} {start : ℕ} (done : ¬start < (data.getD 0 0).toNat) :
    codeUnits data start = [] := by
  have none : unitCount data start = 0 := Nat.eq_zero_of_not_pos fun some => done (lt_unitCount.mp some)
  rw [codeUnits, none]
  rfl

private theorem codeUnits_next {data : Bytes} {start : ℕ} (more : start < (data.getD 0 0).toNat) :
    codeUnits data start = codeUnit data start :: codeUnits data (start + 2) := by
  have one : unitCount data start = unitCount data (start + 2) + 1 := by
    rw [unitCount, unitCount]
    omega
  rw [codeUnits, one, List.range_succ_eq_map, List.map_cons, List.map_map, codeUnits]
  congr 1
  refine List.map_congr_left fun i _ => ?_
  rw [Function.comp_apply]
  congr 1
  omega

private theorem and_128_eq_zero (byte : UInt8) : byte &&& 0x80 = 0 ↔ byte.toNat < 128 := by
  have small := byte.toNat_lt
  have bit : (byte &&& 0x80).toNat = (byte.toNat.testBit 7).toNat * 2 ^ 7 := Nat.and_two_pow byte.toNat 7
  rw [← UInt8.toNat_inj, bit, Nat.testBit_eq_decide_div_mod_eq]
  rcases Nat.lt_or_ge byte.toNat 128 with below | above
  · have high : byte.toNat / 2 ^ 7 % 2 ≠ 1 := by omega
    rw [decide_eq_false high]
    exact ⟨fun _ => below, fun _ => rfl⟩
  · have high : byte.toNat / 2 ^ 7 % 2 = 1 := by omega
    rw [decide_eq_true high]
    exact ⟨fun zero => absurd zero (by decide), fun below => absurd below (Nat.not_lt.mpr above)⟩

private theorem not_ascii_iff {data : Bytes} {si : ℕ} :
    (data.getD si 0 &&& 0x80 ≠ 0 ∨ data.getD (si + 1) 0 ≠ 0) ↔ ¬codeUnit data si < 128 := by
  rw [Ne, and_128_eq_zero, Ne, ← UInt8.toNat_inj, codeUnit]
  change _ ∨ ¬(data.getD (si + 1) 0).toNat = 0 ↔ _
  omega

private theorem codeUnit_ascii {data : Bytes} {si : ℕ} (ascii : codeUnit data si < 128) :
    codeUnit data si = (data.getD si 0).toNat := by
  rw [codeUnit] at ascii ⊢
  omega

private theorem decodeSerial_succ (data : Bytes) (left si : ℕ) :
    decodeSerial data (left + 1) si =
      if si < (data.getD 0 0).toNat then
        if data.getD si 0 &&& 0x80 ≠ 0 ∨ data.getD (si + 1) 0 ≠ 0 then 63 :: decodeSerial data left (si + 2)
        else if data.getD si 0 = 0 then []
        else data.getD si 0 :: decodeSerial data left (si + 2)
      else [] := rfl

/-- The loop takes over the code units up to the first zero, as long as there is room for them. -/
private theorem decodeSerial_eq (data : Bytes) (left si : ℕ) (room : unitCount data si ≤ left) :
    decodeSerial data left si = ((codeUnits data si).takeWhile (· ≠ 0)).map toAscii := by
  induction left generalizing si with
  | zero =>
    have done : ¬si < (data.getD 0 0).toNat := fun more =>
      absurd (lt_unitCount (i := 0).mpr more) (Nat.not_lt.mpr room)
    rw [codeUnits_done done]
    rfl
  | succ left hyp =>
    rw [decodeSerial_succ]
    split
    next more =>
      have rest : unitCount data (si + 2) ≤ left := by
        rw [unitCount] at room ⊢
        omega
      rw [codeUnits_next more, hyp (si + 2) rest]
      split
      next foreign =>
        rw [not_ascii_iff] at foreign
        rw [List.takeWhile_cons_of_pos (by simp; omega), List.map_cons, toAscii, if_neg foreign]
      next native =>
        rw [not_ascii_iff, not_not] at native
        have low := codeUnit_ascii native
        split
        next zero =>
          rw [zero] at low
          rw [low]
          rfl
        next nonzero =>
          have positive : codeUnit data si ≠ 0 := fun zero =>
            nonzero (UInt8.toNat_inj.mp (low.symm.trans zero))
          rw [List.takeWhile_cons_of_pos (by simp [positive]), List.map_cons, toAscii, if_pos native, low,
            UInt8.ofNat_toNat]
    next done => rw [codeUnits_done done]; rfl

private theorem decodeSerial_text (data : Bytes) : decodeSerial data 255 2 = descriptorText data := by
  refine decodeSerial_eq data 255 2 ?_
  have byte := (data.getD 0 0).toNat_lt
  rw [unitCount]
  omega

private theorem serialNumber_text (data : Bytes) : serialNumber data = hyphenated (descriptorText data) := by
  rw [serialNumber, decodeSerial_text]
  rfl

private theorem descriptorText_nonzero (data : Bytes) : 0 ∉ descriptorText data := by
  intro member
  obtain ⟨unit, taken, zero⟩ := List.mem_map.mp member
  have nonzero : unit ≠ 0 := by simpa using List.mem_takeWhile_imp taken
  rw [toAscii] at zero
  split at zero
  next small =>
    have same := congrArg UInt8.toNat zero
    rw [UInt8.toNat_ofNat_of_lt' (by change unit < 256; omega)] at same
    exact nonzero same
  next => cases zero

private theorem hyphenated_nonzero {text : Bytes} (clean : 0 ∉ text) : 0 ∉ hyphenated text := by
  rw [hyphenated]
  split
  next =>
    intro member
    rcases List.mem_append.mp member with front | back
    · exact clean (List.mem_of_mem_take front)
    · rcases List.mem_cons.mp back with hyphen | back
      · cases hyphen
      · exact clean (List.mem_of_mem_drop back)
  next => exact clean

private theorem length_descriptorText (data : Bytes) : (descriptorText data).length ≤ 127 := by
  have taken := (List.takeWhile_prefix (l := codeUnits data 2) (· ≠ 0)).length_le
  have byte := (data.getD 0 0).toNat_lt
  have all : (codeUnits data 2).length = unitCount data 2 := by rw [codeUnits, List.length_map, List.length_range]
  rw [all, unitCount] at taken
  rw [descriptorText, List.length_map]
  omega

/-- The loop appends the characters that `decodeSerial` gives to those already stored. -/
private theorem serialLoop_stores (data : Bytes) (left si : ℕ) {serial : SerialBuffer} {text : Bytes}
    (known : text <+: serial.toList) (room : text.length + left = 255) :
    ∃ serial', serialLoop data text.length si serial =
        some ((text ++ decodeSerial data left si).length, serial') ∧
      text ++ decodeSerial data left si <+: serial'.toList := by
  induction left generalizing si serial text with
  | zero =>
    rw [serialLoop, if_neg (by omega), decodeSerial, List.append_nil]
    exact ⟨serial, rfl, known⟩
  | succ left hyp =>
    -- One character is stored, and the rest of the loop begins with a longer text.
    have next : ∀ character, ∃ serial',
        ((Buffer.store serial text.length [character]).bind fun serial =>
          serialLoop data (text.length + 1) (si + 2) serial) =
            some ((text ++ character :: decodeSerial data left (si + 2)).length, serial') ∧
          text ++ character :: decodeSerial data left (si + 2) <+: serial'.toList := by
      intro character
      obtain ⟨stored, some, begins⟩ := Buffer.store_append known [character] (by simp; omega)
      obtain ⟨last, looped, text'⟩ := hyp (si + 2) begins (by simp; omega)
      rw [List.length_append, List.length_singleton] at looped
      rw [List.append_cons]
      exact ⟨last, by rw [some]; exact looped, text'⟩
    rw [serialLoop, decodeSerial_succ]
    split
    next more =>
      rw [if_pos more.1]
      split
      next => exact next 63
      next =>
        split
        next => exact ⟨serial, by rw [List.append_nil], by rwa [List.append_nil]⟩
        next => exact next (data.getD si 0)
    next done =>
      rw [if_neg (by omega), List.append_nil]
      exact ⟨serial, rfl, known⟩

/-- The hyphen goes between the eighth and the ninth of 24 characters, and the terminator moves with
the others. -/
private theorem insertHyphen_stores {serial : SerialBuffer} {text : Bytes} (known : text ++ [0] <+: serial.toList) :
    ∃ serial', insertHyphen text.length serial = some serial' ∧ hyphenated text ++ [0] <+: serial'.toList := by
  rw [insertHyphen, hyphenated]
  split
  next digits =>
    have front : (text.take 8).length = 8 := by rw [List.length_take]; omega
    have back : (text.drop 8).length = 16 := by rw [List.length_drop]; omega
    have whole : text.take 8 ++ text.drop 8 <+: serial.toList := by
      rw [List.take_append_drop]
      exact (List.prefix_append _ _).trans known
    obtain ⟨gapped, gap, moved, begins⟩ := Buffer.move_up whole (by omega) (List.ne_nil_of_length_pos (by omega))
    rw [front, back] at moved
    obtain ⟨marked, stored, begins⟩ := Buffer.store_of_prefix begins 8 (by simp; omega) [45] (by simp)
    have text' : (text.take 8 ++ gap :: text.drop 8).take 8 ++ [45] ++
        (text.take 8 ++ gap :: text.drop 8).drop (8 + 1) = text.take 8 ++ 45 :: text.drop 8 := by
      rw [List.take_left' front, List.append_cons (text.take 8) gap, List.drop_left' (by simp [front]),
        List.append_assoc]
      rfl
    rw [List.length_singleton, text'] at begins
    have length : (text.take 8 ++ 45 :: text.drop 8).length = 24 + 1 := by
      rw [List.length_append, List.length_cons, front, back]
    obtain ⟨last, ended, begins⟩ := Buffer.store_append begins [0] (by rw [length]; simp)
    rw [length] at ended
    refine ⟨last, ?_, begins⟩
    rw [digits]
    simp only [moved, stored, ended, Option.bind_eq_bind, Option.bind_some]
  next => exact ⟨serial, rfl, known⟩

/-- Every store of `get_serial_callback` stays inside the buffer. What the buffer then begins with is the
descriptor's text, with its hyphen, and a terminator; read as a string it is that text, which is also the
serial number that the device is known by. -/
theorem storeSerial_text (data : Bytes) (serial : SerialBuffer) :
    ∃ serial', storeSerial data serial = some serial' ∧
      hyphenated (descriptorText data) ++ [0] <+: serial'.toList ∧
      Buffer.textUntil 0 serial' = hyphenated (descriptorText data) ∧
      Buffer.textUntil 0 serial' = serialNumber data := by
  obtain ⟨looped, loop, begins⟩ := serialLoop_stores data 255 2 (List.nil_prefix (l := serial.toList)) rfl
  rw [List.nil_append, decodeSerial_text] at loop begins
  have short := length_descriptorText data
  obtain ⟨ended, stored, begins⟩ := Buffer.store_append begins [0] (by simp; omega)
  obtain ⟨last, inserted, begins⟩ := insertHyphen_stores begins
  have read := Buffer.textUntil_eq begins (hyphenated_nonzero (descriptorText_nonzero data))
  refine ⟨last, ?_, begins, read, read.trans (serialNumber_text data).symm⟩
  rw [List.length_nil] at loop
  simp only [storeSerial, loop, stored, inserted, Option.bind_eq_bind, Option.bind_some]

end Usbmuxd
