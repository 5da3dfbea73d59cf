import LuxMon.Checksum.ShiftRegister
import LuxMon.Protocol.Requests

/-!
# The two checksums

`crc16_modbus` of the dongle protocol looks the low byte up in a table; `_crc16` of the
EG4 battery driver shifts bit by bit.  Both are the register of the polynomial
`0xA001`, which has the top bit.

    crc16_modbus = _crc16, below 65536                                  (crc16_agree)
    it notices whatever is confined to two adjacent bytes               (crc16_detects_burst)
-/

namespace LuxMon

open Checksum

/-- `_crc16` of the EG4 driver. -/
def crc16 (data : Bytes) : Nat :=
  data.foldl (fun crc byte =>
    (List.range 8).foldl (fun crc _ => if crc &&& 1 ≠ 0 then (crc >>> 1) ^^^ 0xA001 else crc >>> 1) (crc ^^^ byte.toNat))
    0xFFFF

/-- Each of the 256 entries. -/
theorem crc16Table_isTable : IsTable 0xA001 crc16Table := by
  have hall : (List.range 256).all (fun i => crc16Table.getD i 0 = (shift 0xA001)^[8] i) = true := by
    decide +kernel
  intro i hi
  exact of_decide_eq_true (List.all_eq_true.mp hall i (List.mem_range.mpr hi))

theorem crc16Modbus_eq (data : Bytes) : crc16Modbus data = feed 0xA001 0xFFFF data :=
  feed_table crc16Table_isTable 0xFFFF data

theorem crc16_eq (data : Bytes) : crc16 data = feed 0xA001 0xFFFF data := rfl

/-- The two implementations agree. -/
theorem crc16_agree (data : Bytes) : crc16Modbus data = crc16 data ∧ crc16 data < 65536 := by
  refine ⟨(crc16Modbus_eq data).trans (crc16_eq data).symm, ?_⟩
  rw [crc16_eq]
  exact feed_lt (w := 16) (by decide) (by decide) (by decide) data

/-- Strings of one length that differ only at `i` and `i + 1` have different checksums. -/
theorem crc16_detects_burst {x y : Bytes} (hlength : x.length = y.length) (hne : x ≠ y) {i : Nat}
    (hburst : ∀ j, j ≠ i → j ≠ i + 1 → x[j]? = y[j]?) : crc16Modbus x ≠ crc16Modbus y := by
  -- what stands before and after the two bytes is the same
  have hfront : x.take i = y.take i := by
    refine List.ext_getElem? fun j => ?_
    rw [List.getElem?_take, List.getElem?_take]
    split
    · exact hburst j (by omega) (by omega)
    · rfl
  have hback : (x.drop i).drop 2 = (y.drop i).drop 2 := by
    refine List.ext_getElem? fun j => ?_
    rw [List.drop_drop, List.drop_drop, List.getElem?_drop, List.getElem?_drop]
    exact hburst _ (by omega) (by omega)
  have hsplit : ∀ z : Bytes, z = z.take i ++ (z.drop i).take 2 ++ (z.drop i).drop 2 := fun z => by
    rw [List.append_assoc, List.take_append_drop, List.take_append_drop]
  have hmiddle : (x.drop i).take 2 ≠ (y.drop i).take 2 := by
    intro h
    apply hne
    rw [hsplit x, hsplit y, hfront, h, hback]
  rw [crc16Modbus_eq, crc16Modbus_eq, hsplit x, hsplit y, hfront, hback]
  refine feed_burst (w := 15) (by decide) (by decide) (by decide) (by decide) _ _ ?_ ?_ hmiddle
  · rw [List.length_take, List.length_take, List.length_drop, List.length_drop, hlength]
  · rw [List.length_take]
    omega

/-- A read request whose register number was damaged. -/
theorem crc16_detects_register : crc16Modbus [0x01, 0x03, 0x00, 0x13] ≠ crc16Modbus [0x01, 0x03, 0x10, 0x33] :=
  crc16_detects_burst (i := 2) rfl (by decide) (by
    intro j h2 h3
    match j with
    | 0 => rfl
    | 1 => rfl
    | 2 => exact absurd rfl h2
    | 3 => exact absurd rfl h3
    | _ + 4 => rfl)

end LuxMon
