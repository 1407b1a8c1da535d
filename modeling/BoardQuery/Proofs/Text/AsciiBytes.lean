import BoardQuery.Text.Encoding
import Mathlib.Data.List.Basic

/-!
# Unaccented text as bytes

A text of characters below 128, none of them the null character, is one byte for each of them, and
these bytes are read as UTF-8 again (`decode_ascii`). Such texts stand in the order of their bytes
(`bytes_lt_iff_ascii`).
-/

namespace BoardQuery

namespace Encoding

theorem toList_loop (bytes : ByteArray) (i : Nat) (acc : List UInt8) :
    ByteArray.toList.loop bytes i acc = acc.reverse ++ bytes.data.toList.drop i := by
  induction i, acc using ByteArray.toList.loop.induct bytes with
  | case1 i acc hlt ih =>
    have hi : i < bytes.data.toList.length := hlt
    have hget : bytes.get! i = bytes.data.toList[i] := by
      rw [ByteArray.get!, Array.getElem_toList]
      exact getElem!_pos bytes.data i hlt
    rw [ByteArray.toList.loop, if_pos hlt, ih, List.drop_eq_getElem_cons hi, hget]
    simp
  | case2 i acc hge =>
    have hle : bytes.data.toList.length ≤ i := Nat.le_of_not_lt hge
    rw [ByteArray.toList.loop, if_neg hge, List.drop_eq_nil_of_le hle, List.append_nil]

theorem toUTF8_toList (cs : List Char) :
    (String.ofList cs).toUTF8.toList = cs.flatMap String.utf8EncodeChar := by
  rw [String.toUTF8_eq_toByteArray, String.toByteArray_ofList, List.utf8Encode, ByteArray.toList,
    toList_loop, List.toList_data_toByteArray]
  rfl

/-- Whether a text has only characters below 128, and not the null character. -/
def Ascii (cs : List Char) : Prop :=
  ∀ c ∈ cs, 0 < c.toNat ∧ c.toNat < 128

theorem utf8EncodeChar_ascii {c : Char} (h : c.toNat < 128) :
    String.utf8EncodeChar c = [UInt8.ofNat c.toNat] := by
  have hle : c.val.toNat ≤ 0x7f := Nat.le_of_lt_succ h
  unfold String.utf8EncodeChar
  rw [if_pos hle]
  rfl

variable {cs : List Char} (h : Ascii cs)
include h

theorem toUTF8_ascii : (String.ofList cs).toUTF8.toList = cs.map (UInt8.ofNat ·.toNat) := by
  rw [toUTF8_toList]
  induction cs with
  | nil => rfl
  | cons c cs ih =>
    rw [List.flatMap_cons, utf8EncodeChar_ascii (h c List.mem_cons_self).2,
      ih fun d hd => h d (List.mem_cons_of_mem c hd)]
    rfl

theorem codes_ascii : (cs.map (UInt8.ofNat ·.toNat)).map (·.toNat) = cs.map (·.toNat) := by
  rw [List.map_map]
  refine List.map_congr_left fun c hc => ?_
  have := (h c hc).2
  simp only [Function.comp_apply, UInt8.toNat_ofNat']
  omega

theorem detect_ascii : detect (cs.map (·.toNat)) = (.utf8, cs.map (·.toNat)) := by
  have hbytes : ∀ b ∈ cs.map (·.toNat), 0 < b ∧ b < 128 := by
    intro b hb
    obtain ⟨c, hc, rfl⟩ := List.mem_map.1 hb
    exact h c hc
  generalize cs.map (·.toNat) = bytes at hbytes
  unfold detect
  split <;> first | rfl | simp at hbytes

theorem decodeUtf8_ascii : decodeUtf8 (cs.map (·.toNat)) = some cs := by
  induction cs with
  | nil => rfl
  | cons c cs ih =>
    have hc : c.toNat < 0x80 := (h c List.mem_cons_self).2
    rw [List.map_cons, decodeUtf8.eq_def]
    simp [hc, ih fun d hd => h d (List.mem_cons_of_mem c hd)]

theorem decode_ascii : decode (String.ofList cs).toUTF8.toList = some (String.ofList cs) := by
  rw [decode, toUTF8_ascii h, codes_ascii h]
  simp [detect_ascii h, Form.decode, decodeUtf8_ascii h]

omit h in
/-- Unaccented texts stand in the order of their bytes. -/
theorem bytes_lt_iff_ascii {cs ds : List Char} (hc : Ascii cs) (hd : Ascii ds) :
    (String.ofList cs).toUTF8.toList < (String.ofList ds).toUTF8.toList
      ↔ String.ofList cs < String.ofList ds := by
  rw [toUTF8_ascii hc, toUTF8_ascii hd, String.lt_iff, String.toList_ofList, String.toList_ofList]
  induction cs generalizing ds with
  | nil => cases ds <;> simp
  | cons c cs ih =>
    cases ds with
    | nil => simp
    | cons d ds =>
      have hc' := (hc c List.mem_cons_self).2
      have hd' := (hd d List.mem_cons_self).2
      have hlt : UInt8.ofNat c.toNat < UInt8.ofNat d.toNat ↔ c < d := by
        rw [UInt8.lt_iff_toNat_lt, UInt8.toNat_ofNat', UInt8.toNat_ofNat',
          show c < d ↔ c.toNat < d.toNat from UInt32.lt_iff_toNat_lt]
        omega
      have heq : UInt8.ofNat c.toNat = UInt8.ofNat d.toNat ↔ c = d := by
        rw [← UInt8.toNat_inj, UInt8.toNat_ofNat', UInt8.toNat_ofNat', ← Char.toNat_inj]
        omega
      rw [List.map_cons, List.map_cons, List.cons_lt_cons_iff, List.cons_lt_cons_iff, hlt, heq,
        ih (fun x hx => hc x (List.mem_cons_of_mem c hx))
          fun x hx => hd x (List.mem_cons_of_mem d hx)]

end Encoding

end BoardQuery
