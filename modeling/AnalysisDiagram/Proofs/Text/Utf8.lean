/-
  AnalysisDiagram.Proofs.Text.Utf8
  ────────────────────────────────
  The scanner reads back what was written as UTF-8.

      scan_encodeChar   — the bytes of one character are scanned as that
                          character, whatever follows them
      decodeLossy_utf8  — decodeLossy (utf8 s) = s

  A character is written in one to four bytes, by the size of its code.  The
  scanner goes through as many states.  The bounds that it keeps for the
  second byte are met because no code is written longer than needed and
  because surrogates are no characters.
-/
import AnalysisDiagram.Text.Utf8
import Mathlib.Data.List.Basic

namespace AnalysisDiagram.Text

open Utf8State

/-! ## §1. One byte. -/

theorem not_lt_byte {b m : UInt8} (h : m.toNat ≤ b.toNat) : ¬ b < m := by
  rw [UInt8.lt_iff_toNat_lt]
  omega

theorem lead_single {b : UInt8} (h : b.toNat < 0x80) :
    lead b = ([some (Char.ofNat b.toNat)], .start) := by
  have hb : b < 0x80 := UInt8.lt_iff_toNat_lt.2 h
  unfold lead
  rw [if_pos hb]

theorem lead_double {b : UInt8} (hlo : 0xC2 ≤ b.toNat) (hhi : b.toNat < 0xE0) :
    lead b = ([], .midway 1 (b.toNat - 0xC0) 0x80 0xBF) := by
  have h80 : ¬ b < 0x80 := not_lt_byte (Nat.le_trans (by decide) hlo)
  have hC2 : ¬ b < 0xC2 := not_lt_byte hlo
  have hE0 : b < 0xE0 := UInt8.lt_iff_toNat_lt.2 hhi
  unfold lead
  rw [if_neg h80, if_neg hC2, if_pos hE0]

theorem lead_triple {b : UInt8} (hlo : 0xE0 ≤ b.toNat) (hhi : b.toNat < 0xF0) :
    lead b = ([], .midway 2 (b.toNat - 0xE0) (if b == 0xE0 then 0xA0 else 0x80)
      (if b == 0xED then 0x9F else 0xBF)) := by
  have h80 : ¬ b < 0x80 := not_lt_byte (Nat.le_trans (by decide) hlo)
  have hC2 : ¬ b < 0xC2 := not_lt_byte (Nat.le_trans (by decide) hlo)
  have hE0 : ¬ b < 0xE0 := not_lt_byte hlo
  have hF0 : b < 0xF0 := UInt8.lt_iff_toNat_lt.2 hhi
  unfold lead
  rw [if_neg h80, if_neg hC2, if_neg hE0, if_pos hF0]

theorem lead_quadruple {b : UInt8} (hlo : 0xF0 ≤ b.toNat) (hhi : b.toNat < 0xF5) :
    lead b = ([], .midway 3 (b.toNat - 0xF0) (if b == 0xF0 then 0x90 else 0x80)
      (if b == 0xF4 then 0x8F else 0xBF)) := by
  have h80 : ¬ b < 0x80 := not_lt_byte (Nat.le_trans (by decide) hlo)
  have hC2 : ¬ b < 0xC2 := not_lt_byte (Nat.le_trans (by decide) hlo)
  have hE0 : ¬ b < 0xE0 := not_lt_byte (Nat.le_trans (by decide) hlo)
  have hF0 : ¬ b < 0xF0 := not_lt_byte hlo
  have hF5 : b < 0xF5 := UInt8.lt_iff_toNat_lt.2 hhi
  unfold lead
  rw [if_neg h80, if_neg hC2, if_neg hE0, if_neg hF0, if_pos hF5]

theorem toNat_sixBits (w : Nat) : (UInt8.ofNat (w % 64 + 128)).toNat = w % 64 + 128 :=
  UInt8.toNat_ofNat_of_lt' (by show w % 64 + 128 < 256; omega)

/-- A byte before the last one adds its six bits to the code, and the next byte
may be any that continues. -/
theorem next_sixBits {left w : Nat} {lo hi : UInt8} (hlo : lo.toNat ≤ w % 64 + 128)
    (hhi : w % 64 + 128 ≤ hi.toNat) :
    (midway (left + 2) (w / 64) lo hi).next (UInt8.ofNat (w % 64 + 128))
      = ([], .midway (left + 1) w 0x80 0xBF) := by
  have hb : lo ≤ UInt8.ofNat (w % 64 + 128) ∧ UInt8.ofNat (w % 64 + 128) ≤ hi := by
    rw [UInt8.le_iff_toNat_le, UInt8.le_iff_toNat_le, toNat_sixBits]
    exact ⟨hlo, hhi⟩
  rw [Utf8State.next, if_pos hb, toNat_sixBits, Nat.add_sub_cancel, Nat.mul_comm, Nat.div_add_mod]

/-- The last byte of a sequence completes the code. -/
theorem next_lastBits (w : Nat) :
    (midway 1 (w / 64) 0x80 0xBF).next (UInt8.ofNat (w % 64 + 128))
      = ([some (Char.ofNat w)], .start) := by
  have hb : (0x80 : UInt8) ≤ UInt8.ofNat (w % 64 + 128)
      ∧ UInt8.ofNat (w % 64 + 128) ≤ (0xBF : UInt8) := by
    rw [UInt8.le_iff_toNat_le, UInt8.le_iff_toNat_le, toNat_sixBits]
    show 0x80 ≤ w % 64 + 128 ∧ w % 64 + 128 ≤ 0xBF
    omega
  rw [Utf8State.next, if_pos hb, toNat_sixBits, Nat.add_sub_cancel, Nat.mul_comm, Nat.div_add_mod]

/-- A bound that depends on the first byte, as a number. -/
theorem toNat_bound (b m x y : UInt8) :
    (if b == m then x else y).toNat = if b.toNat = m.toNat then x.toNat else y.toNat := by
  by_cases h : b = m
  · rw [if_pos (beq_iff_eq.2 h), if_pos (congrArg UInt8.toNat h)]
  · have hne : b.toNat ≠ m.toNat := by
      intro heq
      exact h (UInt8.toNat_inj.1 heq)
    rw [if_neg (by simpa using h), if_neg hne]

/-! ## §2. One character. -/

theorem scanUtf8_cons (state : Utf8State) (b : UInt8) (bytes : List UInt8) :
    scanUtf8 state (b :: bytes) = (state.next b).1 ++ scanUtf8 (state.next b).2 bytes := by
  cases state with
  | start => rfl
  | midway left code lo hi => rfl

variable {v : Nat} {rest : List UInt8}

theorem scan_single (h : v ≤ 0x7F) :
    scanUtf8 .start (UInt8.ofNat v :: rest) = some (Char.ofNat v) :: scanUtf8 .start rest := by
  have hv : (UInt8.ofNat v).toNat = v := UInt8.toNat_ofNat_of_lt' (by show v < 256; omega)
  have hfirst : Utf8State.start.next (UInt8.ofNat v) = ([some (Char.ofNat v)], .start) := by
    show lead (UInt8.ofNat v) = _
    rw [lead_single (by omega), hv]
  rw [scanUtf8_cons, hfirst]
  rfl

theorem scan_double (hlo : 0x7F < v) (hhi : v ≤ 0x7FF) :
    scanUtf8 .start (UInt8.ofNat (v / 64 % 32 + 192) :: UInt8.ofNat (v % 64 + 128) :: rest)
      = some (Char.ofNat v) :: scanUtf8 .start rest := by
  have hv : (UInt8.ofNat (v / 64 % 32 + 192)).toNat = v / 64 + 192 := by
    rw [UInt8.toNat_ofNat_of_lt' (by show v / 64 % 32 + 192 < 256; omega)]
    omega
  have hfirst : Utf8State.start.next (UInt8.ofNat (v / 64 % 32 + 192))
      = ([], .midway 1 (v / 64) 0x80 0xBF) := by
    show lead _ = _
    rw [lead_double (by omega) (by omega), hv, Nat.add_sub_cancel]
  rw [scanUtf8_cons, hfirst, scanUtf8_cons, next_lastBits]
  rfl

theorem scan_triple (hlo : 0x7FF < v) (hhi : v ≤ 0xFFFF) (hvalid : v < 0xD800 ∨ 0xDFFF < v) :
    scanUtf8 .start (UInt8.ofNat (v / 4096 % 16 + 224) :: UInt8.ofNat (v / 64 % 64 + 128)
        :: UInt8.ofNat (v % 64 + 128) :: rest)
      = some (Char.ofNat v) :: scanUtf8 .start rest := by
  have hv : (UInt8.ofNat (v / 4096 % 16 + 224)).toNat = v / 4096 + 224 := by
    rw [UInt8.toNat_ofNat_of_lt' (by show v / 4096 % 16 + 224 < 256; omega)]
    omega
  have hcode : v / 4096 = v / 64 / 64 := by omega
  have hfirst : Utf8State.start.next (UInt8.ofNat (v / 4096 % 16 + 224))
      = ([], .midway 2 (v / 64 / 64)
        (if UInt8.ofNat (v / 4096 % 16 + 224) == 0xE0 then 0xA0 else 0x80)
        (if UInt8.ofNat (v / 4096 % 16 + 224) == 0xED then 0x9F else 0xBF)) := by
    show lead _ = _
    rw [lead_triple (by omega) (by omega), hv, Nat.add_sub_cancel, hcode]
  rw [scanUtf8_cons, hfirst, scanUtf8_cons, next_sixBits, scanUtf8_cons, next_lastBits]
  · rfl
  · -- below A0 behind E0, two bytes would have been enough
    rw [toNat_bound, hv]
    show (if v / 4096 + 224 = 0xE0 then 0xA0 else 0x80) ≤ v / 64 % 64 + 128
    split <;> omega
  · -- above 9F behind ED, the code would be that of a surrogate
    rw [toNat_bound, hv]
    show v / 64 % 64 + 128 ≤ (if v / 4096 + 224 = 0xED then 0x9F else 0xBF)
    split <;> omega

theorem scan_quadruple (hlo : 0xFFFF < v) (hhi : v < 0x110000) :
    scanUtf8 .start (UInt8.ofNat (v / 262144 % 8 + 240) :: UInt8.ofNat (v / 4096 % 64 + 128)
        :: UInt8.ofNat (v / 64 % 64 + 128) :: UInt8.ofNat (v % 64 + 128) :: rest)
      = some (Char.ofNat v) :: scanUtf8 .start rest := by
  have hv : (UInt8.ofNat (v / 262144 % 8 + 240)).toNat = v / 262144 + 240 := by
    rw [UInt8.toNat_ofNat_of_lt' (by show v / 262144 % 8 + 240 < 256; omega)]
    omega
  have hcode : v / 262144 = v / 4096 / 64 := by omega
  have hcode' : v / 4096 = v / 64 / 64 := by omega
  have hfirst : Utf8State.start.next (UInt8.ofNat (v / 262144 % 8 + 240))
      = ([], .midway 3 (v / 4096 / 64)
        (if UInt8.ofNat (v / 262144 % 8 + 240) == 0xF0 then 0x90 else 0x80)
        (if UInt8.ofNat (v / 262144 % 8 + 240) == 0xF4 then 0x8F else 0xBF)) := by
    show lead _ = _
    rw [lead_quadruple (by omega) (by omega), hv, Nat.add_sub_cancel, hcode]
  have hthird : (midway 2 (v / 4096) 0x80 0xBF).next (UInt8.ofNat (v / 64 % 64 + 128))
      = ([], .midway 1 (v / 64) 0x80 0xBF) := by
    rw [hcode', next_sixBits (by show 0x80 ≤ v / 64 % 64 + 128; omega)
      (by show v / 64 % 64 + 128 ≤ 0xBF; omega)]
  rw [scanUtf8_cons, hfirst, scanUtf8_cons, next_sixBits, scanUtf8_cons, hthird, scanUtf8_cons,
    next_lastBits]
  · rfl
  · -- below 90 behind F0, three bytes would have been enough
    rw [toNat_bound, hv]
    show (if v / 262144 + 240 = 0xF0 then 0x90 else 0x80) ≤ v / 4096 % 64 + 128
    split <;> omega
  · -- above 8F behind F4, there are no codes
    rw [toNat_bound, hv]
    show v / 4096 % 64 + 128 ≤ (if v / 262144 + 240 = 0xF4 then 0x8F else 0xBF)
    split <;> omega

/-- The bytes of a character are scanned as that character. -/
theorem scan_encodeChar (c : Char) (rest : List UInt8) :
    scanUtf8 .start (String.utf8EncodeChar c ++ rest) = some c :: scanUtf8 .start rest := by
  have hchar : Char.ofNat c.val.toNat = c := Char.ofNat_toNat c
  have hvalid : c.val.toNat < 0xD800 ∨ (0xDFFF < c.val.toNat ∧ c.val.toNat < 0x110000) := c.valid
  unfold String.utf8EncodeChar
  simp only []
  split
  · next h => rw [List.cons_append, List.nil_append, scan_single h, hchar]
  split
  · next h h' =>
    simp only [List.cons_append, List.nil_append]
    rw [scan_double (by omega) h', hchar]
  split
  · next h h' h'' =>
    simp only [List.cons_append, List.nil_append]
    rw [scan_triple (by omega) h'' (by omega), hchar]
  · next h h' h'' =>
    simp only [List.cons_append, List.nil_append]
    rw [scan_quadruple (by omega) (by omega), hchar]

/-! ## §3. Texts. -/

theorem toList_utf8 (s : String) : (utf8 s).toList = s.toList.flatMap String.utf8EncodeChar := by
  unfold utf8
  show s.toByteArray.data.toList = _
  rw [← String.utf8Encode_toList]
  exact List.toList_data_toByteArray

theorem toList_utf8_append (s t : String) :
    (utf8 (s ++ t)).toList = (utf8 s).toList ++ (utf8 t).toList := by
  rw [toList_utf8, toList_utf8, toList_utf8, String.toList_append, List.flatMap_append]

theorem scan_encodeChars (cs : List Char) :
    scanUtf8 .start (cs.flatMap String.utf8EncodeChar) = cs.map some := by
  induction cs with
  | nil => rfl
  | cons c cs ih => rw [List.flatMap_cons, scan_encodeChar, ih, List.map_cons]

/-- What was written as UTF-8 is read back as it was. -/
theorem decodeLossy_utf8 (s : String) : decodeLossy (utf8 s).toList = s := by
  unfold decodeLossy
  rw [toList_utf8, scan_encodeChars, List.map_map]
  show String.ofList (s.toList.map fun c => c) = s
  rw [List.map_id', String.ofList_toList]

end AnalysisDiagram.Text
