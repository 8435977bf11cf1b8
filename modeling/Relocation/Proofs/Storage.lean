import Relocation.Storage
import Mathlib.Tactic

/-!
# Bytes in storage

This file states what the operations on storage do when no program check stops them.  The first
section shows that the two directions of the big-endian representation undo each other, for every
width up to eight bytes.  The second gives each checked operation its unchecked form: `part` for a
slice, `field` for a fetched value, `put` for an overlay.  The third compares two pieces of storage
byte by byte, so that "nothing but these bytes has changed" carries over to whole fields.

The main results are `toNat_ofBytes_toBytes`, `toBytes_ofBytes` and `getElem?_put`.
-/

namespace Relocation

namespace Doubleword

/-! ### Big-endian values -/

/-- One more byte at the end shifts the value by eight bits and fills them. -/
lemma ofBytes_concat (bytes : List UInt8) (byte : UInt8) :
    ofBytes (bytes ++ [byte]) = ofBytes bytes * 256 + byte.toUInt64 := by
  simp [ofBytes]

/-- A value of at most seven bytes takes in another byte without wrapping around. -/
lemma toNat_mul_add {value : Doubleword} {n : Nat} (hn : n < 8) (hvalue : value.toNat < 256 ^ n)
    (byte : UInt8) : (value * 256 + byte.toUInt64).toNat = value.toNat * 256 + byte.toNat := by
  have hpow : 256 ^ n ≤ 256 ^ 7 := Nat.pow_le_pow_right (by decide) (by omega)
  have hbyte : byte.toNat < 256 := byte.toNat_lt
  rw [UInt64.toNat_add, UInt64.toNat_mul]
  simp
  omega

/-- A string of at most eight bytes has a value below `256` to the power of its length. -/
lemma toNat_ofBytes_lt {bytes : List UInt8} (h : bytes.length ≤ 8) :
    (ofBytes bytes).toNat < 256 ^ bytes.length := by
  induction bytes using List.reverseRecOn with
  | nil => decide
  | append_singleton bytes byte ih =>
    rw [List.length_append, List.length_singleton] at h ⊢
    have hlt : (ofBytes bytes).toNat < 256 ^ bytes.length := ih (by omega)
    have hbyte : byte.toNat < 256 := byte.toNat_lt
    rw [ofBytes_concat, toNat_mul_add h hlt, pow_succ]
    omega

/-- Up to eight bytes the value grows without wrapping around. -/
lemma toNat_ofBytes_concat {bytes : List UInt8} (h : bytes.length < 8) (byte : UInt8) :
    (ofBytes (bytes ++ [byte])).toNat = (ofBytes bytes).toNat * 256 + byte.toNat := by
  rw [ofBytes_concat, toNat_mul_add h (toNat_ofBytes_lt h.le)]

/-- What was written into `n` bytes reads back as its low-order `n` bytes. -/
theorem toNat_ofBytes_toBytes {n : Nat} (h : n ≤ 8) (value : Doubleword) :
    (ofBytes (toBytes n value)).toNat = value.toNat % 256 ^ n := by
  induction n generalizing value with
  | zero => simp [toBytes, ofBytes, Nat.mod_one]
  | succ n ih =>
    have hlen : (toBytes n (value >>> 8)).length < 8 := by rw [length_toBytes]; omega
    rw [toBytes, toNat_ofBytes_concat hlen, ih (by omega), pow_succ, mul_comm (256 ^ n),
      Nat.mod_mul]
    simp [Nat.shiftRight_eq_div_pow]
    omega

/-- The low-order `n` bytes of a value. -/
def truncate (n : Nat) (value : Doubleword) : Doubleword :=
  UInt64.ofNat (value.toNat % 256 ^ n)

/-- The low-order bytes of a value, as a number. -/
lemma toNat_truncate (n : Nat) (value : Doubleword) :
    (truncate n value).toNat = value.toNat % 256 ^ n :=
  UInt64.toNat_ofNat_of_lt' ((Nat.mod_le _ _).trans_lt value.toNat_lt)

/-- A value is its own low-order part exactly when it fits. -/
lemma truncate_eq_self_iff {n : Nat} {value : Doubleword} :
    truncate n value = value ↔ value.toNat < 256 ^ n := by
  rw [← UInt64.toNat_inj, toNat_truncate]
  constructor
  · intro heq
    rw [← heq]
    exact Nat.mod_lt _ (by positivity)
  · exact Nat.mod_eq_of_lt

/-- What was written into `n` bytes reads back truncated. -/
lemma ofBytes_toBytes_eq_truncate {n : Nat} (h : n ≤ 8) (value : Doubleword) :
    ofBytes (toBytes n value) = truncate n value := by
  apply UInt64.toNat_inj.mp
  rw [toNat_ofBytes_toBytes h, toNat_truncate]

/-- A value that fits into `n` bytes reads back unchanged. -/
lemma ofBytes_toBytes {n : Nat} (h : n ≤ 8) {value : Doubleword} (hvalue : value.toNat < 256 ^ n) :
    ofBytes (toBytes n value) = value := by
  rw [ofBytes_toBytes_eq_truncate h, truncate_eq_self_iff.mpr hvalue]

/-- The bytes of a value are those of its high-order part and those of its low-order part. -/
lemma toBytes_add (m n : Nat) {value high : Doubleword}
    (hhigh : high.toNat = value.toNat / 256 ^ n) :
    toBytes (m + n) value = toBytes m high ++ toBytes n value := by
  induction n generalizing value with
  | zero =>
    have heq : high = value := by
      apply UInt64.toNat_inj.mp
      rw [hhigh, pow_zero, Nat.div_one]
    rw [heq, Nat.add_zero, toBytes, List.append_nil]
  | succ n ih =>
    have hshift : high.toNat = (value >>> 8).toNat / 256 ^ n := by
      rw [hhigh, UInt64.toNat_shiftRight, Nat.shiftRight_eq_div_pow, Nat.div_div_eq_div_mul,
        pow_succ, mul_comm (256 ^ n)]
      rfl
    rw [← Nat.add_assoc, toBytes, toBytes, ih hshift, List.append_assoc]

/-- Byte number `i` of a value in `n` bytes. -/
lemma getElem?_toBytes {n i : Nat} (hi : i < n) (value : Doubleword) :
    (toBytes n value)[i]? = some (UInt8.ofNat (value.toNat / 256 ^ (n - 1 - i))) := by
  induction n generalizing value with
  | zero => omega
  | succ n ih =>
    rw [toBytes]
    rcases Nat.lt_succ_iff_lt_or_eq.mp hi with hlt | rfl
    · have hexp : n + 1 - 1 - i = (n - 1 - i) + 1 := by omega
      rw [List.getElem?_append_left (by simpa using hlt), ih hlt, hexp, UInt64.toNat_shiftRight,
        Nat.shiftRight_eq_div_pow, Nat.div_div_eq_div_mul, pow_succ, mul_comm (256 ^ (n - 1 - i))]
      rfl
    · rw [List.getElem?_append_right (by simp), length_toBytes, Nat.sub_self, Nat.add_sub_cancel,
        Nat.sub_self, pow_zero, Nat.div_one]
      rfl

/-- Bytes that were read can be written back from their value. -/
theorem toBytes_ofBytes {bytes : List UInt8} (h : bytes.length ≤ 8) :
    toBytes bytes.length (ofBytes bytes) = bytes := by
  induction bytes using List.reverseRecOn with
  | nil => rfl
  | append_singleton bytes byte ih =>
    rw [List.length_append, List.length_singleton] at h ⊢
    have hlen : bytes.length < 8 := by omega
    have hvalue := toNat_ofBytes_concat hlen byte
    have hbyte : byte.toNat < 256 := byte.toNat_lt
    have hhigh : ofBytes (bytes ++ [byte]) >>> 8 = ofBytes bytes := by
      apply UInt64.toNat_inj.mp
      rw [UInt64.toNat_shiftRight, hvalue]
      simp [Nat.shiftRight_eq_div_pow]
      omega
    have hlow : (ofBytes (bytes ++ [byte])).toUInt8 = byte := by
      apply UInt8.toNat_inj.mp
      rw [UInt64.toNat_toUInt8, hvalue]
      omega
    rw [toBytes, hhigh, hlow, ih (by omega)]

/-- Two values have the same low-order bytes exactly when they agree modulo the power of `256`. -/
lemma toBytes_inj_iff {n : Nat} (h : n ≤ 8) {a b : Doubleword} :
    toBytes n a = toBytes n b ↔ a.toNat % 256 ^ n = b.toNat % 256 ^ n := by
  have hbytes (value : Doubleword) : toBytes n (truncate n value) = toBytes n value := by
    have hback := toBytes_ofBytes ((length_toBytes n value).trans_le h)
    rwa [length_toBytes, ofBytes_toBytes_eq_truncate h] at hback
  constructor
  · intro heq
    rw [← toNat_ofBytes_toBytes h, ← toNat_ofBytes_toBytes h, heq]
  · intro heq
    rw [← hbytes a, ← hbytes b, truncate, truncate, heq]

/-- The value of two strings of bytes that follow each other. -/
lemma toNat_ofBytes_append {xs ys : List UInt8} (h : xs.length + ys.length ≤ 8) :
    (ofBytes (xs ++ ys)).toNat = (ofBytes xs).toNat * 256 ^ ys.length + (ofBytes ys).toNat := by
  induction ys using List.reverseRecOn with
  | nil => simp [ofBytes]
  | append_singleton ys byte ih =>
    rw [List.length_append, List.length_singleton] at h ⊢
    rw [← List.append_assoc, toNat_ofBytes_concat (by simp; omega), ih (by omega),
      toNat_ofBytes_concat (by omega), pow_succ]
    ring

end Doubleword

namespace Storage

/-! ### Storage operations that no check stops -/

/-- The `length` bytes from offset `start` on, as far as they exist. -/
def part (storage : Storage) (start length : Nat) : Storage :=
  (storage.drop start).take length

/-- The value of the `length` bytes from offset `start` on. -/
def field (storage : Storage) (start length : Nat) : Doubleword :=
  Doubleword.ofBytes (storage.part start length)

/-- The byte at an offset, zero where there is none. -/
def byte (storage : Storage) (offset : Nat) : UInt8 :=
  storage[offset]?.getD 0

/-- The storage with `bytes` in the place of what stood at offset `start`. -/
def put (storage : Storage) (start : Nat) (bytes : Storage) : Storage :=
  storage.take start ++ (bytes ++ storage.drop (start + bytes.length))

section Operations

variable {storage : Storage} {start length : Nat}

/-- A part that lies inside the storage has its full length. -/
lemma length_part (h : start + length ≤ storage.length) :
    (storage.part start length).length = length := by
  simp [part]
  omega

/-- A field of at most eight bytes has a value below `256` to the power of its length. -/
lemma toNat_field_lt (storage : Storage) (start : Nat) (hlength : length ≤ 8) :
    (storage.field start length).toNat < 256 ^ length := by
  have hpart : (storage.part start length).length ≤ length := List.length_take_le _ _
  exact (Doubleword.toNat_ofBytes_lt (hpart.trans hlength)).trans_le
    (Nat.pow_le_pow_right (by decide) hpart)

/-- A field that was read can be written back from its value. -/
lemma toBytes_field (h : start + length ≤ storage.length) (hlength : length ≤ 8) :
    Doubleword.toBytes length (storage.field start length) = storage.part start length := by
  have hpart := length_part h
  have hbytes := Doubleword.toBytes_ofBytes (hpart.trans_le hlength)
  rwa [hpart] at hbytes

/-- A slice inside the storage is a part of it. -/
lemma slice_eq (h : start + length ≤ storage.length) :
    storage.slice start length = .ok (storage.part start length) :=
  if_pos h

/-- A slice has as many bytes as were asked for. -/
lemma length_of_slice {bytes : Storage} (h : storage.slice start length = .ok bytes) :
    bytes.length = length := by
  unfold slice at h
  split at h
  · rename_i hinside
    cases h
    exact length_part hinside
  · cases h

/-- A field inside the storage is fetched, if it has at most eight bytes. -/
lemma fetch_eq (h : start + length ≤ storage.length) (hlength : length ≤ 8) :
    storage.fetch start length = .ok (storage.field start length) := by
  have hpart : (storage.part start length).length ≤ 8 := by rwa [length_part h]
  rw [fetch, slice_eq h]
  exact if_pos hpart

/-- Bytes that fit are laid over the storage. -/
lemma overlay_eq {bytes : Storage} (h : start + bytes.length ≤ storage.length) :
    storage.overlay start bytes = .ok (storage.put start bytes) :=
  if_pos h

/-- A field inside the storage is set, if it has at most eight bytes. -/
lemma store_eq (h : start + length ≤ storage.length) (hlength : length ≤ 8) (value : Doubleword) :
    storage.store start length value =
      .ok (storage.put start (Doubleword.toBytes length value)) := by
  have hwrite : Doubleword.write length value = .ok (Doubleword.toBytes length value) :=
    if_pos hlength
  rw [store, hwrite]
  exact overlay_eq (by rwa [Doubleword.length_toBytes])

/-- Looking up a byte inside the storage. -/
lemma getElem?_eq_byte {offset : Nat} (h : offset < storage.length) :
    storage[offset]? = some (storage.byte offset) := by
  rw [byte, List.getElem?_eq_getElem h, Option.getD_some]

/-- A byte inside the storage is found. -/
lemma byteAt_eq {offset : Nat} (h : offset < storage.length) :
    storage.byteAt offset = .ok (storage.byte offset) := by
  rw [byteAt, getElem?_eq_byte h]

/-- The bytes behind an offset inside the storage. -/
lemma after_eq (h : start ≤ storage.length) :
    storage.after start = .ok (storage.drop start) :=
  if_pos h

end Operations

/-! ### Storage byte by byte -/

section Bytewise

variable {storage bytes : Storage} {start : Nat}

/-- The bytes of a part are bytes of the storage. -/
lemma getElem?_part (storage : Storage) (start length i : Nat) :
    (storage.part start length)[i]? = if i < length then storage[start + i]? else none := by
  simp [part, List.getElem?_take]

/-- A part of what follows an offset is a part of the storage further on. -/
lemma part_drop (storage : Storage) (offset start length : Nat) :
    part (storage.drop offset) start length = storage.part (offset + start) length := by
  rw [part, part, List.drop_drop]

/-- Behind the first of two pieces of storage come the parts of the second. -/
lemma part_append_right (s t : Storage) (start length : Nat) :
    part (s ++ t) (s.length + start) length = part t start length := by
  rw [part, part, List.drop_length_add_append]

/-- The parts of the first of two pieces of storage do not depend on the second. -/
lemma part_append_left {s : Storage} {start length : Nat} (h : start + length ≤ s.length)
    (t : Storage) : part (s ++ t) start length = part s start length := by
  rw [part, part, List.drop_append_of_le_length (by omega),
    List.take_append_of_le_length (by rw [List.length_drop]; omega)]

/-- All of a piece of storage is a part of it. -/
lemma part_all (s : Storage) : part s 0 s.length = s := by
  rw [part, List.drop_zero, List.take_length]

/-- A part consists of the parts that follow each other in it. -/
lemma part_add (storage : Storage) (start m n : Nat) :
    storage.part start (m + n) = storage.part start m ++ storage.part (start + m) n := by
  rw [part, part, part, List.take_add, List.drop_drop]

/-- The value of a field, from the values of the fields that follow each other in it. -/
lemma toNat_field_add {m n : Nat} (h : start + (m + n) ≤ storage.length) (hlength : m + n ≤ 8) :
    (storage.field start (m + n)).toNat =
      (storage.field start m).toNat * 256 ^ n + (storage.field (start + m) n).toNat := by
  have hm := length_part (by omega : start + m ≤ storage.length)
  have hn := length_part (by omega : start + m + n ≤ storage.length)
  rw [field, part_add, Doubleword.toNat_ofBytes_append (by omega), hn]
  rfl

/-- Overlaying keeps the length. -/
lemma length_put (h : start + bytes.length ≤ storage.length) :
    (storage.put start bytes).length = storage.length := by
  simp [put]
  omega

/-- After overlaying, the new bytes stand in their place and all others are as before. -/
theorem getElem?_put (h : start + bytes.length ≤ storage.length) (i : Nat) :
    (storage.put start bytes)[i]? =
      if start ≤ i ∧ i < start + bytes.length then bytes[i - start]? else storage[i]? := by
  have htake : (storage.take start).length = start := by simp; omega
  unfold put
  rcases Nat.lt_or_ge i start with hi | hi
  · rw [List.getElem?_append_left (by omega), List.getElem?_take_of_lt hi, if_neg (by omega)]
  · rw [List.getElem?_append_right (by omega), htake]
    rcases Nat.lt_or_ge i (start + bytes.length) with hi' | hi'
    · rw [List.getElem?_append_left (by omega), if_pos ⟨hi, hi'⟩]
    · rw [List.getElem?_append_right (by omega), List.getElem?_drop, if_neg (by omega)]
      congr 1
      omega

/-- A byte outside the overlaid bytes is as before. -/
lemma getElem?_put_of_apart (h : start + bytes.length ≤ storage.length) {i : Nat}
    (hi : i < start ∨ start + bytes.length ≤ i) : (storage.put start bytes)[i]? = storage[i]? := by
  rw [getElem?_put h, if_neg (by omega)]

/-- What was overlaid can be read back. -/
lemma part_put (h : start + bytes.length ≤ storage.length) :
    (storage.put start bytes).part start bytes.length = bytes := by
  apply List.ext_getElem?
  intro i
  rw [getElem?_part, getElem?_put h]
  split
  · rw [if_pos (by omega), Nat.add_sub_cancel_left]
  · rw [List.getElem?_eq_none (by omega)]

/-- Bytes that are put back where they were read change nothing. -/
lemma put_part {length : Nat} (h : start + length ≤ storage.length) :
    storage.put start (storage.part start length) = storage := by
  have hlength := length_part h
  apply List.ext_getElem?
  intro i
  rw [getElem?_put (by rwa [hlength]), getElem?_part, hlength]
  split
  · rw [if_pos (by omega), Nat.add_sub_cancel' (by omega)]
  · rfl

/-- Bytes that are put back where they were read need not be written. -/
lemma put_part_append {length : Nat} (h : start + length + bytes.length ≤ storage.length) :
    storage.put start (storage.part start length ++ bytes) = storage.put (start + length) bytes := by
  have hlength := length_part (by omega : start + length ≤ storage.length)
  apply List.ext_getElem?
  intro i
  rw [getElem?_put (by rw [List.length_append]; omega), getElem?_put h, List.length_append, hlength]
  rcases Nat.lt_or_ge i (start + length) with hi | hi
  · rw [if_neg (by omega : ¬ (start + length ≤ i ∧ _))]
    split
    · rw [List.getElem?_append_left (by omega), getElem?_part, if_pos (by omega),
        Nat.add_sub_cancel' (by omega)]
    · rfl
  · rw [List.getElem?_append_right (by omega), hlength, Nat.sub_sub]
    exact if_congr (by omega) rfl rfl

end Bytewise

/-- Two pieces of storage have the same bytes from offset `start` up to offset `stop`. -/
def AgreesOn (s t : Storage) (start stop : Nat) : Prop :=
  ∀ i, start ≤ i → i < stop → s[i]? = t[i]?

namespace AgreesOn

variable {s t u : Storage} {start stop : Nat}

/-- Every piece of storage agrees with itself. -/
lemma refl (s : Storage) (start stop : Nat) : s.AgreesOn s start stop :=
  fun _ _ _ => rfl

/-- Agreement is handed on. -/
lemma trans (h : s.AgreesOn t start stop) (h' : t.AgreesOn u start stop) :
    s.AgreesOn u start stop :=
  fun i hi hi' => (h i hi hi').trans (h' i hi hi')

/-- Agreement does not depend on which storage is named first. -/
lemma symm (h : s.AgreesOn t start stop) : t.AgreesOn s start stop :=
  fun i hi hi' => (h i hi hi').symm

/-- Agreement holds in every narrower range. -/
lemma mono (h : s.AgreesOn t start stop) {a b : Nat} (ha : start ≤ a) (hb : b ≤ stop) :
    s.AgreesOn t a b :=
  fun i hi hi' => h i (ha.trans hi) (hi'.trans_le hb)

/-- Storage that agrees has the same parts. -/
lemma part_eq (h : s.AgreesOn t start stop) {a length : Nat} (ha : start ≤ a)
    (hstop : a + length ≤ stop) : s.part a length = t.part a length := by
  apply List.ext_getElem?
  intro i
  rw [getElem?_part, getElem?_part]
  split
  · exact h _ (by omega) (by omega)
  · rfl

/-- Storage that agrees has the same fields. -/
lemma field_eq (h : s.AgreesOn t start stop) {a length : Nat} (ha : start ≤ a)
    (hstop : a + length ≤ stop) : s.field a length = t.field a length := by
  rw [field, field, h.part_eq ha hstop]

/-- Storage that agrees has the same bytes. -/
lemma byte_eq (h : s.AgreesOn t start stop) {i : Nat} (hi : start ≤ i) (hi' : i < stop) :
    s.byte i = t.byte i := by
  rw [byte, byte, h i hi hi']

/-- Agreement behind an offset. -/
lemma drop (h : s.AgreesOn t start stop) (offset : Nat) :
    AgreesOn (s.drop offset) (t.drop offset) (start - offset) (stop - offset) := by
  intro i hi hi'
  rw [List.getElem?_drop, List.getElem?_drop]
  exact h _ (by omega) (by omega)

/-- Overlaying bytes outside a range leaves the range as it was. -/
lemma put {bytes : Storage} {a : Nat} (h : a + bytes.length ≤ s.length)
    (hapart : a + bytes.length ≤ start ∨ stop ≤ a) : AgreesOn (s.put a bytes) s start stop :=
  fun _ _ _ => getElem?_put_of_apart h (by omega)

/-- Overlaying the same bytes keeps agreement. -/
lemma put_both (h : s.AgreesOn t start stop) {bytes : Storage} {a : Nat}
    (hs : a + bytes.length ≤ s.length) (ht : a + bytes.length ≤ t.length) :
    AgreesOn (s.put a bytes) (t.put a bytes) start stop := by
  intro i hi hi'
  rw [getElem?_put hs, getElem?_put ht, h i hi hi']

end AgreesOn

end Storage

end Relocation
