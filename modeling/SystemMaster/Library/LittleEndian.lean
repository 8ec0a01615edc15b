import SystemMaster.Library.Memory
import Mathlib.Tactic.Ring

/-!
# Little-endian words

Numbers as a given count of bytes, lowest first, and 32-bit words in a byte
memory.
-/

namespace SystemMaster.LittleEndian

variable {m : Memory UInt8} {bs cs : List UInt8} {n k v w off off' : Nat}

def toBytes : Nat → Nat → List UInt8
  | 0, _ => []
  | n + 1, v => UInt8.ofNat v :: toBytes n (v / 256)

def ofBytes : List UInt8 → Nat
  | [] => 0
  | b :: bs => b.toNat + 256 * ofBytes bs

/-- The bit of a word that lies in these bytes. -/
def bitAt (bs : List UInt8) (n : Nat) : Option Bool :=
  bs[n / 8]?.map fun b => b.toNat.testBit (n % 8)

@[simp] theorem toBytes_length : (toBytes n v).length = n := by
  induction n generalizing v with
  | zero => rfl
  | succ n ih => rw [toBytes, List.length_cons, ih]

theorem ofBytes_lt (bs : List UInt8) : ofBytes bs < 256 ^ bs.length := by
  induction bs with
  | nil => exact Nat.one_pos
  | cons b bs ih =>
    have hb : b.toNat < 256 := b.toNat_lt
    rw [ofBytes, List.length_cons, Nat.pow_succ]
    omega

theorem ofBytes_toBytes (h : v < 256 ^ n) : ofBytes (toBytes n v) = v := by
  induction n generalizing v with
  | zero =>
    rw [Nat.pow_zero] at h
    rw [toBytes, ofBytes]
    omega
  | succ n ih =>
    have hdiv : v / 256 < 256 ^ n := by
      rw [Nat.pow_succ] at h
      exact Nat.div_lt_of_lt_mul (by rwa [Nat.mul_comm])
    have hmod : (UInt8.ofNat v).toNat = v % 256 := UInt8.toNat_ofNat'
    rw [toBytes, ofBytes, ih hdiv, hmod, Nat.mod_add_div]

theorem toBytes_ofBytes (bs : List UInt8) : toBytes bs.length (ofBytes bs) = bs := by
  induction bs with
  | nil => rfl
  | cons b bs ih =>
    have hb : b.toNat < 256 := b.toNat_lt
    have hhead : UInt8.ofNat (b.toNat + 256 * ofBytes bs) = b := by
      rw [← UInt8.toNat_inj, UInt8.toNat_ofNat']
      omega
    have htail : (b.toNat + 256 * ofBytes bs) / 256 = ofBytes bs := by omega
    rw [List.length_cons, toBytes, ofBytes, hhead, htail, ih]

theorem ofBytes_testBit : (ofBytes bs).testBit n = (bitAt bs n).getD false := by
  induction bs generalizing n with
  | nil => simp [ofBytes, bitAt]
  | cons b bs ih =>
    have hlow := Nat.testBit_two_pow_mul_add (ofBytes bs) (i := 8) b.toNat_lt n
    rw [ofBytes, Nat.add_comm, hlow]
    by_cases hn : n < 8
    · have hdiv : n / 8 = 0 := Nat.div_eq_of_lt hn
      simp [bitAt, hn, hdiv, Nat.mod_eq_of_lt hn]
    · have hdiv : n / 8 = (n - 8) / 8 + 1 := by omega
      have hmod : n % 8 = (n - 8) % 8 := by omega
      rw [if_neg hn, ih, bitAt, bitAt, hdiv, hmod, List.getElem?_cons_succ]

def wordBytes (w : UInt32) : List UInt8 := toBytes 4 w.toNat

def word (m : Memory UInt8) (off : Nat) : UInt32 := UInt32.ofNat (ofBytes (m.read off 4))

def storeWord (m : Memory UInt8) (off : Nat) (w : UInt32) : Memory UInt8 :=
  m.write off (wordBytes w)

@[simp] theorem wordBytes_length (w : UInt32) : (wordBytes w).length = 4 := toBytes_length

theorem wordBytes_injective : Function.Injective wordBytes := fun v w h => by
  have hv := ofBytes_toBytes (n := 4) v.toNat_lt
  rw [← wordBytes, h, wordBytes, ofBytes_toBytes (n := 4) w.toNat_lt] at hv
  exact UInt32.toNat_inj.mp hv.symm

theorem wordBytes_word (m : Memory UInt8) (off : Nat) : wordBytes (word m off) = m.read off 4 := by
  have hlt : ofBytes (m.read off 4) < 2 ^ 32 := by
    have := ofBytes_lt (m.read off 4)
    rw [Memory.read_length] at this
    exact this
  rw [wordBytes, word, UInt32.toNat_ofNat_of_lt' hlt]
  have := toBytes_ofBytes (m.read off 4)
  rwa [Memory.read_length] at this

theorem word_eq_of_read {w : UInt32} (h : m.read off 4 = wordBytes w) : word m off = w := by
  have hlt : w.toNat < 256 ^ 4 := w.toNat_lt
  rw [word, h, wordBytes, ofBytes_toBytes hlt, UInt32.ofNat_toNat]

@[simp] theorem word_storeWord (w : UInt32) : word (storeWord m off w) off = w := by
  refine word_eq_of_read ?_
  conv_lhs => rw [← wordBytes_length w]
  exact Memory.read_write _ _ _

def words (m : Memory UInt8) (off n : Nat) : List UInt32 :=
  (List.range n).map fun i => word m (off + 4 * i)

@[simp] theorem words_length : (words m off n).length = n := by simp [words]

theorem words_add : words m off (n + k) = words m off n ++ words m (off + 4 * n) k := by
  simp only [words, List.range_add, List.map_append, List.map_map]
  congr 1
  exact List.map_congr_left fun i _ => by
    rw [Function.comp_apply, Nat.mul_add, Nat.add_assoc]

theorem words_one : words m off 1 = [word m off] := by simp [words]

theorem words_congr {m' : Memory UInt8} (h : m.read off (4 * n) = m'.read off' (4 * n)) :
    words m off n = words m' off' n := by
  induction n generalizing off off' with
  | zero => rfl
  | succ n ih =>
    rw [show 4 * (n + 1) = 4 + 4 * n by ring, Memory.read_append, Memory.read_append] at h
    obtain ⟨hhead, htail⟩ := List.append_inj h (by simp)
    rw [Nat.add_comm n 1, words_add, words_add, words_one, words_one, word, word, hhead, ih htail]

end SystemMaster.LittleEndian
