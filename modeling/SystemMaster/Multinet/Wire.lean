import Mathlib.Algebra.Order.Ring.Nat
import Mathlib.Data.List.Basic

/-!
# Entries and inputs on the wire

What the boxes mean by the bytes they send and get. A routing entry is a word, high
byte first: the state of the input in bit 0, the virtual input of the destination in
bits 1 to 5, its address in bits 6 to 10 and its type in bits 11 to 13. An input on
its way to a box is a byte: the state in bit 0, the virtual input in bits 1 to 5.
-/

namespace SystemMaster.Multinet.Wire

abbrev Pair := BitVec 5 × Bool

def words : List UInt8 → List (BitVec 16)
  | high :: low :: data => (high.toBitVec ++ low.toBitVec) :: words data
  | _ => []

def pairOfWord (w : BitVec 16) : Pair := (w.extractLsb' 1 5, w.getLsbD 0)

def pairOfByte (b : UInt8) : Pair := (b.toBitVec.extractLsb' 1 5, b.toBitVec.getLsbD 0)

/-- A box is the type and the address of an entry; type 2 is a relay box, type 3 a
temperature box, and no other takes inputs. -/
def addressedTo (box : UInt8) (w : BitVec 16) : Bool :=
  (w.extractLsb' 11 3 = 2 ∨ w.extractLsb' 11 3 = 3) ∧
    box.toBitVec = w.extractLsb' 11 3 ++ w.extractLsb' 6 5

def pairsFor (box : UInt8) (ws : List (BitVec 16)) : List Pair :=
  (ws.filter (addressedTo box)).map pairOfWord

variable {box high low : UInt8} {ws : List (BitVec 16)}

theorem toNat_append {m n : Nat} (x : BitVec m) (y : BitVec n) :
    (x ++ y).toNat = x.toNat * 2 ^ n + y.toNat := by
  rw [BitVec.toNat_append, ← Nat.shiftLeft_add_eq_or_of_lt y.isLt, Nat.shiftLeft_eq]

theorem toNat_word : (high.toBitVec ++ low.toBitVec).toNat = low.toNat + 256 * high.toNat := by
  rw [toNat_append, Nat.add_comm, Nat.mul_comm]
  rfl

theorem pairsFor_cons {w : BitVec 16} :
    pairsFor box (w :: ws) = (if addressedTo box w then [pairOfWord w] else []) ++ pairsFor box ws := by
  rw [pairsFor, List.filter_cons]
  split <;> rfl

end SystemMaster.Multinet.Wire
