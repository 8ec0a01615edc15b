import SystemMaster.Library.LittleEndian

/-!
# Fixed-size layouts

A codec lays a value out in a fixed number of bytes and reads it back. Codecs
of structures are built from those of their fields; a load from memory then
splits into loads of the fields at their offsets.
-/

namespace SystemMaster

structure Codec (α : Type) where
  size : Nat
  encode : α → List UInt8
  decode : List UInt8 → α
  encode_length : ∀ a, (encode a).length = size
  decode_encode : ∀ a, decode (encode a) = a

namespace Codec

open LittleEndian

attribute [simp] encode_length decode_encode

variable {α β : Type} {c : Codec α} {d : Codec β} {m : Memory UInt8} {off off' n : Nat} {a : α}

def u8 : Codec UInt8 where
  size := 1
  encode b := [b]
  decode bs := bs.headD 0
  encode_length _ := rfl
  decode_encode _ := rfl

def u16 : Codec UInt16 where
  size := 2
  encode v := toBytes 2 v.toNat
  decode bs := UInt16.ofNat (ofBytes bs)
  encode_length _ := toBytes_length
  decode_encode v := by rw [ofBytes_toBytes v.toNat_lt, UInt16.ofNat_toNat]

def u32 : Codec UInt32 where
  size := 4
  encode v := toBytes 4 v.toNat
  decode bs := UInt32.ofNat (ofBytes bs)
  encode_length _ := toBytes_length
  decode_encode v := by rw [ofBytes_toBytes v.toNat_lt, UInt32.ofNat_toNat]

def prod (c : Codec α) (d : Codec β) : Codec (α × β) where
  size := c.size + d.size
  encode ab := c.encode ab.1 ++ d.encode ab.2
  decode bs := (c.decode (bs.take c.size), d.decode (bs.drop c.size))
  encode_length ab := by simp
  decode_encode ab := by
    rw [List.take_left' (c.encode_length _), List.drop_left' (c.encode_length _)]
    simp

/-- The layout of `β` as that of the `α` it is made of. -/
def map (c : Codec α) (f : α → β) (g : β → α) (h : ∀ b, f (g b) = b) : Codec β where
  size := c.size
  encode b := c.encode (g b)
  decode bs := f (c.decode bs)
  encode_length _ := c.encode_length _
  decode_encode b := by rw [c.decode_encode, h]

/-- Zero bytes after the value, as the compiler leaves for alignment. -/
def pad (n : Nat) (c : Codec α) : Codec α where
  size := c.size + n
  encode a := c.encode a ++ List.replicate n 0
  decode bs := c.decode (bs.take c.size)
  encode_length a := by simp
  decode_encode a := by rw [List.take_left' (c.encode_length _), c.decode_encode]

theorem drop_take_flatMap {γ : Type} {g : α → List γ} {k : Nat} (hg : ∀ a, (g a).length = k)
    (as : List α) (i : Nat) (hi : i < as.length) :
    ((as.flatMap g).drop (i * k)).take k = g as[i] := by
  induction as generalizing i with
  | nil => exact absurd hi (Nat.not_lt_zero i)
  | cons a as ih =>
    cases i with
    | zero =>
      rw [List.flatMap_cons, Nat.zero_mul, List.drop_zero, List.take_left' (hg _)]
      rfl
    | succ i =>
      rw [List.flatMap_cons, Nat.succ_mul, Nat.add_comm, ← List.drop_drop, List.drop_left' (hg _)]
      exact ih i (by simpa using hi)

def vector (c : Codec α) (n : Nat) : Codec (Vector α n) where
  size := n * c.size
  encode as := as.toList.flatMap c.encode
  decode bs := Vector.ofFn fun i => c.decode ((bs.drop (i * c.size)).take c.size)
  encode_length as := by simp [List.length_flatMap]
  decode_encode as := by
    ext i hi
    rw [Vector.getElem_ofFn, drop_take_flatMap c.encode_length _ i (by simpa using hi),
      c.decode_encode]
    rfl

/-- Every text of the right length is the layout of a value: the codec has no padding. -/
def Onto (c : Codec α) : Prop := ∀ bs : List UInt8, bs.length = c.size → c.encode (c.decode bs) = bs

theorem u8_onto : u8.Onto := by
  intro bs hbs
  obtain ⟨b, rfl⟩ := List.length_eq_one_iff.mp hbs
  rfl

theorem u16_onto : u16.Onto := by
  intro bs hbs
  have hlen : bs.length = 2 := hbs
  have hlt : ofBytes bs < 256 ^ 2 := hlen ▸ ofBytes_lt bs
  change toBytes 2 (UInt16.ofNat (ofBytes bs)).toNat = bs
  rw [UInt16.toNat_ofNat_of_lt' hlt, ← hlen, toBytes_ofBytes]

theorem u32_onto : u32.Onto := by
  intro bs hbs
  have hlen : bs.length = 4 := hbs
  have hlt : ofBytes bs < 256 ^ 4 := hlen ▸ ofBytes_lt bs
  change toBytes 4 (UInt32.ofNat (ofBytes bs)).toNat = bs
  rw [UInt32.toNat_ofNat_of_lt' hlt, ← hlen, toBytes_ofBytes]

def swap (c : Codec α) (a : α) : α := c.decode (c.encode a).reverse

/-- The layout with its bytes in the opposite order: of a word, the highest first. -/
def reversed (c : Codec α) : Codec α where
  size := c.size
  encode a := (c.encode a).reverse
  decode bs := c.decode bs.reverse
  encode_length a := by rw [List.length_reverse, c.encode_length]
  decode_encode a := by rw [List.reverse_reverse, c.decode_encode]

theorem Onto.encode_swap (hc : c.Onto) (a : α) : c.encode (c.swap a) = c.reversed.encode a :=
  hc _ (by rw [List.length_reverse, c.encode_length])

theorem Onto.swap_decode (hc : c.Onto) {bs : List UInt8} (hbs : bs.length = c.size) :
    c.swap (c.decode bs) = c.reversed.decode bs := by
  rw [swap, hc bs hbs]
  rfl

theorem Onto.swap_swap (hc : c.Onto) (a : α) : c.swap (c.swap a) = a := by
  rw [swap, swap, hc _ (by simp), List.reverse_reverse, c.decode_encode]

theorem Onto.prod (hc : c.Onto) (hd : d.Onto) : (c.prod d).Onto := by
  intro bs hbs
  have hlen : bs.length = c.size + d.size := hbs
  change c.encode (c.decode (bs.take c.size)) ++ d.encode (d.decode (bs.drop c.size)) = bs
  rw [hc _ (by rw [List.length_take]; omega), hd _ (by rw [List.length_drop]; omega),
    List.take_append_drop]

theorem Onto.map {f : α → β} {g : β → α} {h : ∀ b, f (g b) = b} (hc : c.Onto)
    (hinv : ∀ a, g (f a) = a) : (c.map f g h).Onto := by
  intro bs hbs
  change c.encode (g (f (c.decode bs))) = bs
  rw [hinv, hc bs hbs]

theorem Onto.vector (hc : c.Onto) (n : Nat) : (c.vector n).Onto := by
  intro bs hbs
  have hlen : bs.length = n * c.size := hbs
  change (Vector.ofFn fun i : Fin n =>
    c.decode ((bs.drop (i * c.size)).take c.size)).toList.flatMap c.encode = bs
  rw [Vector.toList_ofFn]
  induction n generalizing bs with
  | zero =>
    rw [Nat.zero_mul, List.length_eq_zero_iff] at hlen
    rw [hlen]
    rfl
  | succ n ih =>
    rw [Nat.succ_mul] at hlen
    have hrest : (bs.drop c.size).length = n * c.size := by
      rw [List.length_drop]
      omega
    have hpiece : ∀ i : Fin n,
        bs.drop ((i.succ : Nat) * c.size) = (bs.drop c.size).drop (i * c.size) := by
      intro i
      rw [List.drop_drop, Fin.val_succ, Nat.succ_mul, Nat.add_comm]
    simp only [List.ofFn_succ, List.flatMap_cons, hpiece]
    rw [ih _ hrest hrest, Fin.val_zero, Nat.zero_mul, List.drop_zero,
      hc _ (by rw [List.length_take]; omega), List.take_append_drop]

def load (c : Codec α) (m : Memory UInt8) (off : Nat) : α := c.decode (m.read off c.size)

def store (c : Codec α) (m : Memory UInt8) (off : Nat) (a : α) : Memory UInt8 :=
  m.write off (c.encode a)

@[simp] theorem load_store : c.load (c.store m off a) off = a := by
  have hread := Memory.read_write m off (c.encode a)
  rw [c.encode_length] at hread
  rw [load, store, hread, c.decode_encode]

theorem store_load_u32 (m : Memory UInt8) (off : Nat) : u32.store m off (u32.load m off) = m := by
  refine (Memory.eq_write ?_ fun _ _ => rfl).symm
  rw [u32.encode_length]
  exact (wordBytes_word m off).symm

theorem load_store_of_disjoint {b : β} (h : off + c.size ≤ off' ∨ off' + d.size ≤ off) :
    c.load (d.store m off' b) off = c.load m off := by
  rw [load, store, Memory.read_write_of_disjoint (by rwa [d.encode_length]), load]

theorem load_prod : (c.prod d).load m off = (c.load m off, d.load m (off + c.size)) := by
  change (c.decode ((m.read off (c.size + d.size)).take c.size),
    d.decode ((m.read off (c.size + d.size)).drop c.size)) = _
  rw [Memory.read_take (by omega), Memory.read_drop (by omega), Nat.add_sub_cancel_left]
  rfl

theorem load_map {f : α → β} {g : β → α} {h : ∀ b, f (g b) = b} :
    (c.map f g h).load m off = f (c.load m off) := rfl

end SystemMaster.Codec
