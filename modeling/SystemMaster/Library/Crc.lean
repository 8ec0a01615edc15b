import Mathlib.Data.List.Basic
import Mathlib.Logic.Function.Iterate

/-!
# Cyclic redundancy checks

A register of `w` bits shifts one place for each bit fed to it and takes the polynomial
in when a one leaves at its top. Feeding is linear in exclusive or, so what an error does
to a check is what the register makes of the error alone.
-/

namespace SystemMaster.Crc

variable {w : Nat} {poly c d x y : BitVec w} {b : Bool} {bs xs ys : List Bool} {i j n : Nat}

/-- The bit at the top of a register. -/
def top (w : Nat) (b : Bool) : BitVec w := if b then BitVec.twoPow w (w - 1) else 0#w

def shift (poly c : BitVec w) : BitVec w := if c.msb then (c <<< 1) ^^^ poly else c <<< 1

def feed (poly c : BitVec w) (b : Bool) : BitVec w := shift poly (c ^^^ top w b)

/-- What the register holds after these bits. -/
def register (poly seed : BitVec w) (bs : List Bool) : BitVec w := bs.foldl (feed poly) seed

/-- The bits as they lie in a register, the first at its top. -/
def pack (w : Nat) : List Bool → BitVec w
  | [] => 0#w
  | b :: bs => (pack w bs >>> 1) ^^^ top w b

def bits (x : BitVec w) : List Bool := (List.range w).map x.getMsbD

@[simp] theorem register_nil : register poly c [] = c := rfl

@[simp] theorem register_cons :
    register poly c (b :: bs) = register poly (feed poly c b) bs := rfl

@[simp] theorem register_append :
    register poly c (xs ++ ys) = register poly (register poly c xs) ys := List.foldl_append

@[simp] theorem bits_length : (bits x).length = w := by simp [bits]

theorem bits_append {v : Nat} (x : BitVec w) (y : BitVec v) :
    bits (x ++ y) = bits x ++ bits y := by
  apply List.ext_getElem (by simp)
  intro i _ _
  simp only [bits, List.getElem_append, List.getElem_map, List.getElem_range, List.length_map,
    List.length_range, BitVec.getMsbD_append]
  split
  case isTrue h => rw [dif_neg (by omega)]
  case isFalse h => rw [dif_pos (by omega)]

@[simp] theorem getMsbD_top : (top w b).getMsbD i = (b && decide (i = 0 ∧ 0 < w)) := by
  cases b with
  | false => simp [top]
  | true =>
    simp only [top, ↓reduceIte, BitVec.getMsbD, BitVec.getLsbD_twoPow, Bool.true_and]
    grind

-- ---------------------------------------------------------------------------
-- Feeding is linear
-- ---------------------------------------------------------------------------

theorem shift_xor (poly x y : BitVec w) : shift poly (x ^^^ y) = shift poly x ^^^ shift poly y := by
  have hcancel (a b : BitVec w) : a ^^^ b = a ^^^ poly ^^^ (b ^^^ poly) := by
    rw [BitVec.xor_assoc, BitVec.xor_comm b, ← BitVec.xor_assoc poly, BitVec.xor_self,
      BitVec.zero_xor]
  simp only [shift, BitVec.msb_xor, BitVec.shiftLeft_xor_distrib]
  cases x.msb <;> cases y.msb
  · simp
  · simp [BitVec.xor_assoc]
  · simp only [Bool.bne_false, ↓reduceIte, Bool.false_eq_true]
    ac_rfl
  · simpa using hcancel _ _

@[simp] theorem shift_zero : shift poly 0#w = 0#w := by simp [shift]

@[simp] theorem shift_iterate_zero : (shift poly)^[n] 0#w = 0#w := by
  induction n with
  | zero => rfl
  | succ n ih => rw [Function.iterate_succ_apply, shift_zero, ih]

theorem top_xor (a b : Bool) : top w (a ^^ b) = top w a ^^^ top w b := by
  cases a <;> cases b <;> simp [top]

theorem feed_xor (a b : Bool) : feed poly (c ^^^ d) (a ^^ b) = feed poly c a ^^^ feed poly d b := by
  rw [feed, feed, feed, ← shift_xor, top_xor]
  congr 1
  ac_rfl

theorem register_xor (h : xs.length = ys.length) :
    register poly (c ^^^ d) (List.zipWith xor xs ys) = register poly c xs ^^^ register poly d ys := by
  induction xs generalizing ys c d with
  | nil =>
    cases ys with
    | nil => rfl
    | cons => cases h
  | cons a xs ih =>
    cases ys with
    | nil => cases h
    | cons b ys =>
      simp only [List.zipWith_cons_cons, register_cons, feed_xor]
      exact ih (Nat.succ.inj h)

theorem register_difference (h : xs.length = ys.length) :
    register poly 0#w (List.zipWith xor xs ys) = register poly c xs ^^^ register poly c ys := by
  have hxor : register poly (c ^^^ c) (List.zipWith xor xs ys) =
      register poly c xs ^^^ register poly c ys := register_xor h
  simpa using hxor

@[simp] theorem register_replicate_false :
    register poly c (List.replicate n false) = (shift poly)^[n] c := by
  induction n generalizing c with
  | zero => rfl
  | succ n ih => simp [List.replicate_succ, feed, top, ih]

theorem getMsbD_pack (h : bs.length ≤ w) (i : Nat) : (pack w bs).getMsbD i = bs.getD i false := by
  induction bs generalizing i with
  | nil => simp [pack]
  | cons b bs ih =>
    have hw : 0 < w := Nat.lt_of_lt_of_le (Nat.succ_pos _) h
    rw [List.length_cons] at h
    simp only [pack, BitVec.getMsbD_xor, BitVec.getMsbD_ushiftRight, getMsbD_top]
    cases i with
    | zero => simp [hw]
    | succ i =>
      simp only [Nat.add_sub_cancel, ih (by omega), List.getD_cons_succ]
      by_cases hi : i + 1 < w
      · simp [hi]
      · simp [hi, List.getElem?_eq_none (by omega : bs.length ≤ i)]

theorem pack_bits : pack w (bits x) = x := by
  apply BitVec.eq_of_getMsbD_eq
  intro i hi
  rw [getMsbD_pack (by simp)]
  simp [bits, hi]

theorem pack_eq_zero_iff (h : bs.length ≤ w) : pack w bs = 0#w ↔ ∀ b ∈ bs, b = false := by
  constructor
  · intro hzero b hb
    obtain ⟨i, hi, rfl⟩ := List.mem_iff_getElem.mp hb
    have hbit := getMsbD_pack h i
    simpa [hzero, hi] using hbit.symm
  · intro hall
    apply BitVec.eq_of_getMsbD_eq
    intro i _
    rw [getMsbD_pack h]
    by_cases hi : i < bs.length
    · simpa [hi] using hall _ (List.getElem_mem hi)
    · simp [hi]

/-- Bits that fit into the register go in as one word. -/
theorem register_eq_iterate (h : bs.length ≤ w) :
    register poly c bs = (shift poly)^[bs.length] (c ^^^ pack w bs) := by
  induction bs generalizing c with
  | nil => simp [pack]
  | cons b bs ih =>
    rw [List.length_cons] at h
    have hmsb : (pack w bs >>> 1).msb = false := by simp [BitVec.msb_ushiftRight]
    have hshift : shift poly (pack w bs >>> 1) = pack w bs := by
      rw [shift, hmsb]
      apply BitVec.eq_of_getMsbD_eq
      intro i hi
      have hend : bs.length ≤ i → (pack w bs).getMsbD i = false := by
        intro hle
        rw [getMsbD_pack (by omega)]
        simp [hle]
      simp only [Bool.false_eq_true, ↓reduceIte, BitVec.getMsbD_shiftLeft,
        BitVec.getMsbD_ushiftRight]
      grind
    rw [register_cons, ih (by omega), List.length_cons, Function.iterate_succ_apply, pack, feed]
    congr 1
    calc shift poly (c ^^^ top w b) ^^^ pack w bs
        = shift poly (c ^^^ top w b) ^^^ shift poly (pack w bs >>> 1) := by rw [hshift]
      _ = shift poly (c ^^^ top w b ^^^ (pack w bs >>> 1)) := (shift_xor _ _ _).symm
      _ = _ := by
        congr 1
        ac_rfl

theorem register_bits (c x : BitVec w) :
    register poly c (bits x) = (shift poly)^[w] (c ^^^ x) := by
  rw [register_eq_iterate (by simp), bits_length, pack_bits]

theorem shift_eq_zero_iff (hpoly : poly.getLsbD 0 = true) : shift poly c = 0#w ↔ c = 0#w := by
  refine ⟨fun h => ?_, ?_⟩
  swap
  · rintro rfl
    exact shift_zero
  have hw : 0 < w := BitVec.lt_of_getLsbD hpoly
  have hbits (i : Nat) : (shift poly c).getLsbD i = false := by simp [h]
  have hmsb : c.msb = false := by
    cases hm : c.msb with
    | false => rfl
    | true => simpa [shift, hm, hpoly] using hbits 0
  apply BitVec.eq_of_getLsbD_eq
  intro i hi
  rw [BitVec.getLsbD_zero]
  by_cases hlast : i + 1 < w
  · simpa [shift, hmsb, hlast, BitVec.getLsbD_eq_getElem hi] using hbits (i + 1)
  · obtain rfl : i = w - 1 := by omega
    rwa [BitVec.msb_eq_getLsbD_last] at hmsb

theorem shift_iterate_eq_zero_iff (hpoly : poly.getLsbD 0 = true) :
    (shift poly)^[n] c = 0#w ↔ c = 0#w := by
  induction n generalizing c with
  | zero => rfl
  | succ n ih => rw [Function.iterate_succ_apply, ih, shift_eq_zero_iff hpoly]

theorem register_injective (hpoly : poly.getLsbD 0 = true) (bs : List Bool) :
    Function.Injective (register poly · bs) := by
  intro c d (h : register poly c bs = register poly d bs)
  have hxor : register poly (c ^^^ d) (List.zipWith xor bs bs) =
      register poly c bs ^^^ register poly d bs := register_xor rfl
  have hzero : List.zipWith xor bs bs = List.replicate bs.length false := by
    simp [List.zipWith_self, List.map_const']
  rw [hzero, register_replicate_false, h, BitVec.xor_self, shift_iterate_eq_zero_iff hpoly] at hxor
  exact BitVec.xor_eq_zero_iff.mp hxor

theorem register_bits_eq_zero_iff (hpoly : poly.getLsbD 0 = true) :
    register poly c (bits x) = 0#w ↔ c = x := by
  rw [register_bits, shift_iterate_eq_zero_iff hpoly]
  exact BitVec.xor_eq_zero_iff

-- ---------------------------------------------------------------------------
-- Errors that show
-- ---------------------------------------------------------------------------

theorem register_burst (hpoly : poly.getLsbD 0 = true) (hlength : bs.length ≤ w) (hbs : true ∈ bs) :
    register poly 0#w (List.replicate i false ++ bs ++ List.replicate j false) ≠ 0#w := by
  intro hzero
  simp only [register_append, register_replicate_false, shift_iterate_zero,
    shift_iterate_eq_zero_iff hpoly, register_eq_iterate hlength] at hzero
  have hpack : pack w bs = 0#w := by simpa using hzero
  exact absurd ((pack_eq_zero_iff hlength).mp hpack true hbs) (by simp)

def odd (bs : List Bool) : Bool := bs.foldr xor false

@[simp] theorem odd_nil : odd [] = false := rfl

@[simp] theorem odd_cons : odd (b :: bs) = (b ^^ odd bs) := rfl

@[simp] theorem odd_append : odd (xs ++ ys) = (odd xs ^^ odd ys) := by
  induction xs with
  | nil => simp
  | cons b xs ih => simp [ih]

theorem odd_eq_decide : odd bs = decide (bs.count true % 2 = 1) := by
  induction bs with
  | nil => rfl
  | cons b bs ih =>
    rw [odd_cons, ih]
    cases b with
    | false => simp
    | true =>
      rcases Nat.mod_two_eq_zero_or_one (bs.count true) with h | h <;> simp [h, Nat.add_mod]

theorem odd_map_xor (f g : Nat → Bool) (is : List Nat) :
    odd (is.map fun i => f i ^^ g i) = (odd (is.map f) ^^ odd (is.map g)) := by
  induction is with
  | nil => rfl
  | cons i is ih =>
    simp only [List.map_cons, odd_cons, ih]
    cases f i <;> cases g i <;> simp

theorem odd_bits_xor : odd (bits (x ^^^ y)) = (odd (bits x) ^^ odd (bits y)) := by
  have hbits : bits (x ^^^ y) = (List.range w).map fun i => x.getMsbD i ^^ y.getMsbD i := by
    simp [bits]
  rw [hbits, odd_map_xor]
  rfl

@[simp] theorem odd_bits_zero : odd (bits 0#w) = false := by
  have hcount : (bits 0#w).count true = 0 := List.count_eq_zero.mpr (by simp [bits])
  simp [odd_eq_decide, hcount]

theorem odd_bits_shiftLeft : (odd (bits (x <<< 1)) ^^ x.msb) = odd (bits x) := by
  cases w with
  | zero => simp [bits, BitVec.of_length_zero]
  | succ w =>
    have htail : bits x = x.msb :: (List.range w).map fun i => x.getMsbD (i + 1) := by
      simp [bits, List.range_succ_eq_map, BitVec.msb, Function.comp_def]
    have hshift : bits (x <<< 1) = ((List.range w).map fun i => x.getMsbD (i + 1)) ++ [false] := by
      simp only [bits, List.range_succ, List.map_append, BitVec.getMsbD_shiftLeft, List.map_cons,
        List.map_nil]
      congr 1
      · apply List.map_congr_left
        intro i hi
        have := List.mem_range.mp hi
        simp
      · simp
    rw [htail, hshift]
    simp [Bool.xor_comm]

theorem odd_bits_shift (hpoly : odd (bits poly) = true) :
    odd (bits (shift poly c)) = odd (bits c) := by
  have hleft := odd_bits_shiftLeft (x := c)
  cases hm : c.msb with
  | false => simpa [shift, hm] using hleft
  | true => simpa [shift, hm, odd_bits_xor, hpoly] using hleft

theorem odd_bits_top (hw : 0 < w) : odd (bits (top w b)) = b := by
  cases w with
  | zero => exact absurd hw (Nat.lt_irrefl 0)
  | succ w =>
    have hrest : ((List.range w).map fun i => (top (w + 1) b).getMsbD (i + 1)).count true = 0 :=
      List.count_eq_zero.mpr (by simp)
    simp only [bits, List.range_succ_eq_map, List.map_cons, List.map_map, Function.comp_def,
      odd_cons]
    rw [odd_eq_decide, hrest]
    simp

theorem odd_bits_register (hw : 0 < w) (hpoly : odd (bits poly) = true) :
    odd (bits (register poly c bs)) = (odd (bits c) ^^ odd bs) := by
  induction bs generalizing c with
  | nil => simp
  | cons b bs ih =>
    simp [ih, feed, odd_bits_shift hpoly, odd_bits_xor, odd_bits_top hw]

theorem register_odd (hw : 0 < w) (hpoly : odd (bits poly) = true) (hbs : bs.count true % 2 = 1) :
    register poly 0#w bs ≠ 0#w := by
  intro hzero
  have hcount : odd bs = true := by rw [odd_eq_decide, hbs]; rfl
  have hodd : odd (bits (register poly 0#w bs)) = (odd (bits 0#w) ^^ odd bs) :=
    odd_bits_register hw hpoly
  rw [hzero, hcount] at hodd
  simp at hodd

theorem register_two (hpoly : poly.getLsbD 0 = true)
    (horder : (shift poly)^[n + 1] (top w true) ≠ top w true) :
    register poly 0#w (List.replicate i false ++ true :: List.replicate n false ++
      true :: List.replicate j false) ≠ 0#w := by
  intro hzero
  simp only [register_append, register_replicate_false, shift_iterate_zero, register_cons,
    shift_iterate_eq_zero_iff hpoly, feed, shift_eq_zero_iff hpoly] at hzero
  apply horder
  rw [Function.iterate_succ_apply]
  simpa [BitVec.xor_eq_zero_iff] using hzero

/-- The errors that lie within the width of the register, or are of one to three bits. -/
inductive Small (w : Nat) : List Bool → Prop where
  | burst (i j : Nat) (bs : List Bool) (hlength : bs.length ≤ w) (hbs : true ∈ bs) :
    Small w (List.replicate i false ++ bs ++ List.replicate j false)
  | few (bs : List Bool) (hsome : 0 < bs.count true) (hfew : bs.count true ≤ 3) : Small w bs

theorem eq_replicate_of_count (h : bs.count true = 0) : bs = List.replicate bs.length false := by
  refine List.eq_replicate_iff.mpr ⟨rfl, fun b hb => ?_⟩
  cases b with
  | false => rfl
  | true => exact absurd hb (List.count_eq_zero.mp h)

theorem split_of_count (h : bs.count true = n + 1) :
    ∃ i ys, bs = List.replicate i false ++ true :: ys ∧ ys.count true = n := by
  induction bs with
  | nil => cases h
  | cons b bs ih =>
    cases b with
    | false =>
      obtain ⟨i, ys, rfl, hys⟩ := ih (by simpa using h)
      exact ⟨i + 1, ys, rfl, hys⟩
    | true => exact ⟨0, bs, rfl, by simpa using h⟩

theorem register_small (hpoly : poly.getLsbD 0 = true) (hodd : odd (bits poly) = true)
    (horder : ∀ n < bs.length, (shift poly)^[n + 1] (top w true) ≠ top w true)
    (h : Small w bs) : register poly 0#w bs ≠ 0#w := by
  cases h with
  | burst i j bs hlength hbs => exact register_burst hpoly hlength hbs
  | few _ hsome hfew =>
    rcases (by omega : bs.count true % 2 = 1 ∨ bs.count true = 2) with h | h
    · exact register_odd (BitVec.lt_of_getLsbD hpoly) hodd h
    · obtain ⟨i, ys, rfl, hys⟩ := split_of_count h
      obtain ⟨n, zs, rfl, hzs⟩ := split_of_count hys
      rw [eq_replicate_of_count hzs]
      rw [← List.cons_append, ← List.append_assoc]
      refine register_two hpoly (horder n ?_)
      simp
      omega

end SystemMaster.Crc
