import Mathlib.Algebra.GroupWithZero.Nat

/-
  Digits of four bits packed into one number, the first in the lowest bits, and sets
  of small numbers as bit masks.
-/

namespace PwOss.Nibbles

/-! ## Packed digits -/

/-- The number whose hexadecimal digits are `ds`, the lowest first. -/
def pack : List Nat → Nat
  | [] => 0
  | d :: ds => d + 16 * pack ds

/-- The digit at `index`. -/
def nibble (n index : Nat) : Nat := n >>> (index * 4) &&& 0xf

variable {ds es : List Nat} {d : Nat}

theorem two_pow_four_mul (n : Nat) : 2 ^ (n * 4) = 16 ^ n := by
  rw [Nat.mul_comm, Nat.pow_mul]

theorem nibble_eq (n index : Nat) : nibble n index = n / 16 ^ index % 16 := by
  unfold nibble
  rw [Nat.shiftRight_eq_div_pow, two_pow_four_mul]
  exact Nat.and_two_pow_sub_one_eq_mod _ 4

theorem pack_lt : ∀ {ds : List Nat}, (∀ d ∈ ds, d < 16) → pack ds < 16 ^ ds.length
  | [], _ => Nat.one_pos
  | d :: ds, h => by
    have hd := h d (List.mem_cons_self ..)
    have ih := pack_lt fun d' hd' => h d' (List.mem_cons_of_mem d hd')
    rw [pack, List.length_cons, Nat.pow_succ]
    omega

theorem pack_concat : ∀ (ds : List Nat) (d : Nat), pack (ds ++ [d]) = pack ds + d * 16 ^ ds.length
  | [], d => by rw [List.nil_append, pack, pack, pack, List.length_nil]; omega
  | e :: ds, d => by
    have hshift : d * 16 ^ (ds.length + 1) = 16 * (d * 16 ^ ds.length) := by
      rw [Nat.pow_succ, ← Nat.mul_assoc, Nat.mul_comm]
    rw [List.cons_append, pack, pack, pack_concat ds d, List.length_cons, hshift]
    omega

/-- Writing a digit above the ones written so far appends it. -/
theorem pack_or (h : ∀ d ∈ ds, d < 16) (d : Nat) :
    pack ds ||| d <<< (ds.length * 4) = pack (ds ++ [d]) := by
  have hlt : pack ds < 2 ^ (ds.length * 4) := by
    rw [two_pow_four_mul]
    exact pack_lt h
  rw [Nat.or_comm, ← Nat.shiftLeft_add_eq_or_of_lt hlt, Nat.shiftLeft_eq, two_pow_four_mul,
    pack_concat, Nat.add_comm]

theorem nibble_pack : ∀ {ds : List Nat}, (∀ d ∈ ds, d < 16) → ∀ (index : Nat)
    (hi : index < ds.length), nibble (pack ds) index = ds[index]
  | [], _, _, hi => absurd hi (Nat.not_lt_zero _)
  | d :: ds, h, 0, _ => by
    have hd := h d (List.mem_cons_self ..)
    rw [nibble_eq, pack, List.getElem_cons_zero]
    omega
  | d :: ds, h, index + 1, hi => by
    have hd := h d (List.mem_cons_self ..)
    have ih := nibble_pack (fun d' hd' => h d' (List.mem_cons_of_mem d hd')) index
      (Nat.lt_of_succ_lt_succ hi)
    rw [nibble_eq] at ih ⊢
    have hdiv : (d + 16 * pack ds) / 16 = pack ds := by omega
    rw [pack, List.getElem_cons_succ, ← ih, Nat.pow_succ, Nat.mul_comm (16 ^ index),
      ← Nat.div_div_eq_div_mul, hdiv]

theorem pack_inj (hd : ∀ d ∈ ds, d < 16) (he : ∀ e ∈ es, e < 16) (hlen : ds.length = es.length)
    (h : pack ds = pack es) : ds = es := by
  refine List.ext_getElem hlen fun index h1 h2 => ?_
  rw [← nibble_pack hd index h1, ← nibble_pack he index h2, h]

/-! ## Bit masks -/

/-- The mask of a set of small numbers. -/
def bits (ds : List Nat) : Nat := ds.foldl (fun set d => set ||| 1 <<< d) 0

theorem bits_concat (ds : List Nat) (d : Nat) : bits (ds ++ [d]) = bits ds ||| 1 <<< d := by
  rw [bits, List.foldl_append]
  rfl

theorem testBit_foldl (i : Nat) : ∀ (ds : List Nat) (set : Nat),
    (ds.foldl (fun set d => set ||| 1 <<< d) set).testBit i =
      (set.testBit i || decide (i ∈ ds))
  | [], set => by simp only [List.foldl_nil, List.not_mem_nil, decide_false, Bool.or_false]
  | d :: ds, set => by
    rw [List.foldl_cons, testBit_foldl i ds, Nat.testBit_or, Nat.one_shiftLeft, Nat.testBit_two_pow,
      Bool.or_assoc]
    congr 1
    rw [← Bool.decide_or]
    refine decide_eq_decide.mpr ?_
    rw [List.mem_cons, eq_comm]

theorem testBit_bits (ds : List Nat) (i : Nat) : (bits ds).testBit i = decide (i ∈ ds) := by
  rw [bits, testBit_foldl, Nat.zero_testBit, Bool.false_or]

theorem bits_eq_of_mem_iff (h : ∀ i, i ∈ ds ↔ i ∈ es) : bits ds = bits es := by
  refine Nat.eq_of_testBit_eq fun i => ?_
  rw [testBit_bits, testBit_bits]
  exact decide_eq_decide.mpr (h i)

theorem mem_iff_of_bits_eq (h : bits ds = bits es) (i : Nat) : i ∈ ds ↔ i ∈ es := by
  rw [← decide_eq_decide, ← testBit_bits, ← testBit_bits, h]

/-- The bit of `d` is set exactly if `d` is in the set. -/
theorem bits_and_eq_zero : bits ds &&& 1 <<< d = 0 ↔ d ∉ ds := by
  have htest : (bits ds &&& 1 <<< d = 0) ↔ (bits ds).testBit d = false := by
    rw [Nat.one_shiftLeft]
    constructor
    · intro h
      have hbit := congrArg (Nat.testBit · d) h
      simpa only [Nat.testBit_and, Nat.testBit_two_pow_self, Bool.and_true, Nat.zero_testBit]
        using hbit
    · intro h
      refine Nat.eq_of_testBit_eq fun i => ?_
      rw [Nat.testBit_and, Nat.testBit_two_pow, Nat.zero_testBit]
      by_cases hi : d = i
      · rw [← hi, h, Bool.false_and]
      · rw [decide_eq_false hi, Bool.and_false]
  rw [htest, testBit_bits, decide_eq_false_iff_not]

end PwOss.Nibbles
