import Mathlib

/-!
# Reflected cyclic redundancy checks

The shift register of a reflected CRC with a given polynomial. A step is linear (`step_xor`) and,
where the polynomial has its highest bit, injective (`step_injective`): two messages whose
difference is short leave different registers (`feed_ne_of_burst`). Linear maps are iterated by
squaring the list of what they make of each bit (`power_images`), so that periods can be computed.
-/

namespace Crc

variable {w : Nat} (poly : BitVec w)

/-- One step of the register. -/
def step (reg : BitVec w) : BitVec w :=
  (reg >>> 1) ^^^ (if reg.getLsbD 0 then poly else 0#w)

/-- The register after these message bits. -/
def feed (reg : BitVec w) (bits : List Bool) : BitVec w :=
  bits.foldl (fun reg bit => step poly (reg ^^^ (BitVec.ofBool bit).setWidth w)) reg

/-- The bits of an octet, the least significant first. -/
def octetBits (octet : UInt8) : List Bool :=
  (List.range 8).map octet.toBitVec.getLsbD

/-- The register after these octets. -/
def register (reg : BitVec w) (data : List UInt8) : BitVec w :=
  data.foldl (fun reg octet => (step poly)^[8] (reg ^^^ octet.toBitVec.setWidth w)) reg

/-- At most `w` bits as a word, the least significant first. -/
def word (w : Nat) (bits : List Bool) : BitVec w :=
  (BitVec.ofBoolListLE bits).setWidth w

section Linear

variable {poly} {a b reg : BitVec w} {bits : List Bool}

theorem step_zero : step poly 0#w = 0#w := by
  simp [step]

theorem step_xor : step poly (a ^^^ b) = step poly a ^^^ step poly b := by
  apply BitVec.eq_of_getLsbD_eq
  intro i _
  simp only [step, BitVec.getLsbD_xor, BitVec.getLsbD_ushiftRight]
  cases a.getLsbD 0 <;> cases b.getLsbD 0 <;> simp [Bool.xor_comm, Bool.xor_left_comm]

theorem iterate_zero (n : Nat) : (step poly)^[n] 0#w = 0#w :=
  Function.iterate_fixed step_zero n

theorem iterate_xor (n : Nat) (a b : BitVec w) :
    (step poly)^[n] (a ^^^ b) = (step poly)^[n] a ^^^ (step poly)^[n] b := by
  induction n generalizing a b with
  | zero => rfl
  | succ n ih => rw [Function.iterate_succ_apply, step_xor, ih]; rfl

/-- Only the zero register is stepped to zero. -/
theorem eq_zero_of_step (hpoly : poly.msb = true) (h : step poly a = 0#w) : a = 0#w := by
  have hw : 0 < w := by
    by_contra hzero
    obtain rfl : w = 0 := by omega
    simp [BitVec.msb] at hpoly
  have hbit (i : Nat) : (a.getLsbD (i + 1) ^^ (a.getLsbD 0 && poly.getLsbD i)) = false := by
    have hi := congrArg (fun x => BitVec.getLsbD x i) h
    simp only [step, BitVec.getLsbD_xor, BitVec.getLsbD_ushiftRight, BitVec.getLsbD_zero] at hi
    rw [Nat.add_comm i 1]
    cases hlow : a.getLsbD 0 <;> simpa [hlow] using hi
  -- the highest bit of the polynomial tells whether it was added
  have hlow : a.getLsbD 0 = false := by
    have htop := hbit (w - 1)
    rw [BitVec.getLsbD_of_ge a _ (by omega), ← BitVec.msb_eq_getLsbD_last, hpoly] at htop
    simpa using htop
  apply BitVec.eq_of_getLsbD_eq
  intro i _
  rw [BitVec.getLsbD_zero]
  cases i with
  | zero => exact hlow
  | succ i => simpa [hlow] using hbit i

theorem step_injective (hpoly : poly.msb = true) : Function.Injective (step poly) := by
  intro a b hab
  have hzero : step poly (a ^^^ b) = 0#w := by rw [step_xor, hab, BitVec.xor_self]
  exact BitVec.xor_eq_zero_iff.mp (eq_zero_of_step hpoly hzero)

theorem feed_append (first second : List Bool) :
    feed poly reg (first ++ second) = feed poly (feed poly reg first) second :=
  List.foldl_append

/-- What a register starts with is stepped through the message. -/
theorem register_xor (a b : BitVec w) (data : List UInt8) :
    register poly a data ^^^ register poly b data =
      (step poly)^[8 * data.length] (a ^^^ b) := by
  induction data generalizing a b with
  | nil => rfl
  | cons octet data ih =>
      have hstart : (a ^^^ octet.toBitVec.setWidth w) ^^^ (b ^^^ octet.toBitVec.setWidth w) =
          a ^^^ b := by
        rw [BitVec.xor_comm b, BitVec.xor_assoc, ← BitVec.xor_assoc _ _ b, BitVec.xor_self,
          BitVec.zero_xor]
      show register poly _ data ^^^ register poly _ data = _
      rw [ih, ← iterate_xor, hstart, ← Function.iterate_add_apply, List.length_cons, Nat.mul_succ]

end Linear

section Burst

variable {poly} {reg : BitVec w} {bits : List Bool}

theorem getLsbD_word (i : Nat) :
    (word w bits).getLsbD i = (decide (i < w) && bits.getD i false) := by
  rw [word, BitVec.getLsbD_setWidth, BitVec.getLsbD_ofBoolListLE]

/-- A step takes the first bit of a word and leaves the others. -/
theorem step_word {bit : Bool} (h : bits.length < w) :
    step poly (reg ^^^ word w (bit :: bits)) =
      step poly (reg ^^^ (BitVec.ofBool bit).setWidth w) ^^^ word w bits := by
  have hsplit : word w (bit :: bits) = (BitVec.ofBool bit).setWidth w ^^^ (word w bits <<< 1) := by
    apply BitVec.eq_of_getLsbD_eq
    intro i hi
    rw [getLsbD_word, BitVec.getLsbD_xor, BitVec.getLsbD_setWidth, BitVec.getLsbD_shiftLeft,
      getLsbD_word, BitVec.getLsbD_ofBool]
    cases i with
    | zero => simp [hi]
    | succ i => simp [hi, Nat.lt_of_succ_lt hi]
  have hshift : step poly (word w bits <<< 1) = word w bits := by
    have hlow : (word w bits <<< 1).getLsbD 0 = false := by simp
    rw [step, hlow, if_neg Bool.false_ne_true, BitVec.xor_zero]
    apply BitVec.eq_of_getLsbD_eq
    intro i hi
    rw [BitVec.getLsbD_ushiftRight, BitVec.getLsbD_shiftLeft, Nat.add_sub_cancel_left]
    by_cases hlast : 1 + i < w
    · simp [hlast]
    · have hend : bits.getD i false = false := List.getD_eq_default _ _ (by omega)
      simp only [getLsbD_word, hend, Bool.and_false]
  rw [hsplit, ← BitVec.xor_assoc, step_xor, hshift]

/-- Bits that fit a word can be added at once. -/
theorem feed_word (h : bits.length ≤ w) :
    feed poly reg bits = (step poly)^[bits.length] (reg ^^^ word w bits) := by
  induction bits generalizing reg with
  | nil =>
      have hzero : word w [] = 0#w := by
        apply BitVec.eq_of_getLsbD_eq
        intro i _
        rw [getLsbD_word, List.getD_nil, Bool.and_false, BitVec.getLsbD_zero]
      rw [hzero, BitVec.xor_zero]
      rfl
  | cons bit bits ih =>
      rw [List.length_cons] at h ⊢
      rw [Function.iterate_succ_apply, step_word (by omega), ← ih (by omega)]
      rfl

/-- The octets of a message are its bits. -/
theorem register_eq_feed (hw : 8 ≤ w) (data : List UInt8) :
    register poly reg data = feed poly reg (data.flatMap octetBits) := by
  induction data generalizing reg with
  | nil => rfl
  | cons octet data ih =>
      have hword : word w (octetBits octet) = octet.toBitVec.setWidth w := by
        apply BitVec.eq_of_getLsbD_eq
        intro i hi
        rw [getLsbD_word, BitVec.getLsbD_setWidth, octetBits]
        by_cases hin : i < 8
        · simp [List.getD_eq_getElem?_getD, hin]
        · rw [List.getD_eq_default _ _ (by simp; omega), BitVec.getLsbD_of_ge _ _ (by omega)]
      have hfirst : feed poly reg (octetBits octet) =
          (step poly)^[8] (reg ^^^ octet.toBitVec.setWidth w) := by
        rw [feed_word (by simpa [octetBits] using hw), hword]
        rfl
      rw [List.flatMap_cons, feed_append, hfirst, ← ih]
      rfl

/-- The difference of two registers is that of the messages. -/
theorem feed_xor {first second : List Bool} (h : first.length = second.length) {a b : BitVec w} :
    feed poly a first ^^^ feed poly b second =
      feed poly (a ^^^ b) (List.zipWith Bool.xor first second) := by
  induction first generalizing second a b with
  | nil =>
      obtain rfl := List.length_eq_zero_iff.mp h.symm
      rfl
  | cons bit first ih =>
      obtain ⟨other, second, rfl⟩ := List.exists_cons_of_length_eq_add_one h.symm
      rw [List.zipWith_cons_cons]
      show feed poly (step poly _) first ^^^ feed poly (step poly _) second =
        feed poly (step poly _) _
      rw [ih (Nat.succ.inj h), ← step_xor]
      have hbits : (BitVec.ofBool (bit ^^ other)).setWidth w =
          (BitVec.ofBool bit).setWidth w ^^^ (BitVec.ofBool other).setWidth w := by
        rw [← BitVec.ofBool_xor_ofBool, BitVec.setWidth_xor]
      rw [hbits]
      congr 2
      ac_rfl

theorem feed_false (n : Nat) : feed poly reg (List.replicate n false) = (step poly)^[n] reg := by
  induction n generalizing reg with
  | zero => rfl
  | succ n ih =>
      rw [List.replicate_succ, Function.iterate_succ_apply, ← ih]
      show feed poly (step poly (reg ^^^ _)) _ = _
      simp

theorem eq_zero_of_iterate (hpoly : poly.msb = true) {n : Nat}
    (h : (step poly)^[n] reg = 0#w) : reg = 0#w :=
  (step_injective hpoly).iterate n (h.trans (iterate_zero n).symm)

/-- Bits that all lie in one word leave the zero register only if none is set. -/
theorem eq_false_of_feed (hpoly : poly.msb = true) {start : Nat}
    (hburst : ∀ i, bits.getD i false = true → start ≤ i ∧ i < start + w)
    (h : feed poly 0#w bits = 0#w) (i : Nat) : bits.getD i false = false := by
  have hfirst : bits.take start = List.replicate (bits.take start).length false := by
    rw [List.eq_replicate_iff]
    refine ⟨rfl, fun bit hmem => ?_⟩
    obtain ⟨j, hj, rfl⟩ := List.getElem_of_mem hmem
    rw [List.length_take] at hj
    rw [List.getElem_take, ← List.getD_eq_getElem _ false]
    by_contra hset
    have := (hburst j (by simpa using hset)).1
    omega
  have hlast : bits.drop (start + w) = List.replicate (bits.drop (start + w)).length false := by
    rw [List.eq_replicate_iff]
    refine ⟨rfl, fun bit hmem => ?_⟩
    obtain ⟨j, hj, rfl⟩ := List.getElem_of_mem hmem
    rw [List.length_drop] at hj
    rw [List.getElem_drop, ← List.getD_eq_getElem _ false]
    by_contra hset
    have := (hburst (start + w + j) (by simpa using hset)).2
    omega
  have hsplit : bits = bits.take start ++ ((bits.drop start).take w ++ bits.drop (start + w)) := by
    rw [← List.drop_drop, List.take_append_drop, List.take_append_drop]
  have hmiddle : word w ((bits.drop start).take w) = 0#w := by
    rw [hsplit, feed_append, feed_append, hfirst, hlast, feed_false, feed_false, iterate_zero,
      feed_word (List.length_take_le _ _), BitVec.zero_xor] at h
    exact eq_zero_of_iterate hpoly (eq_zero_of_iterate hpoly h)
  by_contra hset
  have hset : bits.getD i false = true := by simpa using hset
  obtain ⟨hlow, hhigh⟩ := hburst i hset
  have hbit := congrArg (fun x => BitVec.getLsbD x (i - start)) hmiddle
  simp only [getLsbD_word, BitVec.getLsbD_zero, Bool.and_eq_false_imp, decide_eq_true_eq] at hbit
  have hfalse := hbit (by omega)
  rw [List.getD_eq_getElem?_getD, List.getElem?_take_of_lt (by omega), List.getElem?_drop,
    Nat.add_sub_cancel' hlow, ← List.getD_eq_getElem?_getD, hset] at hfalse
  exact Bool.noConfusion hfalse

/-- Two messages whose difference lies in one word leave different registers. -/
theorem feed_ne_of_burst (hpoly : poly.msb = true) {first second : List Bool}
    (hlength : first.length = second.length) (hne : first ≠ second) {start : Nat}
    (hburst : ∀ i, first.getD i false ≠ second.getD i false → start ≤ i ∧ i < start + w) :
    feed poly reg first ≠ feed poly reg second := by
  intro hsame
  have hxor (i : Nat) : (List.zipWith Bool.xor first second).getD i false =
      (first.getD i false ^^ second.getD i false) := by
    simp only [List.getD_eq_getElem?_getD, List.getElem?_zipWith]
    by_cases hi : i < first.length
    · simp [hi, hlength ▸ hi]
    · simp [List.getElem?_eq_none (by omega : first.length ≤ i),
        List.getElem?_eq_none (by omega : second.length ≤ i)]
  have hzero : feed poly 0#w (List.zipWith Bool.xor first second) = 0#w := by
    rw [← BitVec.xor_self (x := reg), ← feed_xor hlength, hsame, BitVec.xor_self, BitVec.xor_self]
  refine hne (List.ext_getElem hlength fun i hfirst hsecond => ?_)
  have hsame := eq_false_of_feed hpoly (fun i hi => hburst i (by
    rw [hxor] at hi
    intro hequal
    rw [hequal, Bool.xor_self] at hi
    exact Bool.noConfusion hi)) hzero i
  rw [hxor, List.getD_eq_getElem _ _ hfirst, List.getD_eq_getElem _ _ hsecond] at hsame
  simpa using hsame

end Burst

section Few

variable {poly} {a b reg : BitVec w} {bits : List Bool}

/-- Whether an odd number of bits is set. -/
def parity (bits : List Bool) : Bool :=
  bits.foldr Bool.xor false

/-- The bits of a word, the least significant first. -/
def bitsOf (reg : BitVec w) : List Bool :=
  (List.range w).map reg.getLsbD

theorem parity_append (first second : List Bool) :
    parity (first ++ second) = (parity first ^^ parity second) := by
  induction first with
  | nil => exact (Bool.false_xor _).symm
  | cons bit rest ih =>
      show (bit ^^ parity (rest ++ second)) = ((bit ^^ parity rest) ^^ parity second)
      rw [ih, Bool.xor_assoc]

theorem parity_replicate_false (n : Nat) : parity (List.replicate n false) = false := by
  induction n with
  | zero => rfl
  | succ n ih =>
      show (false ^^ parity (List.replicate n false)) = false
      rw [ih, Bool.xor_false]

theorem parity_xor (places : List Nat) (a b : BitVec w) :
    parity (places.map (a ^^^ b).getLsbD) =
      (parity (places.map a.getLsbD) ^^ parity (places.map b.getLsbD)) := by
  induction places with
  | nil => rfl
  | cons place rest ih =>
      show ((a ^^^ b).getLsbD place ^^ parity (rest.map _)) =
        ((a.getLsbD place ^^ parity (rest.map _)) ^^ (b.getLsbD place ^^ parity (rest.map _)))
      rw [ih, BitVec.getLsbD_xor, Bool.xor_assoc, Bool.xor_assoc, Bool.xor_left_comm
        (b.getLsbD place)]

theorem parity_bitsOf_xor (a b : BitVec w) :
    parity (bitsOf (a ^^^ b)) = (parity (bitsOf a) ^^ parity (bitsOf b)) :=
  parity_xor _ a b

theorem parity_bitsOf_zero : parity (bitsOf (0#w)) = false := by
  have hbits : bitsOf (0#w) = List.replicate w false := by
    rw [bitsOf, List.eq_replicate_iff]
    refine ⟨by simp, fun bit hmem => ?_⟩
    obtain ⟨i, -, rfl⟩ := List.mem_map.mp hmem
    exact BitVec.getLsbD_zero
  rw [hbits, parity_replicate_false]

/-- A register shifted down loses its lowest bit. -/
theorem parity_bitsOf_shift (reg : BitVec w) :
    parity (bitsOf (reg >>> 1)) = (parity (bitsOf reg) ^^ reg.getLsbD 0) := by
  have hshift : bitsOf (reg >>> 1) = (List.range w).map fun i => reg.getLsbD (i + 1) := by
    refine List.map_congr_left fun i _ => ?_
    rw [BitVec.getLsbD_ushiftRight, Nat.add_comm]
  have hrange : parity ((List.range (w + 1)).map reg.getLsbD) = parity (bitsOf reg) := by
    have htop : reg.getLsbD w = false := BitVec.getLsbD_of_ge _ _ le_rfl
    rw [List.range_succ, List.map_append, parity_append]
    show (parity (bitsOf reg) ^^ (reg.getLsbD w ^^ false)) = _
    rw [htop, Bool.xor_false, Bool.xor_false]
  rw [List.range_succ_eq_map, List.map_cons, List.map_map] at hrange
  rw [hshift, ← hrange]
  show parity ((List.range w).map (reg.getLsbD ∘ Nat.succ)) =
    ((reg.getLsbD 0 ^^ parity ((List.range w).map (reg.getLsbD ∘ Nat.succ))) ^^ reg.getLsbD 0)
  cases reg.getLsbD 0 <;> simp

/-- With an odd number of bits in the polynomial a step keeps the parity of the register. -/
theorem parity_step (hodd : parity (bitsOf poly) = true) (reg : BitVec w) :
    parity (bitsOf (step poly reg)) = parity (bitsOf reg) := by
  rw [step, parity_bitsOf_xor, parity_bitsOf_shift]
  cases hlow : reg.getLsbD 0 with
  | false => simp [parity_bitsOf_zero]
  | true => simp [hodd]

theorem parity_ofBool (hw : 0 < w) (bit : Bool) :
    parity (bitsOf ((BitVec.ofBool bit).setWidth w)) = bit := by
  obtain ⟨v, rfl⟩ : ∃ v, w = v + 1 := ⟨w - 1, by omega⟩
  have hbits : bitsOf ((BitVec.ofBool bit).setWidth (v + 1)) = bit :: List.replicate v false := by
    rw [bitsOf, List.range_succ_eq_map, List.map_cons, List.map_map]
    congr 1
    · cases bit <;> simp
    · rw [List.eq_replicate_iff]
      refine ⟨by simp, fun other hmem => ?_⟩
      obtain ⟨i, -, rfl⟩ := List.mem_map.mp hmem
      cases bit <;> simp
  rw [hbits]
  show (bit ^^ parity (List.replicate v false)) = bit
  rw [parity_replicate_false, Bool.xor_false]

/-- And a message adds its own parity. -/
theorem parity_feed (hw : 0 < w) (hodd : parity (bitsOf poly) = true) (bits : List Bool) :
    parity (bitsOf (feed poly reg bits)) = (parity (bitsOf reg) ^^ parity bits) := by
  induction bits generalizing reg with
  | nil => exact (Bool.xor_false _).symm
  | cons bit rest ih =>
      show parity (bitsOf (feed poly (step poly (reg ^^^ _)) rest)) =
        (parity (bitsOf reg) ^^ (bit ^^ parity rest))
      rw [ih, parity_step hodd, parity_bitsOf_xor, parity_ofBool hw, Bool.xor_assoc]

/-- A message with two bits set. -/
theorem feed_two (first middle last : Nat)
    (h : feed poly 0#w (List.replicate first false ++ true :: List.replicate middle false ++
      true :: List.replicate last false) = 0#w) (hpoly : poly.msb = true) :
    (step poly)^[middle + 1] 1#w = 1#w := by
  have htrue : (BitVec.ofBool true).setWidth w = 1#w := by
    apply BitVec.eq_of_toNat_eq
    simp
  have hone (reg : BitVec w) (rest : List Bool) :
      feed poly reg (true :: rest) = feed poly (step poly (reg ^^^ 1#w)) rest := by
    rw [← htrue]
    rfl
  rw [feed_append, feed_append, feed_false, iterate_zero, hone, feed_false, hone, feed_false,
    BitVec.zero_xor] at h
  have hstep := eq_zero_of_step hpoly (eq_zero_of_iterate hpoly h)
  rw [Function.iterate_succ_apply]
  exact BitVec.xor_eq_zero_iff.mp hstep

theorem parity_eq (bits : List Bool) : parity bits = decide (bits.count true % 2 = 1) := by
  induction bits with
  | nil => rfl
  | cons bit rest ih =>
      show (bit ^^ parity rest) = _
      rw [ih]
      cases bit with
      | false => simp
      | true =>
          rw [List.count_cons_self, Bool.true_xor, ← decide_not]
          exact decide_eq_decide.mpr (by omega)

/-- A message up to its first set bit, and the others behind. -/
theorem split_first {n : Nat} (h : bits.count true = n + 1) :
    ∃ first rest, bits = List.replicate first false ++ true :: rest ∧ rest.count true = n := by
  induction bits with
  | nil => exact absurd h (by simp)
  | cons bit rest ih =>
      cases bit with
      | true => exact ⟨0, rest, rfl, by simpa using h⟩
      | false =>
          obtain ⟨first, others, hrest, hcount⟩ := ih (by simpa using h)
          exact ⟨first + 1, others, by rw [hrest]; rfl, hcount⟩

/-- Where the polynomial has an odd number of bits and the register does not come back to one
within a message, one to three set bits leave no zero register. -/
theorem ne_zero_of_few (hw : 0 < w) (hpoly : poly.msb = true)
    (hodd : parity (bitsOf poly) = true)
    (hperiod : ∀ k, 0 < k → k < bits.length → (step poly)^[k] 1#w ≠ 1#w)
    (hpos : 0 < bits.count true) (hfew : bits.count true ≤ 3) : feed poly 0#w bits ≠ 0#w := by
  intro hzero
  -- an odd number of bits is seen in the parity
  have hparity := @parity_feed w poly 0#w hw hodd bits
  rw [hzero, parity_bitsOf_zero, Bool.false_xor, parity_eq] at hparity
  have heven : bits.count true = 2 := by
    have hmod : ¬ bits.count true % 2 = 1 := by simpa using hparity.symm
    omega
  obtain ⟨first, others, hbits, hothers⟩ := split_first heven
  obtain ⟨middle, rest, hmiddle, hrest⟩ := split_first hothers
  obtain ⟨last, rfl⟩ : ∃ last, rest = List.replicate last false := by
    refine ⟨rest.length, List.eq_replicate_iff.mpr ⟨rfl, fun bit hmem => ?_⟩⟩
    cases bit with
    | false => rfl
    | true => exact absurd hmem (List.count_eq_zero.mp hrest)
  rw [hmiddle, ← List.cons_append, ← List.append_assoc] at hbits
  refine hperiod (middle + 1) (Nat.succ_pos _) ?_ (feed_two first middle last (hbits ▸ hzero) hpoly)
  rw [hbits]
  simp
  omega

/-- Two messages that differ in one to three bits leave different registers. -/
theorem feed_ne_of_few (hw : 0 < w) (hpoly : poly.msb = true)
    (hodd : parity (bitsOf poly) = true) {first second : List Bool}
    (hlength : first.length = second.length)
    (hperiod : ∀ k, 0 < k → k < first.length → (step poly)^[k] 1#w ≠ 1#w)
    (hpos : 0 < (List.zipWith Bool.xor first second).count true)
    (hfew : (List.zipWith Bool.xor first second).count true ≤ 3) :
    feed poly reg first ≠ feed poly reg second := by
  intro hsame
  have hzero := @feed_xor w poly first second hlength reg reg
  rw [hsame, BitVec.xor_self, BitVec.xor_self] at hzero
  refine ne_zero_of_few hw hpoly hodd ?_ hpos hfew hzero.symm
  intro k hk hlt
  rw [List.length_zipWith, ← hlength, min_self] at hlt
  exact hperiod k hk hlt

end Few

section Forward

variable {poly : BitVec w} {reg : BitVec w}

/-- One step of a register that is shifted up. -/
def stepUp (poly reg : BitVec w) : BitVec w :=
  (reg <<< 1) ^^^ (if reg.msb then poly else 0#w)

theorem reverse_xor (a b : BitVec w) : (a ^^^ b).reverse = a.reverse ^^^ b.reverse := by
  apply BitVec.eq_of_getLsbD_eq
  intro i _
  simp [BitVec.getLsbD_reverse]

/-- Read backwards it is a register that is shifted down. -/
theorem reverse_stepUp : (stepUp poly reg).reverse = step poly.reverse reg.reverse := by
  have hlow : reg.reverse.getLsbD 0 = reg.msb := by
    rw [BitVec.getLsbD_reverse]
    rfl
  have hshift : (reg <<< 1).reverse = reg.reverse >>> 1 := by
    apply BitVec.eq_of_getLsbD_eq
    intro i hi
    rw [BitVec.getLsbD_reverse, BitVec.getMsbD_shiftLeft, BitVec.getLsbD_ushiftRight,
      BitVec.getLsbD_reverse, Nat.add_comm]
  rw [stepUp, reverse_xor, hshift, step, hlow]
  cases reg.msb <;> simp

theorem reverse_iterate (n : Nat) :
    ((stepUp poly)^[n] reg).reverse = (step poly.reverse)^[n] reg.reverse := by
  induction n generalizing reg with
  | zero => rfl
  | succ n ih => rw [Function.iterate_succ_apply, ih, reverse_stepUp, Function.iterate_succ_apply]

end Forward

section Period

/-- What a linear map makes of each bit, as numbers. -/
def images (f : BitVec w → BitVec w) : List Nat :=
  (List.range w).map fun i => (f (BitVec.twoPow w i)).toNat

/-- A linear map from what it makes of each bit. -/
def combine : (images : List Nat) → (v : Nat) → Nat
  | [], _ => 0
  | image :: images, v => v % 2 * image ^^^ combine images (v / 2)

/-- A linear map iterated `n` times, by squaring. -/
def power : (fuel : Nat) → (images : List Nat) → (n v : Nat) → Nat
  | 0, _, _, v => v
  | fuel + 1, images, n, v =>
      power fuel (images.map (combine images)) (n / 2)
        (if n % 2 = 1 then combine images v else v)

variable {f : BitVec w → BitVec w}

theorem combine_images (hzero : f 0#w = 0#w) (hxor : ∀ a b, f (a ^^^ b) = f a ^^^ f b)
    (v : BitVec w) : combine (images f) v.toNat = (f v).toNat := by
  -- by induction on the bits that are left
  have hrest (k i : Nat) (hk : i + k = w) :
      combine ((List.range' i k).map fun i => (f (BitVec.twoPow w i)).toNat) (v >>> i).toNat =
        (f (v >>> i <<< i)).toNat := by
    induction k generalizing i with
    | zero =>
        have hgone : v >>> i = 0#w := BitVec.ushiftRight_eq_zero (by omega)
        rw [hgone, BitVec.zero_shiftLeft, hzero]
        rfl
    | succ k ih =>
        have hhead : v >>> i <<< i =
            (if v.getLsbD i then BitVec.twoPow w i else 0#w) ^^^ (v >>> (i + 1) <<< (i + 1)) := by
          apply BitVec.eq_of_getLsbD_eq
          intro j hj
          simp only [BitVec.getLsbD_xor, BitVec.getLsbD_shiftLeft, BitVec.getLsbD_ushiftRight]
          rcases Nat.lt_trichotomy j i with hlt | rfl | hgt
          · cases v.getLsbD i <;> simp [hlt, hlt.ne', Nat.lt_succ_of_lt hlt]
          · cases hset : v.getLsbD j <;> simp [hj, -BitVec.getLsbD_eq_getElem, hset]
          · have hback : i + (j - i) = j := by omega
            have hnext : i + 1 + (j - (i + 1)) = j := by omega
            cases v.getLsbD i <;> simp [hj, hback, hnext, hgt.ne', hgt.not_gt, Nat.not_lt.mpr hgt]
        have hhalf : (v >>> i).toNat / 2 = (v >>> (i + 1)).toNat := by
          rw [BitVec.shiftRight_add, BitVec.toNat_ushiftRight (v >>> i), Nat.shiftRight_one]
        have hbit : (v >>> i).toNat % 2 = (v.getLsbD i).toNat := by
          rw [BitVec.toNat_ushiftRight, BitVec.getLsbD, Nat.toNat_testBit,
            Nat.shiftRight_eq_div_pow]
        rw [List.range'_succ, List.map_cons, combine, hhalf, ih (i + 1) (by omega), hbit, hhead,
          hxor, BitVec.toNat_xor]
        cases v.getLsbD i <;> simp [hzero]
  have hall := hrest w 0 (Nat.zero_add w)
  rw [BitVec.ushiftRight_zero, BitVec.shiftLeft_zero, ← List.range_eq_range'] at hall
  exact hall

theorem map_combine_images (hzero : f 0#w = 0#w) (hxor : ∀ a b, f (a ^^^ b) = f a ^^^ f b) :
    (images f).map (combine (images f)) = images (f ∘ f) := by
  simp only [images, List.map_map]
  refine List.map_congr_left fun i _ => ?_
  exact combine_images hzero hxor _

/-- Squaring computes the iterates of a linear map. -/
theorem power_images (hzero : f 0#w = 0#w) (hxor : ∀ a b, f (a ^^^ b) = f a ^^^ f b) {fuel n : Nat}
    (hn : n < 2 ^ fuel) (v : BitVec w) : power fuel (images f) n v.toNat = (f^[n] v).toNat := by
  induction fuel generalizing f n v with
  | zero =>
      obtain rfl : n = 0 := by omega
      rfl
  | succ fuel ih =>
      have hsquare : (f ∘ f)^[n / 2] = f^[2 * (n / 2)] := by
        rw [Function.iterate_mul]
        rfl
      have hstart : (if n % 2 = 1 then combine (images f) v.toNat else v.toNat) =
          (f^[n % 2] v).toNat := by
        rcases Nat.mod_two_eq_zero_or_one n with hmod | hmod
        · rw [hmod, if_neg (by decide)]
          rfl
        · rw [hmod, if_pos rfl, combine_images hzero hxor]
          rfl
      have hsplit : f^[2 * (n / 2)] (f^[n % 2] v) = f^[n] v := by
        rw [← Function.iterate_add_apply, Nat.div_add_mod]
      rw [power, map_combine_images hzero hxor, hstart, ih (by simp [hzero])
        (fun a b => by simp [hxor]) (by omega), hsquare, hsplit]

/-- A period is the least one if no quotient of it by a prime is a period. -/
theorem minimalPeriod_eq {α : Type*} {f : α → α} {x : α} {n : Nat} (h : f^[n] x = x)
    (hprime : ∀ q, q.Prime → q ∣ n → f^[n / q] x ≠ x) :
    Function.minimalPeriod f x = n := by
  obtain ⟨k, hk⟩ := Function.IsPeriodicPt.minimalPeriod_dvd
    (show Function.IsPeriodicPt f n x from h)
  by_contra hne
  have hk1 : k ≠ 1 := by
    rintro rfl
    exact hne (by rw [hk, Nat.mul_one])
  obtain ⟨m, hm⟩ := Nat.minFac_dvd k
  have hquotient : n / k.minFac = Function.minimalPeriod f x * m := by
    refine Nat.div_eq_of_eq_mul_left (Nat.minFac_pos k) ?_
    rw [hk, Nat.mul_assoc, Nat.mul_comm m, ← hm]
  refine hprime k.minFac (Nat.minFac_prime hk1) ?_ ?_
  · exact (Nat.minFac_dvd k).trans ⟨_, hk.trans (Nat.mul_comm _ _)⟩
  · rw [hquotient]
    exact (Function.isPeriodicPt_minimalPeriod f x).mul_const m

end Period

end Crc
