import Mathlib

/-!
# Byte strings

Byte strings as lists of octets: ASCII literals, little-endian and big-endian numbers, C strings,
and overwriting a range of a buffer. The two round trips `ofLe_leBytes` and `leBytes_ofLe` say
that a fixed-width little-endian field and its value determine each other.
-/

/-- A string of octets. -/
abbrev Bytes := List UInt8

namespace Octets

/-- The octets of an ASCII literal. -/
def ascii (s : String) : Bytes :=
  s.toList.map fun c => UInt8.ofNat c.toNat

/-- The `width` low-order octets of `value`, least significant first. -/
def leBytes : (width value : Nat) → Bytes
  | 0, _ => []
  | width + 1, value => UInt8.ofNat value :: leBytes width (value / 256)

/-- The number whose octets, least significant first, are the given ones. -/
def ofLe : Bytes → Nat
  | [] => 0
  | octet :: rest => octet.toNat + 256 * ofLe rest

/-- The `width` low-order octets of `value`, most significant first. -/
def beBytes (width value : Nat) : Bytes :=
  (leBytes width value).reverse

/-- The number whose octets, most significant first, are the given ones. -/
def ofBe (octets : Bytes) : Nat :=
  ofLe octets.reverse

@[simp] theorem length_leBytes (width value : Nat) : (leBytes width value).length = width := by
  induction width generalizing value with
  | zero => rfl
  | succ width ih => simp [leBytes, ih]

@[simp] theorem length_beBytes (width value : Nat) : (beBytes width value).length = width := by
  simp [beBytes]

/-- Reading back a little-endian field yields the value that was written, modulo its width. -/
theorem ofLe_leBytes (width value : Nat) : ofLe (leBytes width value) = value % 256 ^ width := by
  induction width generalizing value with
  | zero => simp [leBytes, ofLe, Nat.mod_one]
  | succ width ih =>
      have hoctet : (UInt8.ofNat value).toNat = value % 256 := by simp
      rw [leBytes, ofLe, ih, hoctet, Nat.pow_succ, Nat.mul_comm (256 ^ width) 256,
        Nat.mod_mul]

/-- A big-endian field reads back the same way. -/
theorem ofBe_beBytes (width value : Nat) : ofBe (beBytes width value) = value % 256 ^ width := by
  simp [ofBe, beBytes, ofLe_leBytes]

/-- The value of `n` octets is below `256 ^ n`. -/
theorem ofLe_lt (octets : Bytes) : ofLe octets < 256 ^ octets.length := by
  induction octets with
  | nil => simp [ofLe]
  | cons octet rest ih =>
      have hoctet : octet.toNat < 256 := octet.toNat_lt
      simp only [ofLe, List.length_cons, Nat.pow_succ]
      omega

/-- Writing the value of a field again gives back its octets. -/
theorem leBytes_ofLe (octets : Bytes) : leBytes octets.length (ofLe octets) = octets := by
  induction octets with
  | nil => rfl
  | cons octet rest ih =>
      have hoctet : octet.toNat < 256 := octet.toNat_lt
      have hlow : UInt8.ofNat (octet.toNat + 256 * ofLe rest) = octet := by
        apply UInt8.toNat_inj.mp
        simp only [UInt8.toNat_ofNat']
        omega
      have hhigh : (octet.toNat + 256 * ofLe rest) / 256 = ofLe rest := by omega
      simp only [List.length_cons, leBytes, ofLe, hlow, hhigh, ih]

/-- A big-endian number grows at its end. -/
theorem ofBe_append (first second : Bytes) :
    ofBe (first ++ second) = ofBe first * 256 ^ second.length + ofBe second := by
  have hle : ∀ low high : Bytes, ofLe (low ++ high) = ofLe low + 256 ^ low.length * ofLe high := by
    intro low high
    induction low with
    | nil => simp [ofLe]
    | cons octet rest ih =>
        rw [List.cons_append, ofLe, ih, ofLe, List.length_cons, Nat.pow_succ]
        ring
  rw [ofBe, List.reverse_append, hle, List.length_reverse, ofBe, ofBe]
  ring

/-- The value of a big-endian field of `n` octets is below `256 ^ n`. -/
theorem ofBe_lt (octets : Bytes) : ofBe octets < 256 ^ octets.length := by
  have h := ofLe_lt octets.reverse
  rwa [List.length_reverse] at h

/-- Writing the value of a big-endian field gives the field back. -/
theorem beBytes_ofBe (octets : Bytes) : beBytes octets.length (ofBe octets) = octets := by
  have h := leBytes_ofLe octets.reverse
  rw [List.length_reverse] at h
  rw [beBytes, ofBe, h, List.reverse_reverse]

theorem beBytes_succ (width value : Nat) :
    beBytes (width + 1) value = beBytes width (value / 256) ++ [UInt8.ofNat value] := by
  rw [beBytes, leBytes, List.reverse_cons, beBytes]

/-- The characters of a C string: everything before the first NUL. -/
def cString (octets : Bytes) : Bytes :=
  octets.takeWhile (· ≠ 0)

/-- A string without NUL is its own C string. -/
theorem cString_eq_self {octets : Bytes} (h : ∀ octet ∈ octets, octet ≠ 0) :
    cString octets = octets := by
  simpa [cString, List.takeWhile_eq_self_iff] using h

/-- A NUL ends the C string, whatever follows it. -/
theorem cString_append_nul {octets : Bytes} (h : ∀ octet ∈ octets, octet ≠ 0) (rest : Bytes) :
    cString (octets ++ 0 :: rest) = octets := by
  induction octets with
  | nil => simp [cString]
  | cons octet tail ih =>
      have hoctet : octet ≠ 0 := h octet (by simp)
      have htail := ih fun other hmem => h other (by simp [hmem])
      simpa [cString, hoctet] using htail

/-- `buffer` with `data` written over it from `offset` on. -/
def overwrite (buffer : Bytes) (offset : Nat) (data : Bytes) : Bytes :=
  buffer.take offset ++ data ++ buffer.drop (offset + data.length)

end Octets
