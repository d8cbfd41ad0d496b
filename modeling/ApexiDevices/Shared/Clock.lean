import Mathlib.Algebra.Group.Nat.Even
import Mathlib.Tactic.Common

set_option autoImplicit false

/-!
# Wrapping millisecond clocks

A 32-bit clock reads real time modulo 2^32; a wrapped difference is the real
one as long as the real one is below 2^32.
-/

namespace Device

def clock (time : Nat) : UInt32 := UInt32.ofNat time

theorem clock_sub {earlier later : Nat} (order : earlier ≤ later) (near : later - earlier < 2 ^ 32) :
    (clock later - clock earlier).toNat = later - earlier := by
  rw [UInt32.toNat_sub, clock, clock, UInt32.toNat_ofNat', UInt32.toNat_ofNat']
  omega

theorem le_clock_sub {earlier later : Nat} (order : earlier ≤ later) (near : later - earlier < 2 ^ 32)
    (bound : UInt32) : bound ≤ clock later - clock earlier ↔ bound.toNat ≤ later - earlier := by
  rw [UInt32.le_iff_toNat_le, clock_sub order near]

end Device
