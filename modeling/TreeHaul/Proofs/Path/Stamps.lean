import Mathlib.Tactic.Lemma
import Mathlib.Tactic.SplitIfs
import TreeHaul.Path.Instant

/-!
Stamps and instants. A stamp whose nanoseconds are in range becomes an instant and is had back from
it, bit by bit, at any number of seconds; and every instant comes from the stamp that is made of it.
-/

namespace TreeHaul.Path

namespace Stamp

/-- The nanoseconds are less than a second. -/
def Proper (s : Stamp) : Prop := 0 ≤ s.nsec ∧ s.nsec ≤ 999999999

instance (s : Stamp) : Decidable s.Proper := inferInstanceAs (Decidable (_ ∧ _))

/-- Nanoseconds in place of which the system takes the present time. -/
def present : Int64 := 0x3fffffff

/-- Nanoseconds at which the system leaves a time as it is. -/
def unchanged : Int64 := 0x3ffffffe

lemma Proper.ne_of_lt {s : Stamp} (h : s.Proper) {n : Int64} (hn : 999999999 < n) :
    s.nsec ≠ n := by
  rintro rfl
  exact Int64.not_le.mpr hn h.2

lemma Proper.ne {s : Stamp} (h : s.Proper) : s.nsec ≠ present ∧ s.nsec ≠ unchanged :=
  ⟨h.ne_of_lt (by decide), h.ne_of_lt (by decide)⟩

end Stamp

namespace Instant

/-! ### From stamps -/

/-- The time that a stamp means, if it can be represented. -/
def exactly? (s : Stamp) : Option Instant :=
  (epoch.shift? s.sec.toInt).bind (·.addNanos? (clampNanos s.nsec))

lemma ofStamp_eq (s : Stamp) : ofStamp s = (exactly? s).getD epoch := rfl

lemma ofSecs?_toInt (a : Int64) (nanos : Fin 1000000000) :
    ofSecs? a.toInt nanos = some ⟨a, nanos⟩ := by
  rw [ofSecs?, if_pos ⟨Int64.minValue_le_toInt a, Int64.toInt_le a⟩, Int64.ofInt_toInt]

/-- No stamp is out of range: the shift starts from a whole second, so nothing is carried. -/
lemma exactly?_eq (s : Stamp) : exactly? s = some ⟨s.sec, clampNanos s.nsec⟩ := by
  have hshift : epoch.shift? s.sec.toInt = some ⟨s.sec, 0⟩ := by
    have hzero : epoch.secs.toInt + s.sec.toInt = s.sec.toInt := Int.zero_add _
    rw [shift?, hzero, ofSecs?_toInt]
    rfl
  have hcarry : (0 : Fin 1000000000).val + (clampNanos s.nsec).val < nanosPerSec := by
    rw [Fin.val_zero, Nat.zero_add]
    exact (clampNanos s.nsec).isLt
  rw [exactly?, hshift, Option.bind_some, addNanos?]
  simp only [if_pos hcarry, Int.add_zero, ofSecs?_toInt, Fin.zero_add]

lemma ofStamp_eq_mk (s : Stamp) : ofStamp s = ⟨s.sec, clampNanos s.nsec⟩ := by
  rw [ofStamp_eq, exactly?_eq, Option.getD_some]

/-- Nanoseconds in range are taken as they are. -/
lemma val_clampNanos {n : Int64} (h0 : 0 ≤ n) (h1 : n ≤ 999999999) :
    ((clampNanos n).val : Int) = n.toInt := by
  rw [Int64.le_iff_toInt_le] at h0 h1
  change 0 ≤ n.toInt at h0
  change n.toInt ≤ 999999999 at h1
  have hval : (clampNanos n).val = n.toInt.toNat := by
    rw [clampNanos, nanosOf, Int.min_eq_left h1]
    exact Nat.mod_eq_of_lt (by omega)
  rw [hval, Int.toNat_of_nonneg h0]

/-! ### To stamps -/

lemma toInt64_ofInt (n : Int) : (UInt64.ofInt n).toInt64 = Int64.ofInt n := by
  apply Int64.toBitVec_inj.mp
  rw [Int64.toBitVec_ofInt]
  apply BitVec.eq_of_toNat_eq
  have hlt : (n % 2 ^ 64).toNat < 2 ^ 64 := by omega
  calc (UInt64.ofInt n).toInt64.toBitVec.toNat = (n % 2 ^ 64).toNat % 2 ^ 64 := rfl
    _ = (BitVec.ofInt 64 n).toNat := by
      rw [Nat.mod_eq_of_lt hlt, BitVec.toNat_ofInt]
      rfl

/-- What is left of a second that has begun. -/
lemma val_rest {t : Instant} (h : t.nanos ≠ 0) :
    (nanosOf (nanosPerSec - t.nanos.val)).val = nanosPerSec - t.nanos.val := by
  have hpos : 0 < t.nanos.val := Nat.pos_of_ne_zero fun h0 => h (Fin.ext h0)
  refine Nat.mod_eq_of_lt ?_
  rw [nanosPerSec]
  omega

lemma sub_sub_self (a b : Int64) : a - (a - b) = b := by
  rw [Int64.sub_eq_add_neg, Int64.neg_sub, Int64.add_comm, Int64.sub_add_cancel]

lemma ofNat_rest {n : Nat} (h : n < nanosPerSec) :
    1000000000 - Int64.ofNat (nanosPerSec - n) = Int64.ofNat n := by
  have hsub : ((nanosPerSec - n : Nat) : Int) = nanosPerSec - n := by omega
  rw [← Int64.ofInt_eq_ofNat, hsub, Int64.ofInt_sub, Int64.ofInt_eq_ofNat, Int64.ofInt_eq_ofNat]
  exact sub_sub_self 1000000000 (Int64.ofNat n)

/-- The seconds and the nanoseconds of an instant as the system writes them. -/
def stamp (t : Instant) : Stamp := ⟨t.secs, Int64.ofNat t.nanos.val⟩

/-- Wrapping around, an instant gets the stamp it should, before the epoch too. -/
lemma toStamp_wrapping (t : Instant) : t.toStamp .wrapping = some t.stamp := by
  rw [toStamp, fromEpoch, stamp]
  split_ifs with h0 hn
  · rfl
  · simp only [Arith.wrapping, Option.bind_eq_bind, Option.bind_some, toInt64_ofInt, Int64.ofInt_neg,
      Int64.ofInt_toInt, Int64.neg_neg, hn]
    rfl
  · have hlt : t.nanos.val < nanosPerSec := t.nanos.isLt
    have hne : nanosPerSec - t.nanos.val ≠ 0 := by omega
    have hsecs : -(-t.secs - 1) - 1 = t.secs := by
      rw [Int64.neg_sub, Int64.sub_neg, Int64.add_comm, Int64.add_sub_cancel]
    simp only [Arith.wrapping, Option.bind_eq_bind, Option.bind_some, val_rest hn, if_neg hne,
      ofNat_rest hlt, toInt64_ofInt, Int64.ofInt_sub, Int64.ofInt_neg, Int64.ofInt_toInt]
    change some (Stamp.mk (-(-t.secs - 1) - 1) _) = _
    rw [hsecs]

/-! ### There and back -/

lemma toInt_ofNat_nanos (n : Fin 1000000000) : (Int64.ofNat n.val).toInt = n.val := by
  have hlt : n.val < 1000000000 := n.isLt
  exact Int64.toInt_ofNat_of_lt (by omega)

lemma stamp_ofStamp {s : Stamp} (h : s.Proper) : (ofStamp s).stamp = s := by
  have hnsec : Int64.ofNat (clampNanos s.nsec).val = s.nsec := by
    rw [← Int64.ofInt_eq_ofNat, val_clampNanos h.1 h.2, Int64.ofInt_toInt]
  rw [ofStamp_eq_mk, stamp, hnsec]

lemma proper_stamp (t : Instant) : t.stamp.Proper := by
  have hlt : t.nanos.val < 1000000000 := t.nanos.isLt
  rw [stamp, Stamp.Proper, Int64.le_iff_toInt_le, Int64.le_iff_toInt_le, toInt_ofNat_nanos]
  change 0 ≤ (t.nanos.val : Int) ∧ (t.nanos.val : Int) ≤ 999999999
  omega

lemma exactly?_stamp (t : Instant) : exactly? t.stamp = some t := by
  obtain ⟨h0, h1⟩ := t.proper_stamp
  have hnanos : clampNanos t.stamp.nsec = t.nanos := by
    have hval := val_clampNanos h0 h1
    rw [stamp, toInt_ofNat_nanos] at hval
    rw [stamp]
    exact Fin.ext (Int.ofNat_inj.mp hval)
  rw [exactly?_eq, hnanos, stamp]

end Instant

end TreeHaul.Path
