import TreeHaul.Proofs.Path.Stamps

/-!
The arithmetic of a stamp, step by step: a cast, a negation and two subtractions in 64 bits. No step
leaves the range but for one instant, the earliest of all. A program that checks all but the cast
stops at that instant too, and makes the stamp of every other.
-/

namespace TreeHaul.Path

namespace Arith

/-- No step may leave the range, the cast neither. -/
def exact : Arith := { checked with cast n := fit? n.toNat }

lemma fit?_toInt (a : Int64) : fit? a.toInt = some a := by
  rw [fit?, if_pos ⟨Int64.minValue_le_toInt a, Int64.toInt_le a⟩, Int64.ofInt_toInt]

lemma exists_fit {n : Int} (h : -9223372036854775808 ≤ n) (h' : n ≤ 9223372036854775807) :
    ∃ a, fit? n = some a ∧ a.toInt = n :=
  ⟨Int64.ofInt n, if_pos ⟨h, h'⟩, Int64.toInt_ofInt_of_le h (Int.lt_add_one_of_le h')⟩

lemma cast_exact {n : UInt64} {z : Int} (h : (n.toNat : Int) = z) : exact.cast n = fit? z :=
  congrArg fit? h

lemma neg_exact {a : Int64} {z : Int} (h : -a.toInt = z) : exact.neg a = fit? z :=
  congrArg fit? h

lemma sub_exact {a b : Int64} {z : Int} (h : a.toInt - b.toInt = z) : exact.sub a b = fit? z :=
  congrArg fit? h

lemma toNat_ofInt {n : Int} (h0 : 0 ≤ n) (h : n < 18446744073709551616) :
    ((UInt64.ofInt n).toNat : Int) = n := by
  rw [UInt64.ofInt, UInt64.toNat_ofNat']
  omega

/-- A cast that stays in the range does not wrap around. -/
lemma cast_checked {n : UInt64} {a : Int64} (h : exact.cast n = some a) :
    checked.cast n = some a := by
  change fit? n.toNat = some a at h
  rw [fit?] at h
  split_ifs at h
  have hn : UInt64.ofInt n.toNat = n := by
    have hlt := n.toNat_lt
    refine UInt64.toNat_inj.mp (Int.ofNat_inj.mp (toNat_ofInt ?_ ?_)) <;> omega
  have hcast : n.toInt64 = Int64.ofInt n.toNat := by
    rw [← Instant.toInt64_ofInt, hn]
  exact (congrArg some hcast).trans h

lemma bind_cast_checked {α : Type} {n : UInt64} {f : Int64 → Option α} {x : α}
    (h : (exact.cast n).bind f = some x) : (checked.cast n).bind f = some x := by
  obtain ⟨a, ha, hf⟩ := Option.bind_eq_some_iff.mp h
  rw [cast_checked ha]
  exact hf

end Arith

namespace Instant

/-- The earliest instant: its distance from the epoch is one second more than 63 bits count. -/
def earliest : Instant := { epoch with secs := Int64.minValue }

/-- The distance of an instant from the epoch, in whole numbers. -/
lemma fromEpoch_cases (t : Instant) :
    (∃ n : UInt64, t.fromEpoch = .ok ⟨n, t.nanos⟩ ∧ (n.toNat : Int) = t.secs.toInt) ∨
    (∃ n : UInt64, t.fromEpoch = .error ⟨n, 0⟩ ∧ t.nanos = 0 ∧ t.secs.toInt < 0 ∧
      (n.toNat : Int) = -t.secs.toInt) ∨
    ∃ (n : UInt64) (rest : Fin 1000000000), t.fromEpoch = .error ⟨n, rest⟩ ∧ rest.val ≠ 0 ∧
      t.nanos.val + rest.val = 1000000000 ∧ t.secs.toInt < 0 ∧
      (n.toNat : Int) = -t.secs.toInt - 1 := by
  have hlt := t.nanos.isLt
  have hmin := Int64.minValue_le_toInt t.secs
  change -2 ^ 63 ≤ t.secs.toInt at hmin
  rw [fromEpoch]
  by_cases h0 : 0 ≤ t.secs
  · rw [if_pos h0]
    have hnonneg : 0 ≤ t.secs.toInt := Int64.le_iff_toInt_le.mp h0
    refine .inl ⟨_, rfl, ?_⟩
    rw [Int64.toNat_toUInt64_of_le h0]
    exact Int.toNat_of_nonneg hnonneg
  · rw [if_neg h0]
    have hneg : t.secs.toInt < 0 := Int.not_le.mp fun h => h0 (Int64.le_iff_toInt_le.mpr h)
    by_cases hn : t.nanos = 0
    · rw [if_pos hn]
      exact .inr (.inl ⟨_, rfl, hn, hneg, Arith.toNat_ofInt (by omega) (by omega)⟩)
    · rw [if_neg hn]
      have hrest := val_rest hn
      have hsec : nanosPerSec = 1000000000 := rfl
      exact .inr (.inr ⟨_, _, rfl, by omega, by omega, hneg,
        Arith.toNat_ofInt (by omega) (by omega)⟩)

/-- **No step leaves the range**, unless the instant is the earliest of all. -/
lemma toStamp_exact_of_ne {t : Instant} (ht : t ≠ earliest) :
    t.toStamp .exact = some t.stamp := by
  have hmin := Int64.minValue_le_toInt t.secs
  have hmax := Int64.toInt_le t.secs
  change -9223372036854775808 ≤ t.secs.toInt at hmin
  change t.secs.toInt ≤ 9223372036854775807 at hmax
  rw [stamp]
  rcases t.fromEpoch_cases with
    ⟨n, he, hn⟩ | ⟨n, he, hnanos, hneg, hn⟩ | ⟨n, rest, he, hrest, hsum, hneg, hn⟩
  · have hcast : Arith.exact.cast n = some t.secs := by
      rw [Arith.cast_exact hn, Arith.fit?_toInt]
    rw [toStamp, he]
    simp only [hcast]
    rfl
  · have hlt : -9223372036854775808 < t.secs.toInt := by
      refine Int.lt_iff_le_and_ne.mpr ⟨hmin, fun h => ht ?_⟩
      have hs : t.secs = Int64.minValue := Int64.toInt_inj.mp h.symm
      calc t = ⟨t.secs, t.nanos⟩ := rfl
        _ = earliest := by rw [hs, hnanos]; rfl
    obtain ⟨m, hm, hmv⟩ := Arith.exists_fit (n := -t.secs.toInt) (by omega) (by omega)
    have hcast : Arith.exact.cast n = some m := by rw [Arith.cast_exact hn, hm]
    have hnegate : Arith.exact.neg m = some t.secs := by
      rw [Arith.neg_exact (z := t.secs.toInt) (by omega), Arith.fit?_toInt]
    rw [toStamp, he, hnanos]
    simp only [hcast, hnegate, Option.bind_eq_bind, Option.bind_some]
    rfl
  · obtain ⟨m, hm, hmv⟩ := Arith.exists_fit (n := -t.secs.toInt - 1) (by omega) (by omega)
    obtain ⟨k, hk, hkv⟩ := Arith.exists_fit (n := t.secs.toInt + 1) (by omega) (by omega)
    have hcast : Arith.exact.cast n = some m := by rw [Arith.cast_exact hn, hm]
    have hnegate : Arith.exact.neg m = some k := by
      rw [Arith.neg_exact (z := t.secs.toInt + 1) (by omega), hk]
    have hfloor : Arith.exact.sub k 1 = some t.secs := by
      have hval : k.toInt - (1 : Int64).toInt = t.secs.toInt := by
        rw [hkv]
        exact Int.add_sub_cancel _ _
      rw [Arith.sub_exact hval, Arith.fit?_toInt]
    have hnsec : Arith.exact.sub 1000000000 (Int64.ofNat rest.val) =
        some (Int64.ofNat t.nanos.val) := by
      have hval : (1000000000 : Int64).toInt - (Int64.ofNat rest.val).toInt =
          (Int64.ofNat t.nanos.val).toInt := by
        rw [toInt_ofNat_nanos, toInt_ofNat_nanos]
        change (1000000000 : Int) - rest.val = t.nanos.val
        omega
      rw [Arith.sub_exact hval, Arith.fit?_toInt]
    rw [toStamp, he]
    simp only [hcast, hnegate, if_neg hrest, hfloor, hnsec, Option.bind_eq_bind,
      Option.bind_some]
    rfl

/-- What goes through in the stricter arithmetic goes through in the other. -/
lemma toStamp_checked_of_exact {t : Instant} {s : Stamp} (h : t.toStamp .exact = some s) :
    t.toStamp .checked = some s := by
  rw [toStamp] at h ⊢
  -- past the cast the two are the same
  cases he : t.fromEpoch with
  | ok d =>
    rw [he] at h
    exact Arith.bind_cast_checked h
  | error d =>
    rw [he] at h
    exact Arith.bind_cast_checked h

lemma toStamp_exact (t : Instant) :
    t.toStamp .exact = if t = earliest then none else some t.stamp := by
  split_ifs with ht
  · rw [ht]
    rfl
  · exact toStamp_exact_of_ne ht

lemma toStamp_checked (t : Instant) :
    t.toStamp .checked = if t = earliest then none else some t.stamp := by
  split_ifs with ht
  · rw [ht]
    rfl
  · exact toStamp_checked_of_exact (toStamp_exact_of_ne ht)

end Instant

end TreeHaul.Path
