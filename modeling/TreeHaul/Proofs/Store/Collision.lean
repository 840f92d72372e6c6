import Mathlib.Algebra.Group.Nat.Defs
import Mathlib.Data.List.Perm.Basic
import Mathlib.Tactic.Lemma
import TreeHaul.Store.Hash

/-!
Which keys hash apart. A step of the FNV-1a hash permutes the words, so keys with a common end
collide only if they did before it. Two different bytes leave two words that differ in their low
byte alone, and after one multiplication such words differ elsewhere, where no further byte can make
up for it. The sum of the bytes sees no order at all.
-/

namespace TreeHaul.Store

open TreeHaul.Text

namespace Fnv1a

/-! ### One step -/

/-- The word that undoes a multiplication by the prime. -/
def inverse : UInt64 := 0xce965057aff6957b

lemma prime_mul_inverse : prime * inverse = 1 := by decide

lemma mul_prime_inj {h g : UInt64} : h * prime = g * prime ↔ h = g := by
  refine ⟨fun hm => ?_, congrArg (· * prime)⟩
  have hmul := congrArg (· * inverse) hm
  simpa only [UInt64.mul_assoc, prime_mul_inverse, UInt64.mul_one] using hmul

lemma step_state_inj {h g : UInt64} {b : UInt8} : step h b = step g b ↔ h = g := by
  rw [step, step, mul_prime_inj, UInt64.xor_left_inj]

lemma step_byte_inj {h : UInt64} {b c : UInt8} : step h b = step h c ↔ b = c := by
  rw [step, step, mul_prime_inj, UInt64.xor_right_inj, UInt8.toUInt64_inj]

lemma run_state_inj {h g : UInt64} {bytes : Bytes} : run h bytes = run g bytes ↔ h = g := by
  induction bytes generalizing h g with
  | nil => rfl
  | cons b bytes ih => rw [run_cons, run_cons, ih, step_state_inj]

/-! ### Two steps -/

/-- Equal but for the low byte. -/
def Near (h g : UInt64) : Prop := h.toNat / 2 ^ 8 = g.toNat / 2 ^ 8

lemma Near.symm {h g : UInt64} (hn : Near h g) : Near g h := Eq.symm hn

lemma Near.trans {f g h : UInt64} (hn : Near f g) (hn' : Near g h) : Near f h := Eq.trans hn hn'

lemma near_xor_byte (h : UInt64) (b : UInt8) : Near (h ^^^ b.toUInt64) h := by
  have hb : b.toNat / 2 ^ 8 = 0 := Nat.div_eq_of_lt b.toNat_lt
  unfold Near
  rw [UInt64.toNat_xor, UInt8.toNat_toUInt64, Nat.xor_div_two_pow, hb, Nat.xor_zero]

/-- States from which two bytes lead to one state. -/
lemma near_of_step_eq {h g : UInt64} {b c : UInt8} (hs : step h b = step g c) : Near h g := by
  have hx : h ^^^ b.toUInt64 = g ^^^ c.toUInt64 := mul_prime_inj.mp hs
  have hh := (near_xor_byte h b).symm
  rw [hx] at hh
  exact hh.trans (near_xor_byte g c)

/-- Two numbers that differ in the low byte alone differ above it when multiplied by the prime. -/
lemma not_near_mul_prime {m n : ℕ} (hlt : m < n) (hn : m / 2 ^ 8 = n / 2 ^ 8) :
    m * prime.toNat % 2 ^ 64 / 2 ^ 8 ≠ n * prime.toNat % 2 ^ 64 / 2 ^ 8 := by
  have hprime : prime.toNat = 1099511628211 := rfl
  intro hm
  have hlow : (m + 1) * prime.toNat ≤ n * prime.toNat := Nat.mul_le_mul_right _ hlt
  have hhigh : n * prime.toNat ≤ (m + 255) * prime.toNat := Nat.mul_le_mul_right _ (by omega)
  rw [hprime] at hm hlow hhigh
  -- the larger product may pass the size of a word once more often than the smaller one
  rcases Nat.lt_or_ge (m * 1099511628211 / 2 ^ 64) (n * 1099511628211 / 2 ^ 64) with hpass | hpass
  · omega
  · omega

lemma Near.eq_of_mul_prime {h g : UInt64} (hn : Near h g) (hm : Near (h * prime) (g * prime)) :
    h = g := by
  unfold Near at hm
  rw [UInt64.toNat_mul, UInt64.toNat_mul] at hm
  rcases Nat.lt_trichotomy h.toNat g.toNat with hlt | heq | hgt
  · exact absurd hm (not_near_mul_prime hlt hn)
  · exact UInt64.toNat_inj.mp heq
  · exact absurd hm.symm (not_near_mul_prime hgt hn.symm)

lemma step_step_inj {h : UInt64} {b b' c c' : UInt8} :
    step (step h b) b' = step (step h c) c' ↔ b = c ∧ b' = c' := by
  refine ⟨fun hs => ?_, fun ⟨hb, hb'⟩ => by rw [hb, hb']⟩
  have hbytes : Near (h ^^^ b.toUInt64) (h ^^^ c.toUInt64) :=
    (near_xor_byte h b).trans (near_xor_byte h c).symm
  have hx : h ^^^ b.toUInt64 = h ^^^ c.toUInt64 := hbytes.eq_of_mul_prime (near_of_step_eq hs)
  have hb : b = c := UInt8.toUInt64_inj.mp ((UInt64.xor_right_inj _).mp hx)
  rw [hb, step_byte_inj] at hs
  exact ⟨hb, hs⟩

lemma run_inj_of_length_le_two {h : UInt64} {x y : Bytes} (hlen : x.length = y.length)
    (hle : x.length ≤ 2) : run h x = run h y ↔ x = y := by
  match x, y with
  | [], [] => exact iff_of_true rfl rfl
  | [b], [c] => simp [step_byte_inj]
  | [b, b'], [c, c'] => simp [step_step_inj]
  | _ :: _ :: _ :: _, _ => simp at hle
  | [], _ :: _ | _ :: _, [] | [_], _ :: _ :: _ | _ :: _ :: _, [_] | [_, _], _ :: _ :: _ :: _ =>
    simp at hlen

end Fnv1a

/-! ### Keys -/

lemma byteSum_eq_of_perm {k l : String} (hp : (bytesOf k).Perm (bytesOf l)) :
    byteSum k = byteSum l := by
  have hcomm (h : UInt64) (b c : UInt8) :
      h + b.toUInt64 + c.toUInt64 = h + c.toUInt64 + b.toUInt64 := by
    rw [UInt64.add_assoc, UInt64.add_comm b.toUInt64, UInt64.add_assoc]
  exact hp.foldl_eq' (fun b _ c _ h => hcomm h b c) 0

/-- **The FNV-1a hash tells neighbours apart.** Keys that are equal but for a part of one or two
bytes have different hashes, whatever stands before and after it; so no other byte in the place of
one, and no exchange of two neighbours, leads to the same hash. The sum of the bytes does not tell
one order from another. -/
theorem fnv1a_ne_of_ne_within_two {before after x y : Bytes} {k l : String}
    (hk : bytesOf k = before ++ x ++ after) (hl : bytesOf l = before ++ y ++ after)
    (hlen : x.length = y.length) (hle : x.length ≤ 2) (hne : x ≠ y) :
    fnv1a k ≠ fnv1a l ∧ (x.Perm y → byteSum k = byteSum l) := by
  constructor
  · rw [fnv1a, fnv1a, hk, hl]
    simp only [Fnv1a.run_append]
    rw [Ne, Fnv1a.run_state_inj, Fnv1a.run_inj_of_length_le_two hlen hle]
    exact hne
  · intro hp
    apply byteSum_eq_of_perm
    rw [hk, hl]
    exact (hp.append_left before).append_right after

/-- Two runs with their digits exchanged. -/
theorem fnv1a_run_12_ne_run_21 :
    fnv1a "run-12" ≠ fnv1a "run-21" ∧ byteSum "run-12" = byteSum "run-21" := by
  have hk : bytesOf "run-12" = bytesOf "run-" ++ [49, 50] ++ [] := by decide
  have hl : bytesOf "run-21" = bytesOf "run-" ++ [50, 49] ++ [] := by decide
  have h := fnv1a_ne_of_ne_within_two hk hl rfl (by decide) (by decide)
  exact ⟨h.1, h.2 (List.Perm.swap 50 49 [])⟩

end TreeHaul.Store
