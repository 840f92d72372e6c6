import Mathlib.Data.List.Basic
import TreeHaul.Factory

/-!
Entries that can be told apart. An entry gets a number when it is made and keeps it, so that one
entry can be followed through a factory. Without the numbers such a factory does what it always
does.
-/

universe u

namespace TreeHaul

open TreeHaul.Path HasEntry
open scoped List

/-- An entry with a number. -/
structure Numbered where
  number : ℕ
  driver : AnyDriver
  deriving DecidableEq, Repr

namespace Numbered

instance : HasEntry Numbered where
  backend d := backend d.driver
  entry d := entry d.driver
  setEntry d e := { d with driver := setEntry d.driver e }
  fansIn d := fansIn d.driver

instance {σ : Type u} [System σ] : Driver σ Numbered where
  perform r d w :=
    let (a, e, w) := Driver.perform r d.driver w
    (a, { d with driver := e }, w)
  finalize d w :=
    let (e, w) := Driver.finalize d.driver w
    ({ d with driver := e }, w)
  reset path d w :=
    let (e, w) := Driver.reset path d.driver w
    ({ d with driver := e }, w)

/-- A new entry with this number. -/
def ofPath (n : ℕ) (b : Backend) (path : String) : Numbered := ⟨n, .ofPath b path⟩

end Numbered

namespace Factory

section

variable {σ : Type u} {δ ε : Type}

/-- Sets the link policy of an entry that is handed out. -/
def dress [HasEntry δ] (f : Factory δ) (d : δ) : δ :=
  if f.config.followLinks then Driver.follow d else d

/-- A factory with all that is idle replaced. -/
def map (g : δ → ε) (f : Factory δ) : Factory ε := ⟨f.config, fun b => (f.idle b).map g, f.stats⟩

lemma map_setIdle (g : δ → ε) (f : Factory δ) (b : Backend) (shelf : List δ) :
    (f.setIdle b shelf).map g = (f.map g).setIdle b (shelf.map g) := by
  unfold map setIdle
  simp only [mk.injEq, true_and, and_true]
  funext c
  split <;> rfl

variable [Driver σ δ]

/-- Acquires an entry, which is made in this way if it has to be. -/
def acquireBy (make : Backend → String → δ) (f : Factory δ) (path : String) (w : σ) :
    δ × Factory δ × σ :=
  letI : Made δ := ⟨make⟩
  f.acquire path w

/-! ### Two ways to acquire and two to release -/

variable {f : Factory δ} {make : Backend → String → δ} {path : String} {d : δ} {w : σ}

lemma acquireBy_nil (h : f.idle (f.route path) = []) :
    f.acquireBy make path w = (f.dress (make (f.route path) path),
      { f with stats := { f.stats with acquired := f.stats.acquired + 1 } }, w) := by
  unfold acquireBy acquire
  dsimp only
  rw [h]
  rfl

lemma acquireBy_cons {shelf : List δ} (h : f.idle (f.route path) = d :: shelf) :
    f.acquireBy make path w = (f.dress (Driver.reset path d w).1,
      { f.setIdle (f.route path) shelf with
        stats := { f.stats with
          acquired := f.stats.acquired + 1
          recycled := f.stats.recycled + 1 } }, (Driver.reset path d w).2) := by
  unfold acquireBy acquire
  dsimp only
  rw [h]
  rfl

lemma release_of_le
    (h : f.config.maxIdle ≤ f.countIdle (backend (Driver.finalize d w).1)) :
    f.release d w = ({ f with stats := { f.stats with dropped := f.stats.dropped + 1 } },
      (Driver.finalize d w).2) := if_pos h

lemma release_of_lt
    (h : f.countIdle (backend (Driver.finalize d w).1) < f.config.maxIdle) :
    f.release d w =
      ({ f.setIdle (backend (Driver.finalize d w).1)
          ((Driver.finalize d w).1 :: f.idle (backend (Driver.finalize d w).1)) with
        stats := { f.stats with released := f.stats.released + 1 } },
        (Driver.finalize d w).2) := if_neg (Nat.not_le.mpr h)

end

variable {σ : Type u} [System σ] (f : Factory Numbered)

/-! ### Numbers do not matter -/

lemma driver_dress (d : Numbered) :
    (f.dress d).driver = (f.map Numbered.driver).dress d.driver := by
  unfold dress map
  dsimp only
  split <;> rfl

lemma map_acquireBy (n : ℕ) (path : String) (w : σ) :
    (f.map Numbered.driver).acquireBy AnyDriver.ofPath path w =
      let o := f.acquireBy (Numbered.ofPath n) path w
      (o.1.driver, o.2.1.map Numbered.driver, o.2.2) := by
  have hroute : (f.map Numbered.driver).route path = f.route path := rfl
  have hidle : (f.map Numbered.driver).idle (f.route path) =
      (f.idle (f.route path)).map Numbered.driver := rfl
  cases hi : f.idle (f.route path) with
  | nil =>
    rw [hi, ← hroute] at hidle
    rw [acquireBy_nil hidle, acquireBy_nil hi]
    dsimp only
    rw [driver_dress]
    rfl
  | cons d shelf =>
    rw [hi, ← hroute] at hidle
    rw [acquireBy_cons hidle, acquireBy_cons hi]
    dsimp only
    rw [driver_dress, hroute, ← map_setIdle]
    rfl

lemma map_release (d : Numbered) (w : σ) :
    (f.map Numbered.driver).release d.driver w =
      let o := f.release d w
      (o.1.map Numbered.driver, o.2) := by
  let b := backend (Driver.finalize d w).1
  have hcount : (f.map Numbered.driver).countIdle b = f.countIdle b := List.length_map _
  rcases Nat.lt_or_ge (f.countIdle b) f.config.maxIdle with h | h
  · have hsame : (f.map Numbered.driver).countIdle b < f.config.maxIdle := hcount ▸ h
    rw [release_of_lt h, release_of_lt (f := f.map Numbered.driver) (d := d.driver) (w := w) hsame]
    have hset := map_setIdle Numbered.driver f b ((Driver.finalize d w).1 :: f.idle b)
    exact congrArg (fun g : Factory AnyDriver =>
      ({ g with stats := { f.stats with released := f.stats.released + 1 } },
        (Driver.finalize d w).2)) hset.symm
  · have hsame : f.config.maxIdle ≤ (f.map Numbered.driver).countIdle b := hcount ▸ h
    rw [release_of_le h, release_of_le (f := f.map Numbered.driver) (d := d.driver) (w := w) hsame]
    rfl

/-! ### Numbers on the shelves -/

/-- The numbers of what is idle. -/
def shelved : List ℕ :=
  ((f.idle .posix).map Numbered.number ++ (f.idle .list).map Numbered.number) ++
    (f.idle .null).map Numbered.number

variable {f}

lemma mem_shelved {n : ℕ} : n ∈ f.shelved ↔ ∃ b, ∃ d ∈ f.idle b, d.number = n := by
  unfold shelved
  simp only [List.mem_append, List.mem_map]
  constructor
  · rintro ((h | h) | h)
    · exact ⟨.posix, h⟩
    · exact ⟨.list, h⟩
    · exact ⟨.null, h⟩
  · rintro ⟨b, h⟩
    cases b with
    | posix => exact .inl (.inl h)
    | list => exact .inl (.inr h)
    | null => exact .inr h

/-- A factory with one more entry on a shelf has its number more. -/
lemma shelved_perm_cons {g : Factory Numbered} {b : Backend} {d : Numbered}
    (hb : g.idle b = d :: f.idle b) (h : ∀ c, c ≠ b → g.idle c = f.idle c) :
    g.shelved ~ d.number :: f.shelved := by
  unfold shelved
  cases b with
  | posix =>
    rw [hb, h .list nofun, h .null nofun]
    exact .refl _
  | list =>
    rw [hb, h .posix nofun, h .null nofun]
    exact List.perm_middle.append_right _
  | null =>
    rw [hb, h .posix nofun, h .list nofun]
    exact List.perm_middle

lemma number_dress (d : Numbered) : (f.dress d).number = d.number := by
  unfold dress
  split <;> rfl

/-- What is acquired came off a shelf, or it is new and has the number of the acquisition. -/
lemma number_acquireBy (f : Factory Numbered) (path : String) (w : σ) :
    let o := f.acquireBy (Numbered.ofPath f.stats.acquired) path w
    o.2.1.stats.acquired = f.stats.acquired + 1 ∧
    (f.shelved ~ o.1.number :: o.2.1.shelved ∨
      o.1.number = f.stats.acquired ∧ o.2.1.shelved = f.shelved) := by
  cases hi : f.idle (f.route path) with
  | nil =>
    rw [acquireBy_nil hi]
    exact ⟨rfl, .inr ⟨number_dress _, rfl⟩⟩
  | cons d shelf =>
    rw [acquireBy_cons hi]
    dsimp only
    rw [number_dress]
    refine ⟨rfl, .inl (shelved_perm_cons (b := f.route path) (d := d) ?_ fun c hc => ?_)⟩
    · rw [hi]
      exact congrArg (d :: ·) (if_pos rfl).symm
    · exact (if_neg hc).symm

/-- What is released goes onto a shelf or is gone. -/
lemma number_release (f : Factory Numbered) (d : Numbered) (w : σ) :
    (f.release d w).1.stats.acquired = f.stats.acquired ∧
    ((f.release d w).1.shelved ~ d.number :: f.shelved ∨
      (f.release d w).1.shelved = f.shelved) := by
  let b := backend (Driver.finalize d w).1
  rcases Nat.lt_or_ge (f.countIdle b) f.config.maxIdle with h | h
  · rw [release_of_lt h]
    refine ⟨rfl, .inl (shelved_perm_cons (b := b) (d := (Driver.finalize d w).1) ?_ fun c hc => ?_)⟩
    · exact if_pos rfl
    · exact if_neg hc
  · rw [release_of_le h]
    exact ⟨rfl, .inr rfl⟩

end Factory

end TreeHaul
