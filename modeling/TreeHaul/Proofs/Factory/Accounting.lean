import Mathlib.Data.List.Basic
import TreeHaul.Proofs.Factory.Workshop

/-!
The books of a factory. An entry on a shelf was put there by a release and has not been handed out
since, so what is idle is what was put on a shelf without what was recycled. Every call counts in
exactly one of the counters for calls, so none of these outgrows the number of calls.
-/

universe u

namespace TreeHaul

open TreeHaul.Path HasEntry

/-- One call on a factory. The entries that are given to it may come from anywhere, in any state. -/
inductive Deal where
  | acquire (path : String)
  | append (d : AnyDriver) (suffix : String)
  | release (d : AnyDriver)

namespace Deal

/-- The path that an entry is wanted for. -/
def wanted? : Deal → Option String
  | acquire path => some path
  | append d suffix => some (Driver.path d ++ suffix)
  | release _ => none

/-- The entry that is given back. -/
def returned? : Deal → Option AnyDriver
  | release d => some d
  | acquire _ | append .. => none

variable {σ : Type u} [System σ]

/-- The factory after one call in a world. -/
def apply (f : Factory AnyDriver) (a : Deal) (w : σ) : Factory AnyDriver :=
  match a with
  | acquire path => (f.acquire path w).2.1
  | append d suffix => (f.append d suffix w).2.1
  | release d => (f.release d w).1

/-- The factory after some calls, each in a world of its own. -/
def run (f : Factory AnyDriver) (deals : List (Deal × σ)) : Factory AnyDriver :=
  deals.foldl (fun f a => a.1.apply f a.2) f

lemma run_cons (f : Factory AnyDriver) (a : Deal) (w : σ) (deals : List (Deal × σ)) :
    run f ((a, w) :: deals) = run (a.apply f w) deals := rfl

end Deal

/-! ### What one call books -/

namespace Factory

variable {σ : Type u} [System σ] {f f' : Factory AnyDriver} {b : Backend}

/-- An entry of a backend is handed out: off the shelf if something is there. -/
structure HandsOut (b : Backend) (f f' : Factory AnyDriver) : Prop where
  config : f'.config = f.config
  shelf : f'.countIdle b = f.countIdle b - 1
  others (c : Backend) : c ≠ b → f'.countIdle c = f.countIdle c
  stats : f'.stats =
    { f.stats with
      acquired := f.stats.acquired + 1
      recycled := f.stats.recycled + if 0 < f.countIdle b then 1 else 0 }

/-- An entry of a backend is taken back: onto the shelf if there is room, else it is dropped. -/
structure TakesBack (b : Backend) (f f' : Factory AnyDriver) : Prop where
  config : f'.config = f.config
  shelf : f'.countIdle b = f.countIdle b + if f.countIdle b < f.config.maxIdle then 1 else 0
  others (c : Backend) : c ≠ b → f'.countIdle c = f.countIdle c
  stats : f'.stats =
    if f.countIdle b < f.config.maxIdle then { f.stats with released := f.stats.released + 1 }
    else { f.stats with dropped := f.stats.dropped + 1 }

lemma countIdle_setIdle_self (f : Factory AnyDriver) (b : Backend) (shelf : List AnyDriver) :
    (f.setIdle b shelf).countIdle b = shelf.length := by
  unfold countIdle setIdle
  dsimp only
  rw [if_pos rfl]

lemma countIdle_setIdle_of_ne (f : Factory AnyDriver) (shelf : List AnyDriver) {b c : Backend}
    (h : c ≠ b) : (f.setIdle b shelf).countIdle c = f.countIdle c := by
  unfold countIdle setIdle
  dsimp only
  rw [if_neg h]

lemma handsOut_acquire (f : Factory AnyDriver) (path : String) (w : σ) :
    HandsOut (f.route path) f (f.acquire path w).2.1 := by
  unfold acquire
  dsimp only
  cases hi : f.idle (f.route path) with
  | nil =>
    have hcount : f.countIdle (f.route path) = 0 := by rw [countIdle, hi, List.length_nil]
    refine ⟨rfl, ?_, fun _ _ => rfl, ?_⟩
    · rw [hcount]
      exact hcount
    · rw [hcount]
      rfl
  | cons d shelf =>
    have hcount : f.countIdle (f.route path) = shelf.length + 1 := by
      rw [countIdle, hi, List.length_cons]
    refine ⟨rfl, ?_, fun c hc => countIdle_setIdle_of_ne f shelf hc, ?_⟩
    · rw [hcount]
      exact countIdle_setIdle_self f _ shelf
    · rw [hcount, if_pos (Nat.succ_pos _)]

lemma takesBack_release (f : Factory AnyDriver) (d : AnyDriver) (w : σ) :
    TakesBack (backend d) f (f.release d w).1 := by
  -- a release leaves an entry the backend that it has
  have hb : backend (Driver.finalize d w).1 = backend d := by cases d <;> rfl
  unfold release
  dsimp only
  rw [hb]
  split
  · rename_i hfull
    have hroom : ¬f.countIdle (backend d) < f.config.maxIdle := Nat.not_lt.mpr hfull
    refine ⟨rfl, ?_, fun _ _ => rfl, ?_⟩
    · rw [if_neg hroom]
      rfl
    · rw [if_neg hroom]
  · rename_i hfull
    have hroom : f.countIdle (backend d) < f.config.maxIdle := Nat.not_le.mp hfull
    refine ⟨rfl, ?_, fun c hc => countIdle_setIdle_of_ne f _ hc, ?_⟩
    · rw [if_pos hroom]
      exact countIdle_setIdle_self f _ _
    · rw [if_pos hroom]

/-! ### The balance -/

/-- What is idle in all. -/
def stock (f : Factory AnyDriver) : ℕ :=
  f.countIdle .posix + f.countIdle .list + f.countIdle .null

/-- A change of one shelf shows in full in the stock. -/
lemma stock_add_countIdle (h : ∀ c, c ≠ b → f'.countIdle c = f.countIdle c) :
    f'.stock + f.countIdle b = f.stock + f'.countIdle b := by
  unfold stock
  cases b with
  | posix =>
    have := h .list nofun
    have := h .null nofun
    omega
  | list =>
    have := h .posix nofun
    have := h .null nofun
    omega
  | null =>
    have := h .posix nofun
    have := h .list nofun
    omega

lemma countIdle_le_stock (f : Factory AnyDriver) (b : Backend) : f.countIdle b ≤ f.stock := by
  unfold stock
  cases b <;> omega

/-- No shelf is too full, and everything idle was put on a shelf and not recycled since. -/
structure Balanced (f : Factory AnyDriver) : Prop where
  capped (b : Backend) : f.countIdle b ≤ f.config.maxIdle
  stock : f.stock + f.stats.recycled = f.stats.released
  reused : f.stats.recycled ≤ f.stats.acquired

lemma balanced_ofConfig (config : Config) : (ofConfig config : Factory AnyDriver).Balanced :=
  ⟨fun _ => Nat.zero_le _, rfl, Nat.le_refl 0⟩

lemma HandsOut.balanced (hf : HandsOut b f f') (h : f.Balanced) : f'.Balanced := by
  have hshelf := hf.shelf
  have hstock := stock_add_countIdle hf.others
  have hle := countIdle_le_stock f b
  have hbooks := h.stock
  have hreused := h.reused
  refine ⟨fun c => ?_, ?_, ?_⟩
  · rw [hf.config]
    have hcap := h.capped c
    by_cases hc : c = b
    · subst hc
      omega
    · rwa [hf.others c hc]
  · rw [hf.stats]
    dsimp only
    split <;> omega
  · rw [hf.stats]
    dsimp only
    split <;> omega

lemma TakesBack.released (hf : TakesBack b f f') :
    f'.stats.released =
      f.stats.released + if f.countIdle b < f.config.maxIdle then 1 else 0 := by
  rw [hf.stats]
  split <;> rfl

lemma TakesBack.acquired (hf : TakesBack b f f') :
    f'.stats.acquired = f.stats.acquired ∧ f'.stats.recycled = f.stats.recycled := by
  rw [hf.stats]
  split <;> exact ⟨rfl, rfl⟩

lemma TakesBack.returned (hf : TakesBack b f f') :
    f'.stats.released + f'.stats.dropped = f.stats.released + f.stats.dropped + 1 := by
  rw [hf.stats]
  split
  · exact Nat.add_right_comm ..
  · rfl

/-- A shelf grows together with the count of what was put on one. -/
lemma TakesBack.balanced (hf : TakesBack b f f') (h : f.Balanced) : f'.Balanced := by
  have hshelf := hf.shelf
  have hstock := stock_add_countIdle hf.others
  have hbooks := h.stock
  obtain ⟨hacquired, hrecycled⟩ := hf.acquired
  refine ⟨fun c => ?_, ?_, ?_⟩
  · rw [hf.config]
    have hcap := h.capped c
    by_cases hc : c = b
    · subst hc
      split at hshelf <;> omega
    · rwa [hf.others c hc]
  · rw [hrecycled, hf.released]
    omega
  · rw [hacquired, hrecycled]
    exact h.reused

end Factory

/-! ### Runs -/

namespace Deal

open Factory

variable {σ : Type u} [System σ]

/-- A call hands an entry out or takes one back. -/
lemma apply_cases (f : Factory AnyDriver) (a : Deal) (w : σ) :
    (∃ path, a.wanted? = some path ∧ a.returned? = none ∧ HandsOut (f.route path) f (a.apply f w)) ∨
    ∃ d, a.wanted? = none ∧ a.returned? = some d ∧ TakesBack (backend d) f (a.apply f w) := by
  cases a with
  | acquire path => exact .inl ⟨path, rfl, rfl, handsOut_acquire f path w⟩
  | append d suffix => exact .inl ⟨_, rfl, rfl, handsOut_acquire f _ w⟩
  | release d => exact .inr ⟨d, rfl, rfl, takesBack_release f d w⟩

/-- How many calls wanted an entry. -/
def countWanted (deals : List (Deal × σ)) : ℕ := deals.countP (·.1.wanted?.isSome)

/-- How many calls gave an entry back. -/
def countReturned (deals : List (Deal × σ)) : ℕ := deals.countP (·.1.returned?.isSome)

/-- What a factory has booked over some calls, from what it had booked before. -/
structure Booked (deals : List (Deal × σ)) (f f' : Factory AnyDriver) : Prop where
  config : f'.config = f.config
  balanced : f.Balanced → f'.Balanced
  acquired : f'.stats.acquired = f.stats.acquired + countWanted deals
  returned : f'.stats.released + f'.stats.dropped =
    f.stats.released + f.stats.dropped + countReturned deals

lemma booked_run (f : Factory AnyDriver) (deals : List (Deal × σ)) :
    Booked deals f (run f deals) := by
  induction deals generalizing f with
  | nil => exact ⟨rfl, id, rfl, rfl⟩
  | cons a rest ih =>
    obtain ⟨a, w⟩ := a
    have hrest := ih (a.apply f w)
    have hwanted : countWanted ((a, w) :: rest) =
      countWanted rest + if a.wanted?.isSome then 1 else 0 := List.countP_cons
    have hgiven : countReturned ((a, w) :: rest) =
      countReturned rest + if a.returned?.isSome then 1 else 0 := List.countP_cons
    rw [run_cons]
    rcases apply_cases f a w with ⟨path, hw, hr, hout⟩ | ⟨d, hw, hr, hback⟩
    · refine ⟨hrest.config.trans hout.config, hrest.balanced ∘ hout.balanced, ?_, ?_⟩
      · rw [hrest.acquired, hout.stats, hwanted, hw]
        exact Nat.add_right_comm ..
      · rw [hrest.returned, hout.stats, hgiven, hr]
        rfl
    · refine ⟨hrest.config.trans hback.config, hrest.balanced ∘ hback.balanced, ?_, ?_⟩
      · rw [hrest.acquired, hback.acquired.1, hwanted, hw]
        rfl
      · rw [hrest.returned, hback.returned, hgiven, hr]
        exact Nat.add_right_comm ..

omit [System σ] in
lemma countWanted_add_countReturned (deals : List (Deal × σ)) :
    countWanted deals + countReturned deals = deals.length := by
  have hother (a : Deal) : a.returned?.isSome = decide (¬a.wanted?.isSome = true) := by
    cases a <;> rfl
  unfold countWanted countReturned
  simp only [hother]
  exact (List.length_eq_countP_add_countP _).symm

/-- **The books of a factory balance** after any calls, whatever is given back. No shelf is too
full, what is idle was put on a shelf and not recycled since, and each call has been counted once,
so that no counter can outgrow the number of calls. An entry is handed out off the shelf of its own
backend, from which one is missing then if there was one, and an entry is taken back onto the shelf
of its own backend if there is room. -/
theorem balance_run (config : Config) (deals : List (Deal × σ)) :
    let f := run (.ofConfig config) deals
    f.config = config ∧
    (∀ b, f.countIdle b ≤ config.maxIdle) ∧
    f.stock = f.stats.released - f.stats.recycled ∧
    f.stats.acquired = countWanted deals ∧
    f.stats.released + f.stats.dropped = countReturned deals ∧
    f.stats.recycled ≤ min f.stats.acquired f.stats.released ∧
    f.stats.acquired + f.stats.released + f.stats.dropped = deals.length ∧
    (∀ (path : String) (w : σ), HandsOut (f.route path) f (f.acquire path w).2.1) ∧
    (∀ (d : AnyDriver) (suffix : String) (w : σ),
      HandsOut (f.route (Driver.path d ++ suffix)) f (f.append d suffix w).2.1) ∧
    ∀ (d : AnyDriver) (w : σ), TakesBack (backend d) f (f.release d w).1 := by
  have h := booked_run (.ofConfig config) deals
  have hbalanced := h.balanced (balanced_ofConfig config)
  intro f
  have hconfig : f.config = config := h.config
  have hstock : f.stock + f.stats.recycled = f.stats.released := hbalanced.stock
  have hacquired : f.stats.acquired = countWanted deals := h.acquired.trans (Nat.zero_add _)
  have hreturned : f.stats.released + f.stats.dropped = countReturned deals :=
    h.returned.trans (Nat.zero_add _)
  have hcalls := countWanted_add_countReturned deals
  refine ⟨hconfig, fun b => ?_, by omega, hacquired, hreturned,
    Nat.le_min.mpr ⟨hbalanced.reused, by omega⟩, by omega, fun path w => handsOut_acquire f path w,
    fun d suffix w => handsOut_acquire f _ w, fun d w => takesBack_release f d w⟩
  rw [← hconfig]
  exact hbalanced.capped b

end Deal

end TreeHaul
