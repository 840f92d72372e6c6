import Mathlib.Data.List.Nodup
import TreeHaul.Files.System
import TreeHaul.Proofs.Factory.Deeds

/-!
Who holds what is open. Entries are handed out, called in any order and taken back, and their flags
may be set by hand in between. Whatever happens, an idle entry holds nothing, and a handle that is
open is held by one entry that is out.
-/

universe u

namespace TreeHaul

open TreeHaul.Os TreeHaul.Path HasEntry
open scoped List

variable {σ : Type u} [System σ]

/-! ### Entries with nothing open -/

namespace AnyDriver

/-- Nothing is held, and no flag says that something is open. -/
structure Shut (d : AnyDriver) : Prop where
  handles : d.handles = []
  flag (ρ : Resource) : (entry d).flags.has ρ = false

variable {d : AnyDriver}

lemma Shut.holdings (h : d.Shut) : d.holdings = [] := by
  rw [AnyDriver.holdings, h.handles, List.map_nil]

lemma Shut.holds (h : d.Shut) (ρ : Resource) : Holder.holds d ρ = false := by
  cases d with
  | null d => exact h.flag ρ
  | list d =>
    have hcursor : d.cursor? = none := by simpa [AnyDriver.handles] using h.handles
    cases ρ with
    | file => rfl
    | dir => exact congrArg Option.isSome hcursor
  | posix d =>
    have hboth : d.file? = none ∧ d.dir? = none := by simpa [AnyDriver.handles] using h.handles
    cases ρ with
    | file => exact congrArg Option.isSome hboth.1
    | dir => exact congrArg Option.isSome hboth.2

lemma shut_finalize (d : AnyDriver) (w : σ) : (Driver.finalize d w).1.Shut where
  handles := by cases d <;> rfl
  flag := (turns_finalize d w).flag

lemma shut_issued (config : Config) (b : Backend) (path : String) :
    (issued config b path).Shut where
  handles := handles_issued ..
  flag ρ := by
    rw [entry_issued]
    cases ρ <;> rfl

/-- What needs something open fails, and the system does not hear of it. -/
def Barred (σ : Type u) [System σ] (d : AnyDriver) : Prop :=
  ∀ {α : Type} (r : Request α) (ρ : Resource), r.guard = some (ρ, true) → ∀ w : σ,
    (∃ e, (Driver.perform r d w).1 = .error e) ∧ (Driver.perform r d w).2.2 = w

lemma Shut.barred (h : d.Shut) : d.Barred σ := by
  intro α r ρ hr w
  have hfit : r.fit d ≠ .apt := by
    rw [Request.fit, hr]
    dsimp only
    rw [h.holds]
    split <;> simp
  have honours := AnyDriver.honours r d w
  cases hr : r.fit d with
  | apt => exact absurd hr hfit
  | misplaced =>
    obtain ⟨reason, ho⟩ := honours.misplaced hr
    rw [ho]
    exact ⟨⟨_, rfl⟩, rfl⟩
  | unprovided =>
    rw [honours.unprovided hr]
    exact ⟨⟨_, rfl⟩, rfl⟩

end AnyDriver

/-! ### The factory -/

namespace Factory

variable {f : Factory AnyDriver} {rest : List (String × Handle)} {l : Ledger σ}

/-- Every idle entry has nothing open. -/
def AtRest (f : Factory AnyDriver) : Prop := ∀ b, ∀ d ∈ f.idle b, d.Shut

lemma mem_idle_acquire {path : String} {w : σ} {b : Backend} {e : AnyDriver}
    (he : e ∈ (f.acquire path w).2.1.idle b) : e ∈ f.idle b := by
  unfold acquire at he
  dsimp only at he
  split at he
  · rename_i d shelf hi
    unfold setIdle at he
    dsimp only at he
    split at he
    · rename_i hb
      rw [hb, hi]
      exact List.mem_cons_of_mem d he
    · exact he
  · exact he

lemma mem_idle_release {d : AnyDriver} {w : σ} {b : Backend} {e : AnyDriver}
    (he : e ∈ (f.release d w).1.idle b) : e = (Driver.finalize d w).1 ∨ e ∈ f.idle b := by
  unfold release at he
  dsimp only at he
  split at he
  · exact .inr he
  · unfold setIdle at he
    dsimp only at he
    split at he
    · rename_i hb
      rw [hb]
      exact List.mem_cons.mp he
    · exact .inr he

lemma AtRest.acquire (h : f.AtRest) (path : String) (w : σ) : (f.acquire path w).2.1.AtRest :=
  fun b e he => h b e (mem_idle_acquire he)

lemma AtRest.release (h : f.AtRest) (d : AnyDriver) (w : σ) : (f.release d w).1.AtRest := by
  intro b e he
  rcases mem_idle_release he with rfl | he
  · exact AnyDriver.shut_finalize d w
  · exact h b e he

lemma snd_release (f : Factory AnyDriver) (d : AnyDriver) (w : σ) :
    (f.release d w).2 = (Driver.finalize d w).2 := by
  unfold release
  dsimp only
  split <;> rfl

lemma tally_acquire (hsorted : f.Sorted) (hrest : f.AtRest) (path : String)
    (ht : Tally rest l.deeds) :
    Tally ((f.acquire path l).1.holdings ++ rest) (f.acquire path l).2.2.deeds := by
  have hnew : (f.acquire path l).1.holdings = [] := by
    rw [hsorted.acquire_fst]
    exact (AnyDriver.shut_issued ..).holdings
  rw [hnew, List.nil_append]
  unfold acquire
  dsimp only
  split
  · rename_i d shelf hi
    -- a reset of what has nothing open does nothing to the ledger
    obtain ⟨ds, hl, hleads⟩ := AnyDriver.carries_reset path d l
    have hshut : d.holdings = [] := (hrest _ d (hi ▸ List.mem_cons_self)).holdings
    have hreset : (Driver.reset path d l).1.holdings = [] := by
      rw [AnyDriver.reset_fst]
      cases backend d <;> rfl
    rw [hshut, hreset] at hleads
    rw [hl]
    exact Tally.leads hleads ht
  · exact ht

lemma tally_release (f : Factory AnyDriver) {d : AnyDriver}
    (ht : Tally (d.holdings ++ rest) l.deeds) : Tally rest (f.release d l).2.deeds := by
  obtain ⟨ds, hl, hleads⟩ := AnyDriver.carries_finalize d l
  have hdone := Tally.leads hleads ht
  rw [(AnyDriver.shut_finalize d l).holdings] at hdone
  rw [snd_release, hl]
  exact hdone

end Factory

/-! ### Runs -/

/-- What can be done with a factory and the entries that it has handed out. Entries that are out are
named by where they stand among them. -/
inductive Use (σ : Type u) : Type (max u 1) where
  | acquire (path : String)
  | append (i : ℕ) (suffix : String)
  | release (i : ℕ)
  | call (i : ℕ) (c : Sigma Call)
  | identical (i j : ℕ)
  /-- The flags of an entry are set by hand, whatever it holds. -/
  | mark (i : ℕ) (flags : EntryFlags)
  /-- The world changes by itself. -/
  | elsewhere (change : σ → σ)

namespace Use

def apply (s : Workshop (Ledger σ)) : Use σ → Workshop (Ledger σ)
  | acquire path => s.step (.acquire path)
  | append i suffix => s.step (.append i suffix)
  | release i => s.step (.release i)
  | call i c => s.step (.call i c)
  | identical i j => s.step (.identical i j)
  | mark i flags =>
    match s.held[i]? with
    | none => s
    | some d => { s with held := s.held.set i (Driver.mapEntry (fun e => { e with flags }) d) }
  | elsewhere change => s.step (.elsewhere fun l => { l with world := change l.world })

def run (s : Workshop (Ledger σ)) (uses : List (Use σ)) : Workshop (Ledger σ) :=
  uses.foldl apply s

/-- What a run keeps. -/
structure Orderly (config : Config) (s : Workshop (Ledger σ)) : Prop where
  kept : Workshop.Kept config s
  atRest : s.factory.AtRest
  tally : Tally (s.held.flatMap AnyDriver.holdings) s.world.deeds

section Places

variable {held : List AnyDriver} {i : ℕ} {d : AnyDriver}

lemma holdings_perm (h : held[i]? = some d) :
    held.flatMap AnyDriver.holdings ~
      d.holdings ++ (held.eraseIdx i).flatMap AnyDriver.holdings := by
  obtain ⟨hi, rfl⟩ := List.getElem?_eq_some_iff.mp h
  exact (List.getElem_cons_eraseIdx_perm hi).symm.flatMap_right _

lemma holdings_set_perm (h : held[i]? = some d) (d' : AnyDriver) :
    (held.set i d').flatMap AnyDriver.holdings ~
      d'.holdings ++ (held.eraseIdx i).flatMap AnyDriver.holdings := by
  obtain ⟨hi, -⟩ := List.getElem?_eq_some_iff.mp h
  exact (List.set_perm_cons_eraseIdx hi d').flatMap_right _

/-- Entries that hold the same can take each other's place. -/
lemma holdings_set_perm_of_eq {d' : AnyDriver} (h : held[i]? = some d)
    (hd : d'.holdings = d.holdings) :
    (held.set i d').flatMap AnyDriver.holdings ~ held.flatMap AnyDriver.holdings := by
  have hset := holdings_set_perm h d'
  rw [hd] at hset
  exact hset.trans (holdings_perm h).symm

end Places

variable {config : Config} {s : Workshop (Ledger σ)}

lemma Orderly.acquire (h : Orderly config s) (path : String) :
    Orderly config (s.step (.acquire path)) where
  kept := h.kept.acquire path _
  atRest := h.atRest.acquire path s.world
  tally := Factory.tally_acquire h.kept.sorted h.atRest path h.tally

lemma Orderly.release (h : Orderly config s) (i : ℕ) : Orderly config (s.step (.release i)) := by
  have hkept := h.kept.step (.release i)
  unfold Workshop.step at hkept ⊢
  dsimp only at hkept ⊢
  split at hkept
  · exact h
  · rename_i d hd
    exact ⟨hkept, h.atRest.release d s.world,
      s.factory.tally_release (h.tally.perm (holdings_perm hd))⟩

lemma Orderly.call (h : Orderly config s) (i : ℕ) (c : Sigma Call) :
    Orderly config (s.step (.call i c)) := by
  have hkept := h.kept.step (.call i c)
  unfold Workshop.step at hkept ⊢
  dsimp only at hkept ⊢
  split at hkept
  · exact h
  · rename_i d hd
    obtain ⟨ds, hl, hleads⟩ := AnyDriver.carries_serve c.2 d s.world
    have hdone := Tally.leads hleads (h.tally.perm (holdings_perm hd))
    rw [← hl] at hdone
    exact ⟨hkept, h.atRest, hdone.perm (holdings_set_perm hd _).symm⟩

lemma Orderly.identical (h : Orderly config s) (i j : ℕ) :
    Orderly config (s.step (.identical i j)) := by
  have hkept := h.kept.step (.identical i j)
  unfold Workshop.step at hkept ⊢
  dsimp only at hkept ⊢
  split at hkept
  · rename_i a b hi hj
    split at hkept
    · rename_i hij
      simpa only [if_pos hij] using h
    · rename_i hij
      obtain ⟨ha, hb, hl⟩ := AnyDriver.apart_identical a b s.world
      rw [if_neg hij]
      refine ⟨hkept, h.atRest, ?_⟩
      dsimp only
      rw [hl]
      have hj' := hj
      rw [← List.getElem?_set_ne hij] at hj'
      exact h.tally.perm
        ((holdings_set_perm_of_eq hj' hb).trans (holdings_set_perm_of_eq hi ha)).symm
  · exact h

lemma Orderly.mark (h : Orderly config s) (i : ℕ) (flags : EntryFlags) :
    Orderly config (apply s (.mark i flags)) := by
  unfold apply
  dsimp only
  split
  · exact h
  · rename_i d hd
    have hsame := d.holdings_mapEntry (f := fun e => { e with flags }) fun _ => rfl
    exact ⟨⟨h.kept.config, h.kept.sorted⟩, h.atRest,
      h.tally.perm (holdings_set_perm_of_eq hd hsame).symm⟩

/-- **One use** of a factory and its entries keeps them in order. -/
lemma Orderly.apply (h : Orderly config s) (u : Use σ) : Orderly config (Use.apply s u) := by
  cases u with
  | acquire path => exact h.acquire path
  | append i suffix =>
    unfold Use.apply Workshop.step
    dsimp only
    split
    · exact h
    · exact h.acquire _
  | release i => exact h.release i
  | call i c => exact h.call i c
  | identical i j => exact h.identical i j
  | mark i flags => exact h.mark i flags
  | elsewhere change => exact ⟨⟨h.kept.config, h.kept.sorted⟩, h.atRest, h.tally⟩

lemma orderly_run (h : Orderly config s) (uses : List (Use σ)) :
    Orderly config (run s uses) := by
  induction uses generalizing s with
  | nil => exact h
  | cons u us ih => exact ih (h.apply u)

/-! ### Custody -/

/-- Who holds what in a state. -/
structure Custody (s : Workshop (Ledger σ)) : Prop where
  /-- What is idle stands with its own backend, has nothing open and says so. -/
  idle (b : Backend) : ∀ d ∈ s.factory.idle b, backend d = b ∧ d.Shut ∧ d.Barred (Ledger σ)
  /-- What is handed out next has nothing open either, wherever it comes from. -/
  next (path : String) :
    (s.factory.acquire path s.world).1.Shut ∧ (s.factory.acquire path s.world).1.Barred (Ledger σ)
  /-- An entry uses and closes only what it holds, and holds only what it has opened. -/
  own : ∀ d ∈ s.held, ∀ c : Sigma Call,
    Carries d s.world (Driver.call c.2 d s.world).2.1 (Driver.call c.2 d s.world).2.2
  /-- Nothing was used or closed that was not open. -/
  proper : Deed.Proper s.world.deeds
  /-- What was opened was closed, once for each time, unless an entry that is out still holds it. -/
  settled (h : Handle) : (s.world.deeds.filterMap Deed.opens?).count h =
    (s.world.deeds.filterMap Deed.closes?).count h + (s.held.flatMap AnyDriver.handles).count h
  /-- If the system gives no open handle out, none is held twice. -/
  once : Deed.Fresh s.world.deeds → (s.held.flatMap AnyDriver.handles).Nodup
  /-- Then what is open has one holder, whose path is the one that was opened. -/
  holder : Deed.Fresh s.world.deeds → ∀ path h, (path, h) ∈ Deed.outstanding s.world.deeds →
    ∃ (i : ℕ) (d : AnyDriver), s.held[i]? = some d ∧ d.target = path ∧ h ∈ d.handles ∧
      ∀ (j : ℕ) (e : AnyDriver), s.held[j]? = some e → h ∈ e.handles → j = i

lemma map_snd_flatMap_holdings (held : List AnyDriver) :
    (held.flatMap AnyDriver.holdings).map Prod.snd = held.flatMap AnyDriver.handles := by
  rw [List.map_flatMap]
  exact congrArg (held.flatMap ·) (funext AnyDriver.map_snd_holdings)

lemma eq_of_mem_handles {held : List AnyDriver} (hnodup : (held.flatMap AnyDriver.handles).Nodup)
    {i j : ℕ} {d e : AnyDriver} {h : Handle} (hi : held[i]? = some d) (hj : held[j]? = some e)
    (hd : h ∈ d.handles) (he : h ∈ e.handles) : i = j := by
  have hapart := List.pairwise_iff_getElem.mp (List.nodup_flatMap.mp hnodup).2
  obtain ⟨hilt, rfl⟩ := List.getElem?_eq_some_iff.mp hi
  obtain ⟨hjlt, rfl⟩ := List.getElem?_eq_some_iff.mp hj
  rcases Nat.lt_trichotomy i j with hij | hij | hij
  · exact absurd he (hapart i j hilt hjlt hij hd)
  · exact hij
  · exact absurd hd (hapart j i hjlt hilt hij he)

lemma Orderly.custody (h : Orderly config s) : Custody s where
  idle b d hd := ⟨h.kept.sorted b d hd, h.atRest b d hd, (h.atRest b d hd).barred⟩
  next path := by
    rw [h.kept.sorted.acquire_fst]
    exact ⟨AnyDriver.shut_issued .., (AnyDriver.shut_issued ..).barred⟩
  own d _ c := AnyDriver.carries_serve c.2 d s.world
  proper := h.tally.proper
  settled k := by
    rw [h.tally.proper.count_opens, ← map_snd_flatMap_holdings, h.tally.balanced.count_eq]
  once hf := by
    rw [← map_snd_flatMap_holdings]
    exact (h.tally.single hf).1
  holder hf path k hmem := by
    obtain ⟨hnodup, hperm⟩ := h.tally.single hf
    rw [map_snd_flatMap_holdings] at hnodup
    obtain ⟨d, hd, hk⟩ := List.mem_flatMap.mp (hperm.mem_iff.mpr hmem)
    obtain ⟨i, hi⟩ := List.getElem?_of_mem hd
    obtain ⟨k', hk', heq⟩ := List.mem_map.mp hk
    cases heq
    exact ⟨i, d, hi, rfl, hk', fun j e hj he => eq_of_mem_handles hnodup hj hi he hk'⟩

/-- **What is idle is inert.** Whatever was done with a factory and the entries that it handed out,
whatever the system answered and whatever flags were set by hand, each idle entry stands with its
own backend, holds nothing and has no flag for something open; neither it nor the next entry that
is handed out can read, and an entry uses only what it has opened itself. So a handle that was given
out is closed once, and until then one entry that is out holds it, under the path that was opened,
as long as the system does not give out what is open. -/
theorem custody_run (config : Config) (w : σ) (uses : List (Use σ)) :
    Custody (run (.ofConfig config (⟨w, []⟩ : Ledger σ)) uses) := by
  have hstart : Orderly config (.ofConfig config (⟨w, []⟩ : Ledger σ)) := {
    kept := ⟨rfl, Factory.sorted_ofConfig config⟩
    atRest := fun b d hd => by cases hd
    tally := Tally.nil }
  exact (orderly_run hstart uses).custody

/-- A directory is open when its entry is taken back with no flag set, and opened again through the
entry that is handed out then. -/
theorem custody_run_unflagged :
    let uses : List (Use Files) := [.acquire "/dev", .call 0 ⟨_, .request .openDir⟩,
      .mark 0 .none, .release 0, .acquire "/", .call 0 ⟨_, .request .openDir⟩]
    let s := run (.ofConfig .standard (⟨Files.fresh ⟨5, 0⟩ [], []⟩ : Ledger Files)) uses
    s.factory.stats.recycled = 1 ∧ Deed.Fresh s.world.deeds ∧
    (∃ h h', s.world.deeds = [.opened "/" h', .closed h, .opened "/dev" h]) ∧
    (s.held.flatMap AnyDriver.handles).Nodup := by
  intro uses s
  have hdeeds : ∃ h h', s.world.deeds = [.opened "/" h', .closed h, .opened "/dev" h] := by
    refine ⟨3, 4, ?_⟩
    decide +kernel
  have hfresh : Deed.Fresh s.world.deeds := by
    obtain ⟨h, h', hs⟩ := hdeeds
    rw [hs]
    simp [Deed.Fresh, Deed.outstanding]
  have hrecycled : s.factory.stats.recycled = 1 := by decide +kernel
  exact ⟨hrecycled, hfresh, hdeeds, (custody_run .standard _ uses).once hfresh⟩

end Use

end TreeHaul
