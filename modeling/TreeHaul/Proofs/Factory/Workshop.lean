import Mathlib.Data.List.Basic
import TreeHaul.Driver.Call
import TreeHaul.Factory

/-!
A factory at work: entries are handed out, called in any order and taken back, entries that were
made elsewhere are given to it, and the world may change between two steps. Whatever happens, the
settings stay as they are and each shelf holds entries of its own backend.
-/

universe u

namespace TreeHaul

open TreeHaul.Path HasEntry

/-- A factory, the entries that are out, and the world they are asked in. -/
structure Workshop (σ : Type u) where
  factory : Factory AnyDriver
  held : List AnyDriver
  world : σ

namespace Workshop

/-- What can happen. Entries that are out are named by where they stand among them. -/
inductive Step (σ : Type u) : Type (max u 1) where
  | acquire (path : String)
  /-- Acquires an entry for the path of another with a suffix. -/
  | append (i : ℕ) (suffix : String)
  | release (i : ℕ)
  | call (i : ℕ) (c : Sigma Call)
  | identical (i j : ℕ)
  /-- An entry comes in from elsewhere, in whatever state. -/
  | adopt (d : AnyDriver)
  /-- The world changes by itself. -/
  | elsewhere (change : σ → σ)

variable {σ : Type u}

/-- A factory with these settings that has done nothing yet. -/
def ofConfig (config : Config) (w : σ) : Workshop σ := ⟨.ofConfig config, [], w⟩

variable [System σ]

/-- Steps on entries that are not there change nothing. -/
def step (s : Workshop σ) : Step σ → Workshop σ
  | .acquire path =>
    let (d, f, w) := s.factory.acquire path s.world
    ⟨f, d :: s.held, w⟩
  | .append i suffix =>
    match s.held[i]? with
    | none => s
    | some d =>
      let (d, f, w) := s.factory.append d suffix s.world
      ⟨f, d :: s.held, w⟩
  | .release i =>
    match s.held[i]? with
    | none => s
    | some d =>
      let (f, w) := s.factory.release d s.world
      ⟨f, s.held.eraseIdx i, w⟩
  | .call i c =>
    match s.held[i]? with
    | none => s
    | some d =>
      let (_, d, w) := Driver.call c.2 d s.world
      { s with held := s.held.set i d, world := w }
  | .identical i j =>
    match s.held[i]?, s.held[j]? with
    | some a, some b =>
      if i = j then s
      else
        let (_, a, b, w) := Driver.identical a b s.world
        { s with held := (s.held.set i a).set j b, world := w }
    | _, _ => s
  | .adopt d => { s with held := d :: s.held }
  | .elsewhere change => { s with world := change s.world }

def run (s : Workshop σ) (steps : List (Step σ)) : Workshop σ := steps.foldl step s

end Workshop

namespace Factory

variable {σ : Type u} [System σ]

/-- Each shelf holds entries of its own backend. -/
def Sorted (f : Factory AnyDriver) : Prop := ∀ b, ∀ d ∈ f.idle b, backend d = b

variable {f : Factory AnyDriver}

@[simp] lemma config_setIdle (b : Backend) (shelf : List AnyDriver) :
    (f.setIdle b shelf).config = f.config := rfl

lemma route_congr {f g : Factory AnyDriver} (h : f.config = g.config) (path : String) :
    f.route path = g.route path := by
  unfold route
  rw [h]

lemma sorted_ofConfig (config : Config) : (ofConfig config : Factory AnyDriver).Sorted := by
  intro b d hd
  cases hd

lemma Sorted.setIdle (h : f.Sorted) {b : Backend} {shelf : List AnyDriver}
    (hs : ∀ d ∈ shelf, backend d = b) : (f.setIdle b shelf).Sorted := by
  intro c d hd
  unfold Factory.setIdle at hd
  dsimp only at hd
  split at hd
  · rename_i hc
    rw [hc]
    exact hs d hd
  · exact h c d hd

lemma config_acquire (f : Factory AnyDriver) (path : String) (w : σ) :
    (f.acquire path w).2.1.config = f.config := by
  unfold acquire
  dsimp only
  split <;> rfl

lemma Sorted.acquire (h : f.Sorted) (path : String) (w : σ) : (f.acquire path w).2.1.Sorted := by
  unfold Factory.acquire
  dsimp only
  split
  · rename_i d shelf hi
    exact h.setIdle fun e he => h _ e (hi ▸ List.mem_cons_of_mem d he)
  · exact h

lemma config_release (f : Factory AnyDriver) (d : AnyDriver) (w : σ) :
    (f.release d w).1.config = f.config := by
  unfold release
  dsimp only
  split <;> rfl

/-- An entry goes to the shelf of the backend that it has itself. -/
lemma Sorted.release (h : f.Sorted) (d : AnyDriver) (w : σ) : (f.release d w).1.Sorted := by
  unfold Factory.release
  dsimp only
  split
  · exact h
  · refine h.setIdle fun e he => ?_
    rcases List.mem_cons.mp he with rfl | he
    · rfl
    · exact h _ e he

end Factory

namespace Workshop

variable {σ : Type u} [System σ]

/-- What the steps leave alone in the factory. -/
structure Kept (config : Config) (s : Workshop σ) : Prop where
  config : s.factory.config = config
  sorted : s.factory.Sorted

variable {config : Config} {s : Workshop σ}

lemma Kept.acquire (h : Kept config s) (path : String) (held : List AnyDriver) :
    Kept config ⟨(s.factory.acquire path s.world).2.1, held, (s.factory.acquire path s.world).2.2⟩
    where
  config := (Factory.config_acquire ..).trans h.config
  sorted := h.sorted.acquire path s.world

lemma Kept.step (h : Kept config s) (a : Step σ) : Kept config (s.step a) := by
  cases a with
  | acquire path => exact h.acquire path _
  | append i suffix =>
    unfold Workshop.step
    dsimp only
    split
    · exact h
    · exact h.acquire _ _
  | release i =>
    unfold Workshop.step
    dsimp only
    split
    · exact h
    · exact ⟨(Factory.config_release ..).trans h.config, h.sorted.release _ s.world⟩
  | call i c =>
    unfold Workshop.step
    dsimp only
    split
    · exact h
    · exact ⟨h.config, h.sorted⟩
  | identical i j =>
    unfold Workshop.step
    dsimp only
    split
    · split
      · exact h
      · exact ⟨h.config, h.sorted⟩
    · exact h
  | adopt d => exact ⟨h.config, h.sorted⟩
  | elsewhere change => exact ⟨h.config, h.sorted⟩

/-- **A run** keeps the settings and the order of the shelves. -/
lemma kept_run (config : Config) (w : σ) (steps : List (Step σ)) :
    Kept config ((ofConfig config w).run steps) := by
  have hstart : Kept config (ofConfig config w) := ⟨rfl, Factory.sorted_ofConfig config⟩
  generalize ofConfig config w = s at hstart
  induction steps generalizing s with
  | nil => exact hstart
  | cons a rest ih => exact ih (s.step a) (hstart.step a)

end Workshop

end TreeHaul
