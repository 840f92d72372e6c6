import TreeHaul.Config
import TreeHaul.Driver.Any

/-!
The factory of entries: it picks the backend of a path and keeps released entries for reuse, on a
shelf for each backend.
-/

universe u

namespace TreeHaul

open TreeHaul.Path

/-- What the factory has done so far. -/
structure PoolStats where
  /-- Entries handed out. -/
  acquired : Nat
  /-- Those of them that came from a shelf. -/
  recycled : Nat
  /-- Entries put on a shelf. -/
  released : Nat
  /-- Entries given back when their shelf was full. -/
  dropped : Nat
  deriving DecidableEq, Repr

/-- A driver that can be made for a path. -/
class Made (δ : Type) where
  make : Backend → String → δ

instance : Made AnyDriver where
  make := AnyDriver.ofPath

instance {δ ε : Type} [Made δ] : Made (δ ⊕ ε) where
  make b path := .inl (Made.make b path)

structure Factory (δ : Type) where
  config : Config
  /-- Idle entries by backend, the one released last in front. -/
  idle : Backend → List δ
  stats : PoolStats

namespace Factory

variable {σ : Type u} {δ : Type}

def ofConfig (config : Config) : Factory δ := ⟨config, fun _ => [], ⟨0, 0, 0, 0⟩⟩

/-- The backend that a path gets. -/
def route (f : Factory δ) (path : String) : Backend :=
  match Backend.detect path with
  | .null => if f.config.nullDevice then .null else .posix
  | b => b

def setIdle (f : Factory δ) (b : Backend) (shelf : List δ) : Factory δ :=
  { f with idle := fun c => if c = b then shelf else f.idle c }

def countIdle (f : Factory δ) (b : Backend) : Nat := (f.idle b).length

variable [Driver σ δ]

/-- An entry for a path, from the shelf of its backend if there is one. -/
def acquire [Made δ] (f : Factory δ) (path : String) (w : σ) : δ × Factory δ × σ :=
  let b := f.route path
  let (d, f, w) :=
    match f.idle b with
    | d :: shelf =>
      let (d, w) := Driver.reset path d w
      (d, { f.setIdle b shelf with stats := { f.stats with recycled := f.stats.recycled + 1 } }, w)
    | [] => (Made.make b path, f, w)
  (if f.config.followLinks then Driver.follow d else d,
    { f with stats := { f.stats with acquired := f.stats.acquired + 1 } }, w)

/-- Takes an entry back. What it holds open is released first. -/
def release (f : Factory δ) (d : δ) (w : σ) : Factory δ × σ :=
  let (d, w) := Driver.finalize d w
  let b := HasEntry.backend d
  if f.config.maxIdle ≤ (f.idle b).length then
    ({ f with stats := { f.stats with dropped := f.stats.dropped + 1 } }, w)
  else
    ({ f.setIdle b (d :: f.idle b) with
      stats := { f.stats with released := f.stats.released + 1 } }, w)

/-- An entry for the path of another with a suffix, which may get another backend. -/
def append [Made δ] (f : Factory δ) (d : δ) (suffix : String) (w : σ) : δ × Factory δ × σ :=
  f.acquire (Driver.path d ++ suffix) w

end Factory

end TreeHaul
