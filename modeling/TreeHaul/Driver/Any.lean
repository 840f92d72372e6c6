import TreeHaul.Driver.Listing
import TreeHaul.Driver.Null

/-!
A driver of any backend. Two kinds of drivers can also be joined into one.
-/

universe u

namespace TreeHaul

open TreeHaul.Path

/-- A path with the driver of its backend. -/
inductive AnyDriver where
  | posix (d : Posix)
  | list (d : Listing)
  | null (d : Null)
  deriving DecidableEq, Repr

namespace AnyDriver

def ofPath (b : Backend) (path : String) : AnyDriver :=
  match b with
  | .posix => posix (.ofPath path)
  | .list => list (.ofPath path)
  | .null => null (.ofPath path)

instance : HasEntry AnyDriver where
  backend
    | posix d => HasEntry.backend d
    | list d => HasEntry.backend d
    | null d => HasEntry.backend d
  entry
    | posix d => HasEntry.entry d
    | list d => HasEntry.entry d
    | null d => HasEntry.entry d
  setEntry
    | posix d, e => posix (HasEntry.setEntry d e)
    | list d, e => list (HasEntry.setEntry d e)
    | null d, e => null (HasEntry.setEntry d e)
  fansIn
    | posix d => HasEntry.fansIn d
    | list d => HasEntry.fansIn d
    | null d => HasEntry.fansIn d

variable {σ : Type u} [System σ]

instance : Driver σ AnyDriver where
  perform r
    | posix d, w => let (a, d, w) := Driver.perform r d w; (a, posix d, w)
    | list d, w => let (a, d, w) := Driver.perform r d w; (a, list d, w)
    | null d, w => let (a, d, w) := Driver.perform r d w; (a, null d, w)
  finalize
    | posix d, w => let (d, w) := Driver.finalize d w; (posix d, w)
    | list d, w => let (d, w) := Driver.finalize d w; (list d, w)
    | null d, w => let (d, w) := Driver.finalize d w; (null d, w)
  reset path
    | posix d, w => let (d, w) := Driver.reset path d w; (posix d, w)
    | list d, w => let (d, w) := Driver.reset path d w; (list d, w)
    | null d, w => let (d, w) := Driver.reset path d w; (null d, w)

end AnyDriver

namespace Driver

variable {σ : Type u} {δ ε : Type}

instance [HasEntry δ] [HasEntry ε] : HasEntry (δ ⊕ ε) where
  backend := Sum.elim HasEntry.backend HasEntry.backend
  entry := Sum.elim HasEntry.entry HasEntry.entry
  setEntry
    | .inl d, e => .inl (HasEntry.setEntry d e)
    | .inr d, e => .inr (HasEntry.setEntry d e)
  fansIn := Sum.elim HasEntry.fansIn HasEntry.fansIn

instance [Driver σ δ] [Driver σ ε] : Driver σ (δ ⊕ ε) where
  perform r
    | .inl d, w => let (a, d, w) := perform r d w; (a, .inl d, w)
    | .inr d, w => let (a, d, w) := perform r d w; (a, .inr d, w)
  finalize
    | .inl d, w => let (d, w) := finalize d w; (.inl d, w)
    | .inr d, w => let (d, w) := finalize d w; (.inr d, w)
  reset path
    | .inl d, w => let (d, w) := reset path d w; (.inl d, w)
    | .inr d, w => let (d, w) := reset path d w; (.inr d, w)

end Driver

end TreeHaul
