import TreeHaul.Proofs.Driver.Requests

/-!
What an entry holds open. That something is open is known twice, from the flags of the entry and
from the handles of its driver; a call turns both in one way.
-/

universe u

namespace TreeHaul

open TreeHaul.Os TreeHaul.Path TreeHaul.Text HasEntry

/-! ### Resources -/

/-- What an entry may hold open, each at most once. -/
inductive Resource where
  | file
  | dir
  deriving DecidableEq, Repr

/-- What can happen to a resource. -/
inductive Mark where
  | opened
  | closed
  /-- Closed if it was open, together with everything else. -/
  | released
  deriving DecidableEq, Repr

/-- Whether a resource is open after what has happened to it. -/
def Mark.leaves : Option Mark → Bool → Bool
  | none, before => before
  | some opened, _ => true
  | some closed, _ | some released, _ => false

namespace Path

/-- A list has no file to open. -/
def Backend.provides : Backend → Resource → Bool
  | list, .file => false
  | _, _ => true

/-- The flag of a resource. -/
def EntryFlags.has (f : EntryFlags) : Resource → Bool
  | .file => f.fileOpen
  | .dir => f.dirOpen

/-- What the flags say of the record is so. -/
structure Entry.Tidy (e : Entry) : Prop where
  cached : e.flags.statOk = true → e.flags.statCached = true
  kept : e.flags.statOk = true → e.stat?.isSome = true
  followed : e.flags.statFollowed = true → e.flags.statOk = true

/-- Nothing is opened or closed on the way from one entry to another, which is tidy if it was. -/
structure Entry.Steady (e e' : Entry) : Prop where
  tidy : e.Tidy → e'.Tidy
  flag (ρ : Resource) : e'.flags.has ρ = e.flags.has ρ

namespace Entry

lemma tidy_ofPath (path : String) : (ofPath path).Tidy := ⟨nofun, nofun, nofun⟩

lemma tidy_setFileOpen {e : Entry} (h : e.Tidy) (b : Bool) : (e.setFileOpen b).Tidy :=
  ⟨h.cached, h.kept, h.followed⟩

lemma tidy_setDirOpen {e : Entry} (h : e.Tidy) (b : Bool) : (e.setDirOpen b).Tidy :=
  ⟨h.cached, h.kept, h.followed⟩

lemma Steady.trans {e e' e'' : Entry} (h : e.Steady e') (h' : e'.Steady e'') : e.Steady e'' :=
  ⟨h'.tidy ∘ h.tidy, fun ρ => (h'.flag ρ).trans (h.flag ρ)⟩

lemma steady_record {α : Type} (e : Entry) (op : String) (r : Except PathError α) :
    e.Steady (e.record op r) :=
  ⟨fun h => ⟨h.cached, h.kept, h.followed⟩, fun ρ => by cases ρ <;> rfl⟩

lemma steady_invalidateStat (e : Entry) : e.Steady e.invalidateStat :=
  ⟨fun _ => ⟨nofun, nofun, nofun⟩, fun ρ => by cases ρ <;> rfl⟩

lemma steady_setFollow (e : Entry) : e.Steady e.setFollow :=
  ⟨fun h => ⟨h.cached, h.kept, h.followed⟩, fun ρ => by cases ρ <;> rfl⟩

lemma steady_statFailed (e : Entry) : e.Steady e.statFailed :=
  ⟨fun _ => ⟨nofun, nofun, nofun⟩, fun ρ => by cases ρ <;> rfl⟩

lemma steady_cacheStat (e : Entry) (s : Stat) (followed : Bool) :
    e.Steady (e.cacheStat s followed) :=
  ⟨fun _ => ⟨fun _ => rfl, fun _ => rfl, fun _ => rfl⟩, fun ρ => by cases ρ <;> rfl⟩

lemma steady_recordMutation {α : Type} (e : Entry) (op : String) (r : Except PathError α) :
    e.Steady (e.recordMutation op r) := by
  cases r with
  | ok a => exact e.steady_invalidateStat.trans (e.invalidateStat.steady_record op (.ok a))
  | error err => exact e.steady_record op (α := α) (.error err)

end Entry

end Path

/-- Something that holds resources. What its entry notes beside that does not matter. -/
class Holder (δ : Type) [HasEntry δ] where
  holds : δ → Resource → Bool
  holds_setEntry (d : δ) (e : Entry) (ρ : Resource) :
    e.flags.has ρ = (entry d).flags.has ρ → holds (setEntry d e) ρ = holds d ρ

open Holder

instance : Holder Posix where
  holds d
    | .file => d.file?.isSome
    | .dir => d.dir?.isSome
  holds_setEntry _ _ ρ _ := by cases ρ <;> rfl

instance : Holder Listing where
  holds d
    | .file => false
    | .dir => d.cursor?.isSome
  holds_setEntry _ _ ρ _ := by cases ρ <;> rfl

/-- A null path has no handles: what it holds is what its flags say. -/
instance : Holder Null where
  holds d ρ := d.entry.flags.has ρ
  holds_setEntry _ _ _ h := h

instance : Holder AnyDriver where
  holds
    | .posix d => holds d
    | .list d => holds d
    | .null d => holds d
  holds_setEntry d e ρ h := by
    cases d with
    | posix d => exact holds_setEntry d e ρ h
    | list d => exact holds_setEntry d e ρ h
    | null d => exact holds_setEntry d e ρ h

section Turns

variable {δ : Type} [HasEntry δ] [Holder δ]

/-- The resources are turned as told, by the flags as well as by the handles. -/
structure Turns (t : Resource → Option Mark) (d d' : δ) : Prop where
  tidy : (entry d).Tidy → (entry d').Tidy
  flag (ρ : Resource) : (entry d').flags.has ρ = Mark.leaves (t ρ) ((entry d).flags.has ρ)
  held (ρ : Resource) : holds d' ρ = Mark.leaves (t ρ) (holds d ρ)

/-- Nothing is opened or closed. -/
abbrev Still (d d' : δ) : Prop := Turns (fun _ => none) d d'

variable {d d' d'' : δ} {t : Resource → Option Mark} {σ : Type u} {α : Type}

lemma still_refl (d : δ) : Still d d := ⟨id, fun _ => rfl, fun _ => rfl⟩

lemma Turns.still (h : Turns t d d') (h' : Still d' d'') : Turns t d d'' where
  tidy := h'.tidy ∘ h.tidy
  flag ρ := (h'.flag ρ).trans (h.flag ρ)
  held ρ := (h'.held ρ).trans (h.held ρ)

variable [LawfulEntry δ]

lemma still_mapEntry (d : δ) {f : Entry → Entry} (hf : ∀ e : Entry, e.Steady (f e)) :
    Still d (Driver.mapEntry f d) where
  tidy := by rw [Request.entry_mapEntry]; exact (hf _).tidy
  flag ρ := by rw [Request.entry_mapEntry]; exact (hf _).flag ρ
  held ρ := holds_setEntry d _ ρ ((hf _).flag ρ)

lemma Turns.observed (h : Turns t d d') (op : String) (x : Except PathError α) (w : σ) :
    Turns t d (Driver.observed op x d' w).2.1 :=
  h.still (still_mapEntry d' fun e => e.steady_record op x)

lemma Turns.changed (h : Turns t d d') (op : String) (x : Except PathError α) (w : σ) :
    Turns t d (Driver.changed op x d' w).2.1 :=
  h.still (still_mapEntry d' fun e => e.steady_recordMutation op x)

end Turns

end TreeHaul
