import TreeHaul.Proofs.Factory.Custody

/-!
What a release leaves. Plain paths and lists drop their handles whatever the flags say, and null
paths, which have none, go by the flags; nothing is open after either, and a second release does
nothing.
-/

universe u

namespace TreeHaul

open TreeHaul.Os TreeHaul.Path HasEntry Holder

variable {σ : Type u} [System σ]

/-! ### Flags for what is open -/

namespace Path.Entry

variable {e : Entry} {ρ : Resource}

lemma isOpen_eq_false_iff : e.isOpen = false ↔ ∀ ρ, e.flags.has ρ = false := by
  rw [isOpen, Bool.or_eq_false_iff]
  constructor
  · rintro ⟨hfile, hdir⟩ ρ
    cases ρ with
    | file => exact hfile
    | dir => exact hdir
  · exact fun h => ⟨h .file, h .dir⟩

lemma isOpen_of_has (h : e.flags.has ρ = true) : e.isOpen = true := by
  cases ρ with
  | file => exact Bool.or_eq_true_iff.mpr (.inl h)
  | dir => exact Bool.or_eq_true_iff.mpr (.inr h)

/-- The entry with neither flag. -/
def cleared (e : Entry) : Entry := (e.setFileOpen false).setDirOpen false

lemma cleared_eq (h : ∀ ρ, e.flags.has ρ = false) : e.cleared = e := by
  obtain ⟨path, stat?, ⟨cached, ok, follow, followed, file, dir⟩, status⟩ := e
  obtain rfl : file = false := h .file
  obtain rfl : dir = false := h .dir
  rfl

end Path.Entry

/-! ### The null tree -/

namespace Null

/-- Each flag that is set is closed by itself, and the last closing is noted. -/
lemma finalize_of_open {d : Null} (h : d.entry.isOpen = true) (w : σ) :
    d.finalize w =
      (⟨d.entry.cleared.recordMutation
          (if d.entry.flags.dirOpen then "close_dir" else "close") (.ok ()), d.asDir⟩, w) := by
  obtain ⟨⟨path, stat?, ⟨cached, ok, follow, followed, file, dir⟩, status⟩, asDir⟩ := d
  cases file with
  | true => cases dir <;> rfl
  | false =>
    cases dir with
    | true => rfl
    | false => cases h

lemma finalize_of_not_open {d : Null} (h : d.entry.isOpen = false) (w : σ) :
    d.finalize w = (d, w) := by
  obtain ⟨⟨path, stat?, ⟨cached, ok, follow, followed, file, dir⟩, status⟩, asDir⟩ := d
  obtain ⟨rfl, rfl⟩ : file = false ∧ dir = false := Bool.or_eq_false_iff.mp h
  rfl

lemma asDir_finalize (d : Null) (w : σ) : (d.finalize w).1.asDir = d.asDir := by
  cases h : d.entry.isOpen with
  | true => rw [finalize_of_open h]
  | false => rw [finalize_of_not_open h]

end Null

/-! ### Any driver -/

namespace AnyDriver

variable {d : AnyDriver}

/-- Of an entry that holds nothing, no more than flags that say otherwise are cleared. -/
lemma entry_finalize_of_idle (h : ∀ ρ, holds d ρ = false) (w : σ) :
    entry (Driver.finalize d w).1 = (entry d).cleared := by
  cases d with
  | posix d =>
    have hnone : (d.file?.isSome || d.dir?.isSome) = false :=
      Bool.or_eq_false_iff.mpr ⟨h .file, h .dir⟩
    simp only [Driver.finalize, Posix.finalize, hnone]
    rfl
  | list d =>
    have hnone : d.cursor?.isSome = false := h .dir
    simp only [Driver.finalize, Listing.finalize, hnone]
    rfl
  | null d =>
    have hopen : d.entry.isOpen = false := Entry.isOpen_eq_false_iff.mpr h
    simp only [Driver.finalize, Null.finalize_of_not_open hopen]
    exact (Entry.cleared_eq h).symm

/-- What is dropped may have changed the object. -/
lemma cachedStat?_finalize_of_held {ρ : Resource} (h : holds d ρ = true) (w : σ) :
    (entry (Driver.finalize d w).1).cachedStat? = none := by
  cases d with
  | posix d =>
    have hsome : (d.file?.isSome || d.dir?.isSome) = true := by
      cases ρ with
      | file => exact Bool.or_eq_true_iff.mpr (.inl h)
      | dir => exact Bool.or_eq_true_iff.mpr (.inr h)
    simp only [Driver.finalize, Posix.finalize, hsome]
    rfl
  | list d =>
    have hsome : d.cursor?.isSome = true := by
      cases ρ with
      | file => cases h
      | dir => exact h
    simp only [Driver.finalize, Listing.finalize, hsome]
    rfl
  | null d =>
    simp only [Driver.finalize, Null.finalize_of_open (Entry.isOpen_of_has h)]
    rfl

lemma path_follow_finalize (d : AnyDriver) (w : σ) :
    (entry (Driver.finalize d w).1).path = (entry d).path ∧
      (entry (Driver.finalize d w).1).flags.follow = (entry d).flags.follow := by
  cases d with
  | posix d => simp only [Driver.finalize, Posix.finalize]; split <;> exact ⟨rfl, rfl⟩
  | list d => simp only [Driver.finalize, Listing.finalize]; split <;> exact ⟨rfl, rfl⟩
  | null d =>
    change (d.finalize w).1.entry.path = _ ∧ (d.finalize w).1.entry.flags.follow = _
    cases h : d.entry.isOpen with
    | true =>
      rw [Null.finalize_of_open h]
      exact ⟨rfl, rfl⟩
    | false =>
      rw [Null.finalize_of_not_open h]
      exact ⟨rfl, rfl⟩

/-- Whatever has a handle is closed, a file before a directory. -/
lemma world_finalize (d : AnyDriver) (w : σ) :
    (Driver.finalize d w).2 = d.handles.foldl (fun w h => Posix.drop h w) w := by
  cases d with
  | posix d =>
    obtain ⟨e, file?, dir?⟩ := d
    cases file? <;> cases dir? <;> rfl
  | list d =>
    obtain ⟨e, cursor?⟩ := d
    cases cursor? <;> rfl
  | null d =>
    cases h : d.entry.isOpen with
    | true => simp only [Driver.finalize, Null.finalize_of_open h]; rfl
    | false => simp only [Driver.finalize, Null.finalize_of_not_open h]; rfl

lemma finalize_of_shut (h : d.Shut) (w : σ) : Driver.finalize d w = (d, w) := by
  have hclear := Entry.cleared_eq h.flag
  cases d with
  | posix d =>
    obtain ⟨e, file?, dir?⟩ := d
    obtain ⟨rfl, rfl⟩ : file? = none ∧ dir? = none := by simpa [AnyDriver.handles] using h.handles
    exact congrArg (fun e => (posix ⟨e, none, none⟩, w)) hclear
  | list d =>
    obtain ⟨e, cursor?⟩ := d
    obtain rfl : cursor? = none := by simpa [AnyDriver.handles] using h.handles
    exact congrArg (fun e => (list ⟨e, none⟩, w)) hclear
  | null d =>
    have hopen : d.entry.isOpen = false := Entry.isOpen_eq_false_iff.mpr h.flag
    simp only [Driver.finalize, Null.finalize_of_not_open hopen]

/-- A driver after a release. Nothing is open. The record does not outlive what was held; where
nothing was held it stays, and no more than flags that say otherwise are cleared. -/
structure Released (d d' : AnyDriver) : Prop where
  shut : d'.Shut
  held (ρ : Resource) : holds d' ρ = false
  backend : HasEntry.backend d' = HasEntry.backend d
  path : (entry d').path = (entry d).path
  follow : (entry d').flags.follow = (entry d).flags.follow
  asDir (n : Null) : d = .null n → ∃ e, d' = .null ⟨e, n.asDir⟩
  gone (ρ : Resource) : holds d ρ = true → (entry d').cachedStat? = none
  kept : (∀ ρ, holds d ρ = false) →
    (entry d').cachedStat? = (entry d).cachedStat? ∧ entry d' = (entry d).cleared

/-- **A release releases everything, once.** In whatever state an entry is, and however its flags
and handles stand to each other, nothing is open after it, each handle that was there has been
closed, and to release it again changes nothing at all, in whatever world. -/
theorem released_finalize (d : AnyDriver) (w : σ) :
    let d' := (Driver.finalize d w).1
    Released d d' ∧
    (Driver.finalize d w).2 = d.handles.foldl (fun w h => Posix.drop h w) w ∧
    ∀ v : σ, Driver.finalize d' v = (d', v) := by
  intro d'
  have hshut : d'.Shut := shut_finalize d w
  refine ⟨?_, world_finalize d w, finalize_of_shut hshut⟩
  exact {
    shut := hshut
    held := hshut.holds
    backend := by cases d <;> rfl
    path := (path_follow_finalize d w).1
    follow := (path_follow_finalize d w).2
    asDir := by
      rintro n rfl
      exact ⟨(n.finalize w).1.entry, congrArg (null ⟨_, ·⟩) (n.asDir_finalize w)⟩
    gone := fun ρ h => cachedStat?_finalize_of_held h w
    kept := fun h => by
      have hentry : entry d' = (entry d).cleared := entry_finalize_of_idle h w
      rw [hentry]
      exact ⟨rfl, rfl⟩ }

/-- The flags say that a directory is open. A plain path with a file open gives its record up, one
with nothing open keeps it, and a null path goes by the flags. -/
theorem released_finalize_stale :
    let s : Stat := ⟨.directory, Mode.directory, 0, .epoch, .epoch, .epoch, 1, 1, 2, 0, 0, 0⟩
    let e : Entry := ⟨"/a", some s, ⟨true, true, true, false, false, true⟩, .initial⟩
    let w := Files.fresh ⟨5, 0⟩ []
    let release (d : AnyDriver) : AnyDriver := (Driver.finalize d w).1
    (entry (release (posix ⟨e, some 3, none⟩))).cachedStat? = none ∧
    (entry (release (posix ⟨e, none, none⟩))).cachedStat? = some s ∧
    (entry (release (null ⟨e, true⟩))).cachedStat? = none ∧
    ∀ d ∈ [posix ⟨e, some 3, none⟩, posix ⟨e, none, none⟩, null ⟨e, true⟩],
      (release d).Shut ∧ release (release d) = release d := by
  intro s e w release
  refine ⟨?_, ?_, ?_, fun d _ => ?_⟩
  · exact (released_finalize (posix ⟨e, some 3, none⟩) w).1.gone .file rfl
  · exact ((released_finalize (posix ⟨e, none, none⟩) w).1.kept fun ρ => by cases ρ <;> rfl).1
  · exact (released_finalize (null ⟨e, true⟩) w).1.gone .dir rfl
  · obtain ⟨hreleased, -, hagain⟩ := released_finalize d w
    have hsame := congrArg Prod.fst (hagain w)
    exact ⟨hreleased.shut, hsame⟩

end AnyDriver

end TreeHaul
