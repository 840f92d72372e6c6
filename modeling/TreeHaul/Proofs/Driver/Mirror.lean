import TreeHaul.Driver.Listing
import TreeHaul.Proofs.Path.Detection
import TreeHaul.Proofs.Path.Kinds

/-!
A list path beside the plain path behind its tag. Both put the same questions to the system, so they
succeed and fail together. What the list shows is a directory, and its errors name the path with the
tag.
-/

universe u

namespace TreeHaul

open TreeHaul.Os TreeHaul.Path TreeHaul.Text

/-! ### Results side by side -/

namespace Path.PathError

/-- The system refused two entries the same, and each names its own path. -/
inductive Renamed (path path' : String) : PathError → PathError → Prop where
  | refused (op : String) (e : IoError) : Renamed path path' (.ofIo op path e) (.ofIo op path' e)

/-- What the system gave is not UTF-8, and both name that. -/
inductive Unreadable : PathError → PathError → Prop where
  | name {bytes : Bytes} (h : ofBytes? bytes = none) :
    Unreadable (.invalidPath (lossy bytes)) (.invalidPath (lossy bytes))

lemma statusKind_ofIo (op path path' : String) (e : IoError) :
    (ofIo op path' e).statusKind = (ofIo op path e).statusKind := by
  unfold ofIo
  split <;> rfl

lemma errno_ofIo (op path path' : String) (e : IoError) :
    (ofIo op path' e).errno = (ofIo op path e).errno := by
  unfold ofIo
  split <;> rfl

end Path.PathError

open PathError

/-- Two calls end alike: in values that belong together, or in errors of one class and one number
that do. -/
inductive Alike {α β : Type} (R : α → β → Prop) (E : PathError → PathError → Prop) :
    Except PathError α → Except PathError β → Prop where
  | ok {a : α} {b : β} (value : R a b) : Alike R E (.ok a) (.ok b)
  | error {e e' : PathError} (kind : e'.statusKind = e.statusKind) (errno : e'.errno = e.errno)
    (names : E e e') : Alike R E (.error e) (.error e')

section Alike

variable {α β γ δ : Type} {R : α → β → Prop} {S : γ → δ → Prop} {E F : PathError → PathError → Prop}
  {x : Except PathError α} {y : Except PathError β}

lemma Alike.imp (h : Alike R E x y) (hEF : ∀ e e', E e e' → F e e') : Alike R F x y := by
  cases h with
  | ok hv => exact .ok hv
  | error hk hn he => exact .error hk hn (hEF _ _ he)

lemma Alike.map (h : Alike R E x y) {f : α → γ} {g : β → δ} (hfg : ∀ a b, R a b → S (f a) (g b)) :
    Alike S E (x.map f) (y.map g) := by
  cases h with
  | ok hv => exact .ok (hfg _ _ hv)
  | error hk hn he => exact .error hk hn he

lemma Alike.map_right {S : α → δ → Prop} (h : Alike R E x y) {g : β → δ}
    (hg : ∀ a b, R a b → S a (g b)) : Alike S E x (y.map g) := by
  cases h with
  | ok hv => exact .ok (hg _ _ hv)
  | error hk hn he => exact .error hk hn he

lemma Alike.bind (h : Alike R E x y) (hEF : ∀ e e', E e e' → F e e') {f : α → Except PathError γ}
    {g : β → Except PathError δ} (hfg : ∀ a b, R a b → Alike S F (f a) (g b)) :
    Alike S F (x.bind f) (y.bind g) := by
  cases h with
  | ok hv => exact hfg _ _ hv
  | error hk hn he => exact .error hk hn (hEF _ _ he)

lemma Alike.ok_iff {f : α → β} (h : Alike (fun a b => b = f a) E x y) (hf : f.Injective) (a : α) :
    y = .ok (f a) ↔ x = .ok a := by
  cases h with
  | ok hv =>
    rw [hv, Except.ok.injEq, Except.ok.injEq]
    exact hf.eq_iff
  | error => exact iff_of_false nofun nofun

lemma alike_mapError (x : Except IoError α) (op path path' : String) :
    Alike Eq (Renamed path path') (x.mapError (.ofIo op path)) (x.mapError (.ofIo op path')) := by
  cases x with
  | ok a => exact .ok rfl
  | error e => exact .error (statusKind_ofIo ..) (errno_ofIo ..) (.refused op e)

lemma alike_nameOf (bytes : Bytes) :
    Alike Eq Unreadable (Posix.nameOf bytes) (Posix.nameOf bytes) := by
  unfold Posix.nameOf
  split
  · exact .ok rfl
  · rename_i h
    exact .error rfl rfl (.name h)

end Alike

/-! ### The two drivers -/

/-- A call failed for the path that it was made on. -/
def unusable {α : Type} : Except PathError α → Bool
  | .error (.invalidPath _) => true
  | _ => false

lemma unusable_mapError {α : Type} (x : Except IoError α) (op path : String) :
    unusable (x.mapError (.ofIo op path)) = false := by
  cases x with
  | ok a => rfl
  | error e =>
    change unusable (.error (.ofIo op path e)) = false
    unfold ofIo
    split <;> rfl

/-- What lists provide as plain paths do. -/
def Request.common {α : Type} : Request α → Bool
  | statUncached _ | access _ | accessAt .. | canonicalPath => true
  | _ => false

namespace Listing

variable {σ : Type u} [System σ] {α : Type}

/-- A list path in a world where a plain path is what is behind its tag. -/
structure Mirrors (l : Listing) (p : Posix) (w : σ) : Prop where
  real : l.realPath = p.entry.path
  stat (follow : Bool) : Alike Stat.ShownAs (Renamed p.entry.path l.entry.path)
    (Driver.perform (.statUncached follow) p w).1 (Driver.perform (.statUncached follow) l w).1
  access (mode : AccessMode) : Alike Eq (Renamed p.entry.path l.entry.path)
    (Driver.perform (.access mode) p w).1 (Driver.perform (.access mode) l w).1
  accessAt (mode : AccessMode) (flags : AccessFlags) :
    Alike Eq (fun e e' => Renamed p.entry.path l.entry.path e e' ∨
        e = .invalidPath p.entry.path ∧ e' = .invalidPath l.entry.path)
      (Driver.perform (.accessAt mode flags) p w).1 (Driver.perform (.accessAt mode flags) l w).1
  /-- A probe by path is refused without asking the system exactly for a relative path. -/
  relative (mode : AccessMode) (flags : AccessFlags) :
    (unusable (Driver.perform (.accessAt mode flags) p w).1 = true ↔
      p.entry.path.toList.head? ≠ some '/') ∧
    (unusable (Driver.perform (.accessAt mode flags) l w).1 = true ↔
      p.entry.path.toList.head? ≠ some '/')
  /-- Canonical paths differ in the tag. What the system answers may not be UTF-8: that is an error
  of both which names the answer. -/
  canonicalPath : Alike (fun c c' => c' = Backend.listTag ++ c)
    (fun e e' => Renamed p.entry.path l.entry.path e e' ∨ Unreadable e e')
    (Driver.perform .canonicalPath p w).1 (Driver.perform .canonicalPath l w).1
  canonicalPath_iff (c : String) :
    (Driver.perform .canonicalPath l w).1 = .ok (Backend.listTag ++ c) ↔
      (Driver.perform .canonicalPath p w).1 = .ok c
  /-- The system is asked the same. -/
  world {α : Type} (r : Request α) : r.common = true →
    (Driver.perform r l w).2.2 = (Driver.perform r p w).2.2

/-- Just one tag is taken off. -/
lemma untagged_append (q : String) : untagged (Backend.listTag ++ q) = q := by
  have hrest : Backend.rest? Backend.listTag (Backend.listTag ++ q) = some q.toList :=
    Backend.rest?_eq_some_iff.mpr String.toList_append
  rw [untagged, hrest]
  exact String.ofList_toList

section

variable {l : Listing} {p : Posix} (hpath : l.entry.path = Backend.listTag ++ p.entry.path)

include hpath

lemma realPath_eq : l.realPath = p.entry.path := by
  rw [realPath, hpath, untagged_append]

lemma alike_stat (follow : Bool) (w : σ) :
    Alike Stat.ShownAs (Renamed p.entry.path l.entry.path)
      (Driver.perform (.statUncached follow) p w).1
      (Driver.perform (.statUncached follow) l w).1 := by
  have hcall := alike_mapError (System.call (.stat p.entry.path follow) w).1 "stat" p.entry.path
    l.entry.path
  change Alike _ _ ((_ : Except PathError Metadata).map Stat.ofMetadata)
    (((System.call (.stat l.realPath follow) w).1.mapError _).map _)
  rw [realPath_eq hpath]
  refine hcall.map ?_
  rintro m _ rfl
  exact Stat.shownAs_asDirectory _

lemma alike_access (mode : AccessMode) (w : σ) :
    Alike Eq (Renamed p.entry.path l.entry.path)
      (Driver.perform (.access mode) p w).1 (Driver.perform (.access mode) l w).1 := by
  change Alike _ _ _ ((System.call (.access l.realPath mode) w).1.mapError _)
  rw [realPath_eq hpath]
  exact alike_mapError ..

/-- Either both ask the system about the absolute path, or both refuse theirs. -/
lemma accessAt_cases (mode : AccessMode) (flags : AccessFlags) (w : σ) :
    p.entry.path.toList.head? = some '/' ∧
      p.accessAt mode flags w =
        p.observing "access_at" (.accessAt p.entry.path mode flags) w ∧
      l.accessAt mode flags w =
        l.observing "access_at" (.accessAt p.entry.path mode flags) w ∨
    p.entry.path.toList.head? ≠ some '/' ∧
      p.accessAt mode flags w =
        Driver.observed "access_at" (.error (.invalidPath p.entry.path)) p w ∧
      l.accessAt mode flags w =
        Driver.observed "access_at" (.error (.invalidPath l.entry.path)) l w := by
  unfold Posix.accessAt Listing.accessAt
  rw [realPath_eq hpath]
  by_cases hslash : p.entry.path.toList.head? = some '/'
  · obtain ⟨rest, hrest⟩ := List.head?_eq_some_iff.mp hslash
    rw [hrest]
    exact .inl ⟨rfl, rfl, rfl⟩
  · have hrelative (rest : List Char) : p.entry.path.toList ≠ '/' :: rest :=
      fun h => hslash (h ▸ rfl)
    refine .inr ⟨hslash, ?_, ?_⟩
    · split
      · rename_i rest h
        exact absurd h (hrelative rest)
      · rfl
    · split
      · rename_i rest h
        exact absurd h (hrelative rest)
      · rfl

lemma alike_accessAt (mode : AccessMode) (flags : AccessFlags) (w : σ) :
    Alike Eq (fun e e' => Renamed p.entry.path l.entry.path e e' ∨
        e = .invalidPath p.entry.path ∧ e' = .invalidPath l.entry.path)
      (p.accessAt mode flags w).1 (l.accessAt mode flags w).1 := by
  rcases accessAt_cases hpath mode flags w with ⟨-, hp, hl⟩ | ⟨-, hp, hl⟩
  · rw [hp, hl]
    exact (alike_mapError ..).imp fun _ _ => .inl
  · rw [hp, hl]
    exact .error rfl rfl (.inr ⟨rfl, rfl⟩)

lemma unusable_accessAt (mode : AccessMode) (flags : AccessFlags) (w : σ) :
    (unusable (p.accessAt mode flags w).1 = true ↔ p.entry.path.toList.head? ≠ some '/') ∧
      (unusable (l.accessAt mode flags w).1 = true ↔ p.entry.path.toList.head? ≠ some '/') := by
  rcases accessAt_cases hpath mode flags w with ⟨h, hp, hl⟩ | ⟨h, hp, hl⟩
  · have hfalse {x : Except IoError Unit} {path : String} :
        ¬ unusable (x.mapError (.ofIo "access_at" path)) = true :=
      Bool.eq_false_iff.mp (unusable_mapError ..)
    rw [hp, hl]
    exact ⟨iff_of_false hfalse (not_not_intro h), iff_of_false hfalse (not_not_intro h)⟩
  · rw [hp, hl]
    exact ⟨iff_of_true rfl h, iff_of_true rfl h⟩

lemma alike_canonicalPath (w : σ) :
    Alike (fun c c' => c' = Backend.listTag ++ c)
      (fun e e' => Renamed p.entry.path l.entry.path e e' ∨ Unreadable e e')
      (Driver.perform .canonicalPath p w).1 (Driver.perform .canonicalPath l w).1 := by
  have hcall := alike_mapError (System.call (.canonicalize p.entry.path) w).1 "canonical_path"
    p.entry.path l.entry.path
  have hname (bytes bytes' : Bytes) (h : bytes = bytes') :
      Alike Eq (fun e e' => Renamed p.entry.path l.entry.path e e' ∨ Unreadable e e')
        (Posix.nameOf bytes) (Posix.nameOf bytes') := by
    rw [h]
    exact (alike_nameOf bytes').imp fun _ _ => .inr
  change Alike _ _ ((_ : Except PathError Bytes).bind Posix.nameOf)
    ((((System.call (.canonicalize l.realPath) w).1.mapError _).bind Posix.nameOf).map _)
  rw [realPath_eq hpath]
  refine (hcall.bind (fun _ _ => .inl) hname).map_right ?_
  rintro c _ rfl
  rfl

lemma world_common {α : Type} (r : Request α) (hr : r.common = true) (w : σ) :
    (Driver.perform r l w).2.2 = (Driver.perform r p w).2.2 := by
  have hreal := realPath_eq hpath
  cases r with
  | statUncached follow =>
    change (System.call (.stat l.realPath follow) w).2 = _
    rw [hreal]
    rfl
  | access mode =>
    change (System.call (.access l.realPath mode) w).2 = _
    rw [hreal]
    rfl
  | accessAt mode flags =>
    change (l.accessAt mode flags w).2.2 = (p.accessAt mode flags w).2.2
    rcases accessAt_cases hpath mode flags w with ⟨-, hp, hl⟩ | ⟨-, hp, hl⟩ <;> rw [hp, hl] <;> rfl
  | canonicalPath =>
    change (System.call (.canonicalize l.realPath) w).2 = _
    rw [hreal]
    rfl
  | _ => cases hr

end

/-- **A list path mirrors the plain path** behind its tag, whatever that path is and whatever the
system answers. Its record is the same but for saying that it is a directory. Probes end the same,
and one by path is refused exactly if the path behind the tag is relative. Canonical paths are the
same with the tag before. Where either fails the other does, in one class and with one number, and
each error names the path of its own entry, or both what the system gave that is not UTF-8. -/
theorem mirrors_ofPath (q : String) (w : σ) :
    Mirrors (.ofPath (Backend.listTag ++ q)) (.ofPath q) w := by
  have hpath : (Listing.ofPath (Backend.listTag ++ q)).entry.path =
      Backend.listTag ++ (Posix.ofPath q).entry.path := rfl
  have hinj : Function.Injective (Backend.listTag ++ ·) :=
    fun _ _ h => (String.append_right_inj Backend.listTag).mp h
  exact {
    real := realPath_eq hpath
    stat := fun follow => alike_stat hpath follow w
    access := fun mode => alike_access hpath mode w
    accessAt := fun mode flags => alike_accessAt hpath mode flags w
    relative := fun mode flags => unusable_accessAt hpath mode flags w
    canonicalPath := alike_canonicalPath hpath w
    canonicalPath_iff := (alike_canonicalPath hpath w).ok_iff hinj
    world := fun r hr => world_common hpath r hr w }

end Listing

end TreeHaul
