import TreeHaul.Proofs.Driver.Agreement
import TreeHaul.Proofs.Driver.Times
import TreeHaul.Proofs.Path.Kinds

/-!
What records say. Every record that an entry stores, whether it counts or not, was made from an
answer of the system by its driver, and so its kind is the one that its mode tells. A list makes a
directory of whatever the system answers, so it is never a link, and a directory wherever it is.
-/

universe u

namespace TreeHaul

open TreeHaul.Os TreeHaul.Path TreeHaul.Text HasEntry

namespace Path.Entry

@[simp] lemma stat?_invalidateStat (e : Entry) : e.invalidateStat.stat? = e.stat? := rfl

/-- A record that is given up is stored still; it only counts no more. -/
@[simp] lemma stat?_recordMutation {α : Type} (e : Entry) (op : String) (r : Except PathError α) :
    (e.recordMutation op r).stat? = e.stat? := by
  cases r <;> rfl

lemma stat?_of_cachedStat? {e : Entry} {s : Stat} (h : e.cachedStat? = some s) :
    e.stat? = some s := by
  unfold cachedStat? at h
  split at h
  · exact h
  · cases h

end Path.Entry

variable {σ : Type u} [System σ] {α : Type}

/-! ### Requests store nothing -/

lemma Posix.stat?_perform (r : Request α) (d : Posix) (w : σ) :
    (Posix.perform r d w).2.1.entry.stat? = d.entry.stat? := by
  cases r with
  | accessAt _ _ => rw [perform, accessAt]; split <;> rfl
  | open_ _ _ =>
    rw [perform, openFile]
    split
    · rfl
    · split
      · rfl
      · dsimp only
        split <;> rfl
  | close => rw [perform, closeFile]; split <;> rfl
  | openDir =>
    rw [perform, openDir]
    split
    · rfl
    · split <;> rfl
  | closeDir => rw [perform, closeDir]; split <;> rfl
  | readDirEntry => rw [perform, readDirEntry]; split <;> rfl
  | read _ _ => rw [perform, read]; split <;> rfl
  | write _ _ =>
    rw [perform, write]
    split
    · rfl
    · exact Entry.stat?_recordMutation ..
  | statUncached _ | access _ | readLink _ | canonicalPath => rfl
  | setTimes _ =>
    rw [perform, setTimes]
    split
    · exact Entry.stat?_recordMutation ..
    · rfl
  | mkdir _ | remove | unlink | symlink _ | chown _ _ | chmod _ =>
    exact Entry.stat?_recordMutation ..

lemma Listing.stat?_perform (r : Request α) (d : Listing) (w : σ) :
    (Listing.perform r d w).2.1.entry.stat? = d.entry.stat? := by
  cases r with
  | accessAt _ _ => rw [perform, accessAt]; split <;> rfl
  | openDir =>
    rw [perform, openDir]
    split
    · rfl
    · split <;> rfl
  | closeDir => rw [perform, closeDir]; split <;> rfl
  | readDirEntry => rw [perform, readDirEntry]; split <;> rfl
  | _ => rfl

lemma Null.stat?_perform (r : Request α) (d : Null) (w : σ) :
    (Null.perform r d w).2.1.entry.stat? = d.entry.stat? := by
  cases r with
  | open_ _ _ => rw [perform, openFile]; split <;> rfl
  | close => rw [perform, closeFile]; split <;> rfl
  | openDir => rw [perform, openDir]; split <;> rfl
  | closeDir => rw [perform, closeDir]; split <;> rfl
  | readDirEntry => rw [perform, readDirEntry]; split <;> rfl
  | read _ _ => rw [perform, whileOpen]; split <;> rfl
  | write _ _ => rw [perform, whileOpen]; split <;> rfl
  | _ => rfl

namespace AnyDriver

lemma stat?_perform (r : Request α) (d : AnyDriver) (w : σ) :
    (entry (Driver.perform r d w).2.1).stat? = (entry d).stat? := by
  cases d with
  | posix d => exact Posix.stat?_perform r d w
  | list d => exact Listing.stat?_perform r d w
  | null d => exact Null.stat?_perform r d w

lemma stat?_finalize (d : AnyDriver) (w : σ) :
    (entry (Driver.finalize d w).1).stat? = (entry d).stat? := by
  cases d with
  | posix d => simp only [Driver.finalize, Posix.finalize]; split <;> rfl
  | list d => simp only [Driver.finalize, Listing.finalize]; split <;> rfl
  | null d =>
    obtain ⟨⟨_, _, ⟨_, _, _, _, file, dir⟩, _⟩, _⟩ := d
    cases file <;> cases dir <;> rfl

/-! ### What is stored -/

/-- A driver after a step: what it stores was stored before, or it suits the backend. -/
structure Inherits (d d' : AnyDriver) : Prop where
  same : backend d' = backend d
  stored (s : Stat) : (entry d').stat? = some s → (entry d).stat? = some s ∨ s.Suits (backend d)

variable {d d' d'' : AnyDriver}

lemma Inherits.trans (h : Inherits d d') (h' : Inherits d' d'') : Inherits d d'' where
  same := h'.same.trans h.same
  stored s hs := by
    rcases h'.stored s hs with hs | hs
    · exact h.stored s hs
    · exact .inr (h.same ▸ hs)

lemma inherits_of_eq (hb : backend d' = backend d) (hs : (entry d').stat? = (entry d).stat?) :
    Inherits d d' :=
  ⟨hb, fun _ h => .inl (hs ▸ h)⟩

lemma inherits_refl (d : AnyDriver) : Inherits d d := inherits_of_eq rfl rfl

lemma inherits_mapEntry (d : AnyDriver) {f : Entry → Entry} (hf : ∀ e, (f e).stat? = e.stat?) :
    Inherits d (Driver.mapEntry f d) := by
  refine inherits_of_eq (backend_mapEntry f d) ?_
  rw [Request.entry_mapEntry]
  exact hf _

omit [System σ] in
lemma inherits_observed (op : String) (x : Except PathError α) (d : AnyDriver) (w : σ) :
    Inherits d (Driver.observed op x d w).2.1 :=
  inherits_mapEntry d fun e => e.stat?_record op x

lemma inherits_perform (r : Request α) (d : AnyDriver) (w : σ) :
    Inherits d (Driver.perform r d w).2.1 :=
  inherits_of_eq (by cases d <;> rfl) (stat?_perform r d w)

lemma inherits_finalize (d : AnyDriver) (w : σ) : Inherits d (Driver.finalize d w).1 :=
  inherits_of_eq (by cases d <;> rfl) (stat?_finalize d w)

lemma inherits_reset (path : String) (d : AnyDriver) (w : σ) :
    Inherits d (Driver.reset path d w).1 where
  same := by cases d <;> rfl
  stored s h := by cases d <;> cases h

/-- Each driver makes its records of what the system answers. -/
lemma suits_reading (d : AnyDriver) (m : Metadata) : (d.reading m).Suits (backend d) := by
  cases d with
  | posix d => exact Stat.suits_ofMetadata m nofun
  | list d => exact Stat.suits_asDirectory _ _
  | null d => exact Stat.suits_ofMetadata m nofun

lemma suits_answer {follow : Bool} {w : σ} {s : Stat} (h : d.answer follow w = .ok s) :
    s.Suits (backend d) := by
  obtain ⟨m, -, rfl⟩ := exists_of_answer h
  exact suits_reading d m

lemma inherits_refresh (follow : Bool) (d : AnyDriver) (w : σ) :
    Inherits d (Driver.refresh follow d w).2.1 := by
  rw [refresh_eq]
  refine Inherits.trans ⟨backend_mapEntry _ d, fun s hs => ?_⟩ (inherits_observed ..)
  rw [Request.entry_mapEntry] at hs
  cases ha : d.answer follow w with
  | ok t =>
    rw [ha] at hs
    cases hs
    exact .inr (suits_answer ha)
  | error err =>
    rw [ha] at hs
    exact .inl hs

lemma inherits_stat (follow : Bool) (d : AnyDriver) (w : σ) :
    Inherits d (Driver.stat follow d w).2.1 := by
  rcases stat_cases follow d w with ⟨s, -, -, h⟩ | h
  · rw [h]
    exact inherits_observed ..
  · rw [h]
    exact inherits_refresh follow d w

/-- **One call** stores nothing but what the driver makes of an answer. -/
lemma inherits_call (c : Call α) (d : AnyDriver) (w : σ) :
    Inherits d (Driver.call c d w).2.1 := by
  cases c with
  | request r => exact inherits_perform r d w
  | stat follow => exact inherits_stat follow d w
  | isLink => exact inherits_stat false d w
  | statDefault | exists? | isDir | size | mtime => exact inherits_stat _ d w
  | finalize => exact inherits_finalize d w
  | reset path => exact inherits_reset path d w
  | recordMutation op r => exact inherits_mapEntry d fun e => e.stat?_recordMutation op r
  | record op r => exact inherits_observed op r d w
  | decline op b => exact inherits_observed (α := Unit) op _ d w
  | reject op reason => exact inherits_observed (α := Unit) op _ d w
  | follow => exact inherits_mapEntry d fun e => e.setFollow.stat?_invalidateStat
  | invalidateStat => exact inherits_mapEntry d Entry.stat?_invalidateStat

lemma inherits_identical (d other : AnyDriver) (w : σ) :
    Inherits d (Driver.identical d other w).2.1 := by
  have hgive (d : AnyDriver) : Inherits d (Driver.mapEntry Entry.invalidateStat d) :=
    inherits_mapEntry d Entry.stat?_invalidateStat
  refine (identical_induction inherits_refl hgive (fun d w => ?_) d other w).1
  rw [renewed_eq]
  exact (hgive d).trans (inherits_stat _ _ w)

/-! ### What is answered -/

/-- Every record that an entry stores suits its backend. -/
def Suited (d : AnyDriver) : Prop := ∀ s, (entry d).stat? = some s → s.Suits (backend d)

lemma suited_ofPath (b : Backend) (path : String) : (ofPath b path).Suited := by
  intro s h
  cases b <;> cases h

lemma Suited.of_inherits (hd : d.Suited) (h : Inherits d d') : d'.Suited := by
  intro s hs
  rw [h.same]
  rcases h.stored s hs with hs | hs
  · exact hd s hs
  · exact hs

lemma Suited.stat (hd : d.Suited) {follow : Bool} {w : σ} {s : Stat}
    (hs : (Driver.stat follow d w).1 = .ok s) : s.Suits (backend d) := by
  rcases stat_cases follow d w with ⟨t, ht, -, h⟩ | h
  · rw [h] at hs
    cases hs
    exact hd s (Entry.stat?_of_cachedStat? ht)
  · rw [h, refresh_eq] at hs
    exact suits_answer hs

/-- Queries cannot tell a list from a directory, whichever links they look through. -/
lemma Suited.queries (hd : d.Suited) (hb : backend d = .list) (w : σ) :
    (Driver.isLink d w).1 = false ∧ (Driver.isDir d w).1 = (Driver.exists? d w).1 := by
  have hkind {follow : Bool} {s : Stat} {d' : AnyDriver} {w' : σ}
      (h : Driver.stat follow d w = (.ok s, d', w')) : s.kind = .directory :=
    (hd.stat (congrArg Prod.fst h)).list hb
  constructor
  · rcases h : Driver.stat false d w with ⟨r, d', w'⟩
    rw [Driver.isLink, h]
    cases r with
    | ok s =>
      change (s.kind == .symlink) = false
      rw [hkind h]
      rfl
    | error e => rfl
  · rcases h : Driver.statDefault d w with ⟨r, d', w'⟩
    rw [Driver.isDir, Driver.exists?, h]
    cases r with
    | ok s =>
      change (s.kind == .directory) = true
      rw [hkind h]
      rfl
    | error e => rfl

end AnyDriver

/-! ### Histories -/

namespace Act

lemma inherits_apply (a : Act σ) (d : AnyDriver) (w : σ) : d.Inherits (a.apply d w).1 := by
  cases a with
  | call c => exact AnyDriver.inherits_call c.2 d w
  | identical other => exact AnyDriver.inherits_identical d other w
  | elsewhere change => exact AnyDriver.inherits_refl d

lemma inherits_run (acts : List (Act σ)) (d : AnyDriver) (w : σ) :
    d.Inherits (run acts d w).1 := by
  induction acts generalizing d w with
  | nil => exact AnyDriver.inherits_refl d
  | cons a acts ih => exact (inherits_apply a d w).trans (ih _ _)

end Act

namespace Event

lemma inherits_apply (e : Event σ) (d : AnyDriver) (w : σ) : d.Inherits (e.apply d w).1 := by
  cases e with
  | act a => exact Act.inherits_apply a d w
  | compared other =>
    obtain ⟨acts, -, h⟩ := Act.run_compared other d w
    have hrun := Act.inherits_run acts d w
    rwa [h] at hrun

lemma inherits_foldl (events : List (Event σ)) (d : AnyDriver) (w : σ) :
    d.Inherits (run events d w).1 := by
  induction events generalizing d w with
  | nil => exact AnyDriver.inherits_refl d
  | cons e es ih => exact (inherits_apply e d w).trans (ih _ _)

/-- **Records say what they are of.** In every state that an entry can come to, the kind in each
record is the one that its mode tells: in the record that is stored, whether it counts or not, and
in those that stats answer with. For a list it is always a directory, so a list is never a link,
under whatever policy it was looked at, and is a directory exactly when there is something. -/
theorem records_suit (b : Backend) (path : String) (w : σ) (events : List (Event σ)) :
    let d := (run events (.ofPath b path) w).1
    let v := (run events (.ofPath b path) w).2
    (∀ s, (entry d).stat? = some s → s.Suits b) ∧
    (∀ follow s, (Driver.stat follow d v).1 = .ok s ∨
      (Driver.perform (.statUncached follow) d v).1 = .ok s → s.Suits b) ∧
    (b = .list →
      (Driver.isLink d v).1 = false ∧ (Driver.isDir d v).1 = (Driver.exists? d v).1) := by
  intro d v
  have h : (AnyDriver.ofPath b path).Inherits d := inherits_foldl events _ w
  have hd : d.Suited := (AnyDriver.suited_ofPath b path).of_inherits h
  have hb : backend d = b := h.same.trans (by cases b <;> rfl)
  refine ⟨fun s hs => hb ▸ hd s hs, fun follow s hs => ?_, fun hlist => ?_⟩
  · rw [← hb]
    rcases hs with hs | hs
    · exact hd.stat hs
    · exact AnyDriver.suits_answer hs
  · exact hd.queries (hb.trans hlist) v

/-- A list of what is a link, looked at without looking through it. -/
theorem records_suit_link :
    let w : Files :=
      ((Files.fresh ⟨5, 0⟩ []).addInode Files.root (bytesOf "a") (.link (bytesOf "/b")) 0o777).2
    let events : List (Event Files) := [.act (.call ⟨_, .stat false⟩)]
    let d := (run events (.ofPath .list "list:///a") w).1
    let v := (run events (.ofPath .list "list:///a") w).2
    (System.call (.stat "/a" false) w).1.map (FileKind.ofMode ·.mode) = .ok .symlink ∧
    (∃ s, (entry d).stat? = some s ∧ s.kind = .directory ∧ FileKind.ofMode s.mode = .directory) ∧
    (Driver.isLink d v).1 = false ∧ (Driver.isDir d v).1 = (Driver.exists? d v).1 := by
  intro w events d v
  have hstored : (entry d).stat?.isSome = true := by decide +kernel
  obtain ⟨hrecord, -, hqueries⟩ := records_suit .list "list:///a" w events
  obtain ⟨s, hs⟩ := Option.isSome_iff_exists.mp hstored
  have hsuits := hrecord s hs
  exact ⟨by decide +kernel, ⟨s, hs, hsuits.list rfl, hsuits.kind.symm.trans (hsuits.list rfl)⟩,
    hqueries rfl⟩

end Event

end TreeHaul
