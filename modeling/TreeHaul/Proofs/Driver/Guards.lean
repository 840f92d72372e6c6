import TreeHaul.Proofs.Driver.Resources

/-!
When a request comes in the wrong state, and what one that succeeds opens and closes. That is
decided by what is held when the request is made, never by what the system answers.
-/

universe u

namespace TreeHaul

open TreeHaul.Os TreeHaul.Path TreeHaul.Text HasEntry Holder

/-! ### Errors that are due to the state -/

/-- A call failed for the state that the entry was in. -/
def wrongState {α : Type} : Except PathError α → Bool
  | .error (.invalidState ..) => true
  | _ => false

section WrongState

variable {α β : Type}

lemma wrongState_ofIo (x : Except IoError α) (op path : String) :
    wrongState (x.mapError (.ofIo op path)) = false := by
  cases x with
  | ok a => rfl
  | error e =>
    change wrongState (.error (.ofIo op path e)) = false
    unfold PathError.ofIo
    split <;> rfl

lemma wrongState_map (x : Except PathError α) (f : α → β) :
    wrongState (x.map f) = wrongState x := by
  cases x with
  | ok a => rfl
  | error e => cases e <;> rfl

lemma wrongState_bind {x : Except PathError α} {f : α → Except PathError β}
    (hx : wrongState x = false) (hf : ∀ a, wrongState (f a) = false) :
    wrongState (x.bind f) = false := by
  cases x with
  | ok a => exact hf a
  | error e =>
    cases e with
    | invalidState op path reason => cases hx
    | _ => rfl

lemma wrongState_nameOf (bytes : Bytes) : wrongState (Posix.nameOf bytes) = false := by
  unfold Posix.nameOf
  split <;> rfl

end WrongState

/-! ### What a request needs and does -/

/-- How a request suits an entry. -/
inductive Fit where
  /-- The backend has no such resource. -/
  | unprovided
  /-- The resource is open and should not be, or should be and is not. -/
  | misplaced
  | apt
  deriving DecidableEq, Repr

namespace Request

variable {σ : Type u} {α δ : Type}

/-- The resource that a request is about, and whether that has to be open. -/
def guard : Request α → Option (Resource × Bool)
  | open_ .. => some (.file, false)
  | close | read .. | write .. => some (.file, true)
  | openDir => some (.dir, false)
  | closeDir | readDirEntry => some (.dir, true)
  | _ => none

/-- What a success means for a resource. -/
def mark : Request α → Resource → Option Mark
  | open_ .., .file | openDir, .dir => some .opened
  | close, .file | closeDir, .dir => some .closed
  | _, _ => none

/-- What a request did to a resource, told from how it ended. -/
def turn (r : Request α) (x : Except PathError α) (ρ : Resource) : Option Mark :=
  match x with
  | .ok _ => r.mark ρ
  | .error _ => none

variable [HasEntry δ] [Holder δ]

def fit (r : Request α) (d : δ) : Fit :=
  match r.guard with
  | none => .apt
  | some (ρ, needed) =>
    if (backend d).provides ρ then
      if holds d ρ = needed then .apt else .misplaced
    else .unprovided

/-- A request fails at once if it does not suit the entry. Otherwise the state is no reason to
fail, and a success turns the resource that the request is about. -/
structure Honours (r : Request α) (d : δ) (w : σ) (o : Outcome σ δ α) : Prop where
  unprovided : r.fit d = .unprovided → o = Driver.declined r.name d w
  misplaced : r.fit d = .misplaced → ∃ reason, o = Driver.rejected r.name reason d w
  apt : r.fit d = .apt → wrongState o.1 = false
  turns : Turns (r.turn o.1) d o.2.1

variable {r : Request α} {d d' : δ} {w : σ} {o : Outcome σ δ α}

/-- Whether a request suits an entry that has the resource. -/
lemma fit_of_held {ρ : Resource} {needed held : Bool} (hr : r.guard = some (ρ, needed))
    (hp : (backend d).provides ρ = true) (hd : holds d ρ = held) :
    r.fit d = if held = needed then .apt else .misplaced := by
  rw [fit, hr]
  dsimp only
  rw [if_pos hp, hd]

lemma turns_of_still {x : Except PathError α} (hr : ∀ ρ, r.mark ρ = none) (h : Still d d') :
    Turns (r.turn x) d d' := by
  have hturn : r.turn x = fun _ => none := by
    funext ρ
    cases x with
    | ok a => exact hr ρ
    | error e => rfl
  rwa [hturn]

lemma honours_of_apt (hfit : r.fit d = .apt) (hx : wrongState o.1 = false)
    (h : Turns (r.turn o.1) d o.2.1) : r.Honours d w o where
  unprovided hf := by rw [hfit] at hf; cases hf
  misplaced hf := by rw [hfit] at hf; cases hf
  apt _ := hx
  turns := h

variable [LawfulEntry δ]

lemma honours_rejected (hfit : r.fit d = .misplaced) (reason : String) :
    r.Honours d w (Driver.rejected r.name reason d w) where
  unprovided hf := by rw [hfit] at hf; cases hf
  misplaced _ := ⟨reason, rfl⟩
  apt hf := by rw [hfit] at hf; cases hf
  turns := Turns.observed (t := fun _ => none) (still_refl d) _ _ w

/-- A call that fails for another reason than the state. -/
lemma honours_failed {e : PathError} (hfit : r.fit d = .apt)
    (he : wrongState (α := α) (.error e) = false) (op : String) (w' : σ) :
    r.Honours d w (Driver.observed op (.error e) d w') :=
  honours_of_apt hfit he (Turns.observed (t := fun _ => none) (still_refl d) ..)

lemma honours_declined (hfit : r.fit d = .unprovided) :
    r.Honours d w (Driver.declined r.name d w) where
  unprovided _ := rfl
  misplaced hf := by rw [hfit] at hf; cases hf
  apt _ := rfl
  turns := Turns.observed (t := fun _ => none) (still_refl d) _ _ w

end Request

variable {σ : Type u} [System σ] {α : Type}

open Request

/-! ### Plain paths -/

namespace Posix

lemma fit_file {r : Request α} {d : Posix} {needed : Bool} {h? : Option Handle} {fit : Fit}
    (hr : r.guard = some (.file, needed)) (hf : d.file? = h?)
    (hfit : (if h?.isSome = needed then .apt else .misplaced) = fit) : r.fit d = fit :=
  (fit_of_held hr rfl (congrArg Option.isSome hf)).trans hfit

lemma fit_dir {r : Request α} {d : Posix} {needed : Bool} {r? : Option DirReader} {fit : Fit}
    (hr : r.guard = some (.dir, needed)) (hf : d.dir? = r?)
    (hfit : (if r?.isSome = needed then .apt else .misplaced) = fit) : r.fit d = fit :=
  (fit_of_held hr rfl (congrArg Option.isSome hf)).trans hfit

lemma wrongState_issue {β : Type} {op : String} {c : Syscall β} {d : Posix} {w w' : σ}
    {e : PathError} (h : d.issue op c w = (.error e, w')) :
    wrongState (α := α) (.error e) = false := by
  have hx : wrongState (d.issue op c w).1 = false := wrongState_ofIo ..
  rw [h] at hx
  cases e <;> exact hx

lemma honours_observing {r : Request α} (op : String) (c : Syscall α) {d : Posix} (w : σ)
    (hfit : r.fit d = .apt) (hr : ∀ ρ, r.mark ρ = none) : r.Honours d w (d.observing op c w) :=
  honours_of_apt hfit (wrongState_ofIo ..) ((turns_of_still hr (still_refl d)).observed ..)

lemma honours_changing {r : Request α} (op : String) (c : Syscall α) {d : Posix} (w : σ)
    (hfit : r.fit d = .apt) (hr : ∀ ρ, r.mark ρ = none) : r.Honours d w (d.changing op c w) :=
  honours_of_apt hfit (wrongState_ofIo ..) ((turns_of_still hr (still_refl d)).changed ..)

/-- Looking for a name never fails for the state. -/
lemma wrongState_nextName (path : String) (r : DirReader) (w : σ) :
    wrongState (nextName path r w).1 = false := by
  refine wrongState_bind (wrongState_ofIo ..) fun name? => ?_
  -- a name may still be none that can be asked for again
  cases name? with
  | none => rfl
  | some bytes => exact (wrongState_map _ _).trans (wrongState_nameOf bytes)

lemma honours_openFile (flags : OpenFlags) (mode : UInt32) (d : Posix) (w : σ) :
    (open_ flags mode).Honours d w (d.openFile flags mode w) := by
  unfold openFile
  split
  · rename_i hf
    exact honours_rejected (fit_file rfl hf rfl) _
  · rename_i hf
    split
    · rename_i hi
      exact honours_failed (fit_file rfl hf rfl) (wrongState_issue hi) _ _
    · rename_i h _ _
      refine honours_of_apt (fit_file rfl hf rfl) rfl (Turns.observed (α := Unit) (d := d) ?_ ..)
      -- the handle and the flag come together
      have hopen : Turns ((open_ flags mode).turn (.ok ())) d
          { d with file? := some h, entry := d.entry.setFileOpen true } :=
        ⟨(Entry.tidy_setFileOpen · true), fun ρ => by cases ρ <;> rfl,
          fun ρ => by cases ρ <;> rfl⟩
      split
      · exact hopen.still (still_mapEntry _ Entry.steady_invalidateStat)
      · exact hopen

lemma honours_openDir (d : Posix) (w : σ) : Request.openDir.Honours d w (d.openDir w) := by
  unfold openDir
  split
  · rename_i hf
    exact honours_rejected (fit_dir rfl hf rfl) _
  · rename_i hf
    split
    · rename_i hi
      exact honours_failed (fit_dir rfl hf rfl) (wrongState_issue hi) _ _
    · refine honours_of_apt (fit_dir rfl hf rfl) rfl (Turns.observed (α := Unit) (d := d) ?_ ..)
      exact ⟨(Entry.tidy_setDirOpen · true), fun ρ => by cases ρ <;> rfl,
        fun ρ => by cases ρ <;> rfl⟩

lemma honours (r : Request α) (d : Posix) (w : σ) : r.Honours d w (Posix.perform r d w) := by
  have hstill := still_refl d
  cases r with
  | statUncached follow =>
    have hx : wrongState (Posix.perform (.statUncached follow) d w).1 = false :=
      (wrongState_map _ _).trans (wrongState_ofIo ..)
    exact honours_of_apt rfl hx (turns_of_still (fun _ => rfl) hstill)
  | access mode => exact honours_observing _ _ w rfl fun _ => rfl
  | accessAt mode flags =>
    rw [perform, accessAt]
    split
    · exact honours_observing _ _ w rfl fun _ => rfl
    · exact honours_failed rfl rfl _ w
  | open_ flags mode => exact honours_openFile flags mode d w
  | close =>
    rw [perform, closeFile]
    split
    · rename_i hf
      exact honours_rejected (fit_file rfl hf rfl) _
    · rename_i h hf
      refine honours_of_apt (fit_file rfl hf rfl) rfl (Turns.changed (α := Unit) (d := d) ?_ ..)
      exact ⟨(Entry.tidy_setFileOpen · false), fun ρ => by cases ρ <;> rfl,
        fun ρ => by cases ρ <;> rfl⟩
  | openDir => exact honours_openDir d w
  | closeDir =>
    rw [perform, closeDir]
    split
    · rename_i hf
      exact honours_rejected (fit_dir rfl hf rfl) _
    · rename_i h hf
      refine honours_of_apt (fit_dir rfl hf rfl) rfl (Turns.changed (α := Unit) (d := d) ?_ ..)
      exact ⟨(Entry.tidy_setDirOpen · false), fun ρ => by cases ρ <;> rfl,
        fun ρ => by cases ρ <;> rfl⟩
  | readDirEntry =>
    rw [perform, readDirEntry]
    split
    · rename_i hf
      exact honours_rejected (fit_dir rfl hf rfl) _
    · rename_i h hf
      -- the directory may be at its end now, but is still open
      have hreader (r' : DirReader) : Still d { d with dir? := some r' } :=
        ⟨fun ht => ht, fun _ => rfl, fun ρ => by
          cases ρ with
          | file => rfl
          | dir => exact (congrArg Option.isSome hf).symm⟩
      exact honours_of_apt (fit_dir rfl hf rfl) (wrongState_nextName ..)
        ((turns_of_still (fun _ => rfl) (hreader _)).observed ..)
  | read len offset =>
    rw [perform, read]
    split
    · rename_i hf
      exact honours_rejected (fit_file rfl hf rfl) _
    · rename_i h hf
      exact honours_observing _ _ w (fit_file rfl hf rfl) fun _ => rfl
  | write data offset =>
    rw [perform, write]
    split
    · rename_i hf
      exact honours_rejected (fit_file rfl hf rfl) _
    · rename_i h hf
      exact honours_changing _ _ w (fit_file rfl hf rfl) fun _ => rfl
  | readLink len =>
    have hx : wrongState (Posix.perform (.readLink len) d w).1 = false :=
      (wrongState_map _ _).trans (wrongState_ofIo ..)
    exact honours_of_apt rfl hx ((turns_of_still (fun _ => rfl) hstill).observed ..)
  | canonicalPath =>
    have hx : wrongState (Posix.perform .canonicalPath d w).1 = false :=
      wrongState_bind (wrongState_ofIo ..) wrongState_nameOf
    exact honours_of_apt rfl hx ((turns_of_still (fun _ => rfl) hstill).observed ..)
  | setTimes times =>
    rw [perform, setTimes]
    split
    · rename_i a m _ _
      have hx : wrongState ((d.issue "set_times"
          (.setTimes d.entry.path a m times.followLinks) w).1.map fun _ => Completion.returned) =
          false := (wrongState_map _ _).trans (wrongState_ofIo ..)
      exact honours_of_apt rfl hx ((turns_of_still (fun _ => rfl) hstill).changed ..)
    · exact honours_of_apt rfl rfl (turns_of_still (fun _ => rfl) hstill)
  | mkdir _ | remove | unlink | symlink _ | chown _ _ | chmod _ =>
    exact honours_changing _ _ w rfl fun _ => rfl

end Posix

/-! ### List paths -/

namespace Listing

lemma fit_dir {r : Request α} {d : Listing} {needed : Bool} {c? : Option ListCursor} {fit : Fit}
    (hr : r.guard = some (.dir, needed)) (hf : d.cursor? = c?)
    (hfit : (if c?.isSome = needed then .apt else .misplaced) = fit) : r.fit d = fit :=
  (fit_of_held hr rfl (congrArg Option.isSome hf)).trans hfit

lemma honours_observing {r : Request α} (op : String) (c : Syscall α) {d : Listing} (w : σ)
    (hfit : r.fit d = .apt) (hr : ∀ ρ, r.mark ρ = none) : r.Honours d w (d.observing op c w) :=
  honours_of_apt hfit (wrongState_ofIo ..) ((turns_of_still hr (still_refl d)).observed ..)

/-- Reading on in a list never fails for the state. -/
lemma wrongState_nextName (path : String) (c : ListCursor) (w : σ) :
    wrongState (nextName path c w).1 = false := by
  unfold nextName
  dsimp only
  split
  · exact Posix.wrongState_nextName ..
  · split <;> exact wrongState_ofIo ..

lemma honours_openDir (d : Listing) (w : σ) : Request.openDir.Honours d w (d.openDir w) := by
  unfold openDir
  split
  · rename_i hf
    exact honours_rejected (fit_dir rfl hf rfl) _
  · rename_i hf
    split
    · rename_i e _ _
      exact honours_failed (fit_dir rfl hf rfl) (wrongState_ofIo (.error e) ..) _ _
    · refine honours_of_apt (fit_dir rfl hf rfl) rfl (Turns.observed (α := Unit) (d := d) ?_ ..)
      exact ⟨(Entry.tidy_setDirOpen · true), fun ρ => by cases ρ <;> rfl,
        fun ρ => by cases ρ <;> rfl⟩

lemma honours (r : Request α) (d : Listing) (w : σ) : r.Honours d w (Listing.perform r d w) := by
  cases r with
  | statUncached follow =>
    have hx : wrongState (Listing.perform (.statUncached follow) d w).1 = false :=
      (wrongState_map _ _).trans (wrongState_ofIo ..)
    exact honours_of_apt rfl hx (turns_of_still (fun _ => rfl) (still_refl d))
  | access mode => exact honours_observing _ _ w rfl fun _ => rfl
  | accessAt mode flags =>
    rw [perform, accessAt]
    split
    · exact honours_observing _ _ w rfl fun _ => rfl
    · exact honours_failed rfl rfl _ w
  | openDir => exact honours_openDir d w
  | closeDir =>
    rw [perform, closeDir]
    split
    · rename_i hf
      exact honours_rejected (fit_dir rfl hf rfl) _
    · rename_i c hf
      refine honours_of_apt (fit_dir rfl hf rfl) rfl (Turns.changed (α := Unit) (d := d) ?_ ..)
      exact ⟨(Entry.tidy_setDirOpen · false), fun ρ => by cases ρ <;> rfl,
        fun ρ => by cases ρ <;> rfl⟩
  | readDirEntry =>
    rw [perform, readDirEntry]
    split
    · rename_i hf
      exact honours_rejected (fit_dir rfl hf rfl) _
    · rename_i c hf
      -- reading moves the cursor, but does not give it up
      have hcursor (c' : ListCursor) : Still d { d with cursor? := some c' } :=
        ⟨fun ht => ht, fun _ => rfl, fun ρ => by
          cases ρ with
          | file => rfl
          | dir => exact (congrArg Option.isSome hf).symm⟩
      exact honours_of_apt (fit_dir rfl hf rfl) (wrongState_nextName ..)
        ((turns_of_still (fun _ => rfl) (hcursor _)).observed ..)
  | canonicalPath =>
    have hx : wrongState (Listing.perform .canonicalPath d w).1 = false :=
      (wrongState_map _ _).trans (wrongState_bind (wrongState_ofIo ..) wrongState_nameOf)
    exact honours_of_apt rfl hx ((turns_of_still (fun _ => rfl) (still_refl d)).observed ..)
  | open_ _ _ | close | read _ _ | write _ _ => exact honours_declined rfl
  | mkdir _ | remove | unlink | symlink _ | readLink _ | chown _ _ | chmod _ | setTimes _ =>
    exact honours_failed rfl rfl _ w

end Listing

/-! ### The null tree -/

namespace Null

lemma fit_flag {r : Request α} {d : Null} {ρ : Resource} {needed held : Bool} {fit : Fit}
    (hr : r.guard = some (ρ, needed)) (hf : d.entry.flags.has ρ = held)
    (hfit : (if held = needed then .apt else .misplaced) = fit) : r.fit d = fit :=
  (fit_of_held hr rfl hf).trans hfit

lemma turns_of_flags {t : Resource → Option Mark} {d d' : Null}
    (ht : d.entry.Tidy → d'.entry.Tidy)
    (hf : ∀ ρ, d'.entry.flags.has ρ = Mark.leaves (t ρ) (d.entry.flags.has ρ)) :
    Turns t d d' := ⟨ht, hf, hf⟩

omit [System σ] in
lemma honours_probe {r : Request Unit} {d : Null} (hfit : r.fit d = .apt)
    (hm : ∀ ρ, r.mark ρ = none) (mode : AccessMode) (w : σ) :
    r.Honours d w (d.probe r.name mode w) := by
  refine honours_of_apt hfit ?_ ((turns_of_still hm (still_refl d)).observed ..)
  dsimp only [probe, Driver.observed]
  split
  · rfl
  · exact wrongState_ofIo (.error _) ..

omit [System σ] in
lemma honours_whileOpen {r : Request α} {d : Null} (hr : r.guard = some (.file, true))
    (hm : ∀ ρ, r.mark ρ = none) (a : α) (w : σ) : r.Honours d w (d.whileOpen r.name a w) := by
  unfold whileOpen
  split
  · rename_i hf
    exact honours_of_apt (fit_flag hr hf rfl) rfl ((turns_of_still hm (still_refl d)).observed ..)
  · rename_i hf
    exact honours_rejected (fit_flag hr (Bool.eq_false_iff.mpr hf) rfl) _

lemma honours (r : Request α) (d : Null) (w : σ) : r.Honours d w (Null.perform r d w) := by
  have hstill := still_refl d
  cases r with
  | statUncached follow =>
    have hx : wrongState (Null.perform (.statUncached follow) d w).1 = false :=
      (wrongState_map _ _).trans (wrongState_ofIo ..)
    exact honours_of_apt rfl hx (turns_of_still (fun _ => rfl) hstill)
  | access mode | accessAt mode _ => exact honours_probe rfl (fun _ => rfl) mode w
  | open_ flags mode =>
    rw [perform, openFile]
    split
    · rename_i hf
      exact honours_rejected (fit_flag (ρ := .file) rfl hf rfl) _
    · rename_i hf
      refine honours_of_apt (fit_flag (ρ := .file) rfl (Bool.eq_false_iff.mpr hf) rfl) rfl ?_
      refine Turns.observed (α := Unit) (d := d) (turns_of_flags ?_ ?_) ..
      · exact (Entry.tidy_setFileOpen · true)
      · exact fun ρ => by cases ρ <;> rfl
  | close =>
    rw [perform, closeFile]
    split
    · rename_i hf
      refine honours_of_apt (fit_flag (ρ := .file) rfl hf rfl) rfl ?_
      refine Turns.changed (α := Unit) (d := d) (turns_of_flags ?_ ?_) ..
      · exact (Entry.tidy_setFileOpen · false)
      · exact fun ρ => by cases ρ <;> rfl
    · rename_i hf
      exact honours_rejected (fit_flag (ρ := .file) rfl (Bool.eq_false_iff.mpr hf) rfl) _
  | openDir =>
    rw [perform, openDir]
    split
    · rename_i hf
      exact honours_rejected (fit_flag (ρ := .dir) rfl hf rfl) _
    · rename_i hf
      refine honours_of_apt (fit_flag (ρ := .dir) rfl (Bool.eq_false_iff.mpr hf) rfl) rfl ?_
      refine Turns.observed (α := Unit) (d := d) (turns_of_flags ?_ ?_) ..
      · exact (Entry.tidy_setDirOpen · true)
      · exact fun ρ => by cases ρ <;> rfl
  | closeDir =>
    rw [perform, closeDir]
    split
    · rename_i hf
      refine honours_of_apt (fit_flag (ρ := .dir) rfl hf rfl) rfl ?_
      refine Turns.changed (α := Unit) (d := d) (turns_of_flags ?_ ?_) ..
      · exact (Entry.tidy_setDirOpen · false)
      · exact fun ρ => by cases ρ <;> rfl
    · rename_i hf
      exact honours_rejected (fit_flag (ρ := .dir) rfl (Bool.eq_false_iff.mpr hf) rfl) _
  | readDirEntry =>
    rw [perform, readDirEntry]
    split
    · rename_i hf
      exact honours_of_apt (fit_flag (ρ := .dir) rfl hf rfl) rfl
        ((turns_of_still (fun _ => rfl) hstill).observed ..)
    · rename_i hf
      exact honours_rejected (fit_flag (ρ := .dir) rfl (Bool.eq_false_iff.mpr hf) rfl) _
  | read len offset => exact honours_whileOpen rfl (fun _ => rfl) _ w
  | write data offset => exact honours_whileOpen rfl (fun _ => rfl) _ w
  | mkdir mode =>
    have hdir : Still d { d with asDir := true } := ⟨id, fun _ => rfl, fun _ => rfl⟩
    exact honours_of_apt rfl rfl ((turns_of_still (fun _ => rfl) hdir).changed ..)
  | remove | unlink | chown _ _ | chmod _ | setTimes _ =>
    exact honours_of_apt rfl rfl ((turns_of_still (fun _ => rfl) hstill).changed ..)
  | symlink _ | readLink _ => exact honours_failed rfl rfl _ w
  | canonicalPath =>
    exact honours_of_apt rfl rfl ((turns_of_still (fun _ => rfl) hstill).observed ..)

end Null

/-! ### Any driver -/

namespace AnyDriver

variable {t : Resource → Option Mark}

lemma turns_posix {d d' : Posix} (h : Turns t d d') : Turns t (posix d) (posix d') :=
  ⟨h.tidy, h.flag, h.held⟩

lemma turns_list {d d' : Listing} (h : Turns t d d') : Turns t (list d) (list d') :=
  ⟨h.tidy, h.flag, h.held⟩

lemma turns_null {d d' : Null} (h : Turns t d d') : Turns t (null d) (null d') :=
  ⟨h.tidy, h.flag, h.held⟩

/-- **One request** fails for the state of the entry exactly if it does not suit what is held, and
turns what it is about if it succeeds. -/
lemma honours (r : Request α) (d : AnyDriver) (w : σ) :
    r.Honours d w (Driver.perform r d w) := by
  cases d with
  | posix d =>
    have h := Posix.honours r d w
    refine ⟨fun hf => ?_, fun hf => ?_, h.apt, turns_posix h.turns⟩
    · exact congrArg (fun o => (o.1, posix o.2.1, o.2.2)) (h.unprovided hf)
    · obtain ⟨reason, ho⟩ := h.misplaced hf
      exact ⟨reason, congrArg (fun o => (o.1, posix o.2.1, o.2.2)) ho⟩
  | list d =>
    have h := Listing.honours r d w
    refine ⟨fun hf => ?_, fun hf => ?_, h.apt, turns_list h.turns⟩
    · exact congrArg (fun o => (o.1, list o.2.1, o.2.2)) (h.unprovided hf)
    · obtain ⟨reason, ho⟩ := h.misplaced hf
      exact ⟨reason, congrArg (fun o => (o.1, list o.2.1, o.2.2)) ho⟩
  | null d =>
    have h := Null.honours r d w
    refine ⟨fun hf => ?_, fun hf => ?_, h.apt, turns_null h.turns⟩
    · exact congrArg (fun o => (o.1, null o.2.1, o.2.2)) (h.unprovided hf)
    · obtain ⟨reason, ho⟩ := h.misplaced hf
      exact ⟨reason, congrArg (fun o => (o.1, null o.2.1, o.2.2)) ho⟩

end AnyDriver

end TreeHaul
