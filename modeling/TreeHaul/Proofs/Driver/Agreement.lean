import TreeHaul.Proofs.Driver.Guards
import TreeHaul.Proofs.Driver.Transparency

/-!
The flags of an entry and what it holds agree. Whatever is called on an entry and however it ends,
a flag for something open is set exactly while the driver holds it, and the flags for the record
say whether there is one.
-/

universe u

namespace TreeHaul

open TreeHaul.Os TreeHaul.Path TreeHaul.Text HasEntry Holder

variable {σ : Type u} [System σ] {α : Type}

/-! ### Closing by flags -/

namespace Null

/-- The flag is cleared even if there is nothing to close. -/
lemma turns_close (d : Null) (w : σ) :
    Turns (fun | .file => some .released | .dir => none) d
      (Driver.mapEntry (·.setFileOpen false) (Null.perform .close d w).2.1) := by
  have h := (honours .close d w).turns
  refine turns_of_flags (fun ht => Entry.tidy_setFileOpen (h.tidy ht) false) fun ρ => ?_
  cases ρ with
  | file => rfl
  | dir =>
    have hdir := h.flag .dir
    cases hx : (Null.perform .close d w).1 <;> rw [hx] at hdir <;> exact hdir

lemma turns_closeDir (d : Null) (w : σ) :
    Turns (fun | .file => none | .dir => some .released) d
      (Driver.mapEntry (·.setDirOpen false) (Null.perform .closeDir d w).2.1) := by
  have h := (honours .closeDir d w).turns
  refine turns_of_flags (fun ht => Entry.tidy_setDirOpen (h.tidy ht) false) fun ρ => ?_
  cases ρ with
  | dir => rfl
  | file =>
    have hfile := h.flag .file
    cases hx : (Null.perform .closeDir d w).1 <;> rw [hx] at hfile <;> exact hfile

lemma turns_finalize (d : Null) (w : σ) :
    Turns (fun _ => some .released) d (d.finalize w).1 := by
  unfold Null.finalize Release.byFlags
  dsimp only
  split
  · split
    · have h := turns_close d w
      have h' := turns_closeDir
        (Driver.mapEntry (·.setFileOpen false) (Null.perform .close d w).2.1)
        (Null.perform .close d w).2.2
      refine turns_of_flags (h'.tidy ∘ h.tidy) fun ρ => ?_
      cases ρ with
      | file => exact (h'.flag .file).trans (h.flag .file)
      | dir => exact h'.flag .dir
    · rename_i hfile
      have h := turns_closeDir d w
      refine turns_of_flags h.tidy fun ρ => ?_
      cases ρ with
      | file => exact (h.flag .file).trans (Bool.eq_false_iff.mpr hfile)
      | dir => exact h.flag .dir
  · rename_i hdir
    split
    · have h := turns_close d w
      refine turns_of_flags h.tidy fun ρ => ?_
      cases ρ with
      | file => exact h.flag .file
      | dir => exact (h.flag .dir).trans (Bool.eq_false_iff.mpr hdir)
    · rename_i hfile
      refine turns_of_flags id fun ρ => ?_
      cases ρ with
      | file => exact Bool.eq_false_iff.mpr hfile
      | dir => exact Bool.eq_false_iff.mpr hdir

end Null

/-! ### Calls that open and close nothing -/

namespace AnyDriver

lemma still_refresh (follow : Bool) (d : AnyDriver) (w : σ) :
    Still d (Driver.refresh follow d w).2.1 := by
  rw [refresh_eq]
  refine Turns.observed (still_mapEntry d fun e => ?_) ..
  cases d.answer follow w with
  | ok s => exact e.steady_cacheStat s follow
  | error err => exact e.steady_statFailed

lemma still_stat (follow : Bool) (d : AnyDriver) (w : σ) :
    Still d (Driver.stat follow d w).2.1 := by
  rcases stat_cases follow d w with ⟨s, -, -, h⟩ | h
  · rw [h]
    exact (still_refl d).observed ..
  · rw [h]
    exact still_refresh follow d w

lemma still_identical (d other : AnyDriver) (w : σ) :
    Still d (Driver.identical d other w).2.1 ∧ Still other (Driver.identical d other w).2.2.1 := by
  have hgive (d : AnyDriver) : Still d (Driver.mapEntry Entry.invalidateStat d) :=
    still_mapEntry d Entry.steady_invalidateStat
  refine identical_induction still_refl hgive (fun d w => ?_) d other w
  rw [renewed_eq]
  exact (hgive d).still (still_stat _ _ w)

/-! ### Release -/

lemma turns_finalize (d : AnyDriver) (w : σ) :
    Turns (fun _ => some .released) d (Driver.finalize d w).1 := by
  have hclear (e : Entry) (h : e.Tidy) : ((e.setFileOpen false).setDirOpen false).Tidy :=
    Entry.tidy_setDirOpen (Entry.tidy_setFileOpen h false) false
  cases d with
  | posix d =>
    refine turns_posix ⟨fun ht => hclear _ ?_, fun ρ => ?_, fun ρ => ?_⟩
    · split
      · exact (Entry.steady_invalidateStat _).tidy ht
      · exact ht
    · cases ρ <;> rfl
    · cases ρ <;> rfl
  | list d =>
    refine turns_list ⟨fun ht => hclear _ ?_, fun ρ => ?_, fun ρ => ?_⟩
    · split
      · exact (Entry.steady_invalidateStat _).tidy ht
      · exact ht
    · cases ρ <;> rfl
    · cases ρ <;> rfl
  | null d => exact turns_null (Null.turns_finalize d w)

/-- Nothing is left of what the entry was before. -/
lemma turns_reset (path : String) (d : AnyDriver) (w : σ) :
    Turns (fun _ => some .released) d (Driver.reset path d w).1 := by
  have htidy : (entry (Driver.reset path d w).1).Tidy := by
    cases d <;> exact Entry.tidy_ofPath path
  refine ⟨fun _ => htidy, fun ρ => ?_, fun ρ => ?_⟩
  · cases d <;> cases ρ <;> rfl
  · cases d <;> cases ρ <;> rfl

end AnyDriver

/-! ### Calls -/

/-- What a call did to a resource, told from how it ended. -/
def Call.turn : Call α → α → Resource → Option Mark
  | .request r, x, ρ => r.turn x ρ
  | .finalize, _, _ | .reset _, _, _ => some .released
  | _, _, _ => none

/-- **One call** turns the flags and the handles alike. -/
lemma AnyDriver.turns_call (c : Call α) (d : AnyDriver) (w : σ) :
    Turns (c.turn (Driver.call c d w).1) d (Driver.call c d w).2.1 := by
  cases c with
  | request r => exact (honours r d w).turns
  | stat follow => exact still_stat follow d w
  | isLink => exact still_stat false d w
  | statDefault | exists? | isDir | size | mtime => exact still_stat _ d w
  | follow =>
    exact still_mapEntry d fun e => e.steady_setFollow.trans e.setFollow.steady_invalidateStat
  | finalize => exact turns_finalize d w
  | reset path => exact turns_reset path d w
  | invalidateStat => exact still_mapEntry d Entry.steady_invalidateStat
  | record op r => exact (still_refl d).observed op r w
  | recordMutation op r => exact (still_refl d).changed op r w
  | decline op b => exact (still_refl d).observed (α := Unit) op _ w
  | reject op reason => exact (still_refl d).observed (α := Unit) op _ w

/-! ### Histories -/

/-- What can happen while an entry is in use: what it does and what the world does, and that another
entry is compared with it. -/
inductive Event (σ : Type u) : Type (max u 1) where
  | act (a : Act σ)
  | compared (other : AnyDriver)

namespace Event

def apply : Event σ → AnyDriver → σ → AnyDriver × σ
  | act a, d, w => a.apply d w
  | compared other, d, w => (Driver.identical other d w).2.2

def run (events : List (Event σ)) (d : AnyDriver) (w : σ) : AnyDriver × σ :=
  events.foldl (fun s e => e.apply s.1 s.2) (d, w)

/-- What an event did to a resource. -/
def turn : Event σ → AnyDriver → σ → Resource → Option Mark
  | act (.call c), d, w, ρ => c.2.turn (Driver.call c.2 d w).1 ρ
  | _, _, _, _ => none

lemma turns_apply (e : Event σ) (d : AnyDriver) (w : σ) :
    Turns (e.turn d w) d (e.apply d w).1 := by
  cases e with
  | compared other => exact (AnyDriver.still_identical other d w).2
  | act a =>
    cases a with
    | call c => exact AnyDriver.turns_call c.2 d w
    | identical other => exact (AnyDriver.still_identical d other w).1
    | elsewhere change => exact still_refl d

end Event

/-! ### Agreement -/

lemma Path.Entry.Tidy.isSome_cachedStat? {e : Entry} (h : e.Tidy) :
    e.cachedStat?.isSome = e.flags.statOk := by
  unfold Entry.cachedStat?
  cases hok : e.flags.statOk with
  | false => rw [Bool.and_false]; rfl
  | true =>
    rw [h.cached hok]
    exact h.kept hok

/-- The flags for the record are tidy, and those for what is open say what is held. -/
structure AnyDriver.Agrees (d : AnyDriver) : Prop where
  tidy : (entry d).Tidy
  flag (ρ : Resource) : (entry d).flags.has ρ = holds d ρ

namespace AnyDriver

variable {d d' : AnyDriver}

lemma agrees_ofPath (b : Backend) (path : String) : (ofPath b path).Agrees where
  tidy := by cases b <;> exact Entry.tidy_ofPath path
  flag ρ := by cases b <;> cases ρ <;> rfl

/-- As both are turned in one way, they go on agreeing. -/
lemma Agrees.of_turns {t : Resource → Option Mark} (h : d.Agrees) (ht : Turns t d d') :
    d'.Agrees where
  tidy := ht.tidy h.tidy
  flag ρ := by rw [ht.flag, ht.held, h.flag]

lemma Agrees.isOpen_iff (h : d.Agrees) : (entry d).isOpen = true ↔ ∃ ρ, holds d ρ = true := by
  have hfile : (entry d).flags.fileOpen = holds d .file := h.flag .file
  have hdir : (entry d).flags.dirOpen = holds d .dir := h.flag .dir
  rw [Entry.isOpen, hfile, hdir, Bool.or_eq_true]
  constructor
  · rintro (hf | hd)
    · exact ⟨.file, hf⟩
    · exact ⟨.dir, hd⟩
  · rintro ⟨ρ, hρ⟩
    cases ρ with
    | file => exact .inl hρ
    | dir => exact .inr hρ

end AnyDriver

namespace Event

lemma agrees_foldl {d : AnyDriver} (h : d.Agrees) (events : List (Event σ)) (w : σ) :
    (run events d w).1.Agrees := by
  induction events generalizing d w with
  | nil => exact h
  | cons e es ih => exact ih (h.of_turns (turns_apply e d w)) _

/-- **Flags and handles agree** in every state that an entry can come to. A plain path has a flag
set exactly while it has the handle, a list while it has its enumeration, and never the flag of a
file; a good stat has a record, and only a good one is of what a link points to. So an entry is open
exactly if something is held, and its record counts exactly if the last stat was good. -/
theorem agrees_run (b : Backend) (path : String) (w : σ) (events : List (Event σ)) :
    let d := (run events (.ofPath b path) w).1
    (entry d).Tidy ∧ (∀ ρ, (entry d).flags.has ρ = holds d ρ) ∧
    ((entry d).isOpen = true ↔ ∃ ρ, holds d ρ = true) ∧
    ((entry d).cachedStat?.isSome = true ↔ (entry d).flags.statOk = true) := by
  have h := agrees_foldl (AnyDriver.agrees_ofPath b path) events w
  refine ⟨h.tidy, h.flag, h.isOpen_iff, ?_⟩
  rw [h.tidy.isSome_cachedStat?]

end Event

end TreeHaul
