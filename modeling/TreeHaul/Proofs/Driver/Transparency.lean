import Mathlib.Data.List.Basic
import TreeHaul.Driver.Call
import TreeHaul.Files.System
import TreeHaul.Proofs.Driver.Requests

/-!
The stat cache does not show. As long as nobody else changes what the system answers about the
object of an entry, a record that the entry keeps is what the system would answer now, under the
link policy that the record was made with. So a stat answers the same as one that asks the system
anew, whatever was called before it.
-/

universe u

namespace TreeHaul

open TreeHaul.Os TreeHaul.Path TreeHaul.Text HasEntry

/-! ### What a stat asks and answers -/

namespace AnyDriver

/-- What the system is asked for a stat. -/
def question : AnyDriver → Bool → Syscall Metadata
  | posix d, follow => .stat d.entry.path follow
  | list d, follow => .stat d.realPath follow
  | null d, _ => .stat d.standIn true

/-- The record that is made of an answer; a list is shown as a directory. -/
def reading : AnyDriver → Metadata → Stat
  | list _, m => (Stat.ofMetadata m).asDirectory
  | posix _, m | null _, m => Stat.ofMetadata m

variable {σ : Type u} [System σ]

/-- What a stat that asks the system answers. -/
def answer (d : AnyDriver) (follow : Bool) (w : σ) : Except PathError Stat :=
  (Driver.perform (.statUncached follow) d w).1

lemma answer_eq (d : AnyDriver) (follow : Bool) (w : σ) :
    d.answer follow w =
      ((System.call (d.question follow) w).1.mapError (.ofIo "stat" (Driver.path d))).map
        d.reading := by
  cases d <;> rfl

lemma perform_statUncached (d : AnyDriver) (follow : Bool) (w : σ) :
    Driver.perform (.statUncached follow) d w =
      (d.answer follow w, d, (System.call (d.question follow) w).2) := by
  cases d <;> rfl

/-- The object of an entry: what of an entry its stats depend on. -/
structure SameObject (d d' : AnyDriver) : Prop where
  path : Driver.path d' = Driver.path d
  question : d'.question = d.question
  reading : d'.reading = d.reading

lemma sameObject_refl (d : AnyDriver) : SameObject d d := ⟨rfl, rfl, rfl⟩

variable {d d' d'' : AnyDriver} {w v : σ}

lemma SameObject.trans (h : SameObject d d') (h' : SameObject d' d'') : SameObject d d'' :=
  ⟨h'.path.trans h.path, h'.question.trans h.question, h'.reading.trans h.reading⟩

lemma sameObject_posix {d d' : Posix} (h : d'.entry.path = d.entry.path) :
    SameObject (posix d) (posix d') where
  path := h
  question := funext fun follow => congrArg (Syscall.stat · follow) h
  reading := rfl

lemma sameObject_list {d d' : Listing} (h : d'.entry.path = d.entry.path) :
    SameObject (list d) (list d') where
  path := h
  question := funext fun follow => congrArg (fun p => Syscall.stat (Listing.untagged p) follow) h
  reading := rfl

/-- A null path has only its stand-in asked for. -/
lemma sameObject_null {d d' : Null} (h : d'.entry.path = d.entry.path) (hd : d'.asDir = d.asDir) :
    SameObject (null d) (null d') where
  path := h
  question := by
    have hs : d'.standIn = d.standIn := by rw [Null.standIn, Null.standIn, hd]
    exact funext fun _ => congrArg (Syscall.stat · true) hs
  reading := rfl

lemma backend_mapEntry (f : Entry → Entry) (d : AnyDriver) :
    backend (Driver.mapEntry f d) = backend d := by
  cases d <;> rfl

lemma sameObject_mapEntry (d : AnyDriver) {f : Entry → Entry} (hf : ∀ e, (f e).path = e.path) :
    SameObject d (Driver.mapEntry f d) := by
  cases d with
  | posix d => exact sameObject_posix (hf d.entry)
  | list d => exact sameObject_list (hf d.entry)
  | null d => exact sameObject_null (hf d.entry) rfl

lemma SameObject.answer (h : SameObject d d') (follow : Bool) (w : σ) :
    d'.answer follow w = d.answer follow w := by
  rw [answer_eq, answer_eq, h.path, h.question, h.reading]

/-- The system answers the same in both worlds, under either link policy. -/
def SameAnswers (d : AnyDriver) (v w : σ) : Prop :=
  ∀ follow, (System.call (d.question follow) v).1 = (System.call (d.question follow) w).1

instance (d : AnyDriver) (v w : σ) : Decidable (d.SameAnswers v w) :=
  decidable_of_iff _ Bool.forall_bool.symm

lemma SameAnswers.answer (h : d.SameAnswers v w) (follow : Bool) :
    d.answer follow v = d.answer follow w := by
  rw [answer_eq, answer_eq, h follow]

/-- A record that is kept is what would be answered now, under the policy it was made with. -/
def Coherent (d : AnyDriver) (w : σ) : Prop :=
  ∀ s, (entry d).cachedStat? = some s → d.answer (entry d).flags.statFollowed w = .ok s

lemma coherent_of_none (h : (entry d).cachedStat? = none) (w : σ) : d.Coherent w := by
  intro s hs
  rw [h] at hs
  cases hs

lemma Coherent.of_sameAnswers (h : d.Coherent v) (hs : d.SameAnswers v w) : d.Coherent w := by
  intro s hc
  rw [← hs.answer]
  exact h s hc

/-! ### What a call does to the record -/

/-- The record is given up, or it is that of before and of the same object. -/
def Weakens (d d' : AnyDriver) : Prop :=
  (entry d').cachedStat? = none ∨ SameObject d d' ∧ (entry d).Keeps (entry d')

lemma Weakens.trans (h : Weakens d d') (h' : Weakens d' d'') : Weakens d d'' := by
  rcases h' with h' | ⟨hs', hk'⟩
  · exact .inl h'
  rcases h with h | ⟨hs, hk⟩
  · exact .inl (hk'.record.trans h)
  · exact .inr ⟨hs.trans hs', hk.trans hk'⟩

lemma weakens_mapEntry (d : AnyDriver) {f : Entry → Entry} (hf : ∀ e : Entry, e.Keeps (f e)) :
    Weakens d (Driver.mapEntry f d) := by
  refine .inr ⟨sameObject_mapEntry d fun e => (hf e).path, ?_⟩
  rw [Request.entry_mapEntry]
  exact hf _

/-- A record that was there already is as good after the call as before it. -/
lemma Weakens.coherent (h : Weakens d d') (hc : d.Coherent w) : d'.Coherent w := by
  rcases h with h | ⟨hs, hk⟩
  · exact coherent_of_none h w
  · intro s hr
    rw [hs.answer, hk.policy]
    exact hc s (hk.record ▸ hr)

variable {α : Type}

lemma Null.asDir_perform (r : Request α) (d : Null) (w : σ) :
    (Null.perform r d w).2.1.entry.cachedStat? = none ∨
      (Null.perform r d w).2.1.asDir = d.asDir := by
  cases r with
  | mkdir _ => exact .inl rfl
  | open_ _ _ => right; rw [Null.perform, Null.openFile]; split <;> rfl
  | close => right; rw [Null.perform, Null.closeFile]; split <;> rfl
  | openDir => right; rw [Null.perform, Null.openDir]; split <;> rfl
  | closeDir => right; rw [Null.perform, Null.closeDir]; split <;> rfl
  | readDirEntry => right; rw [Null.perform, Null.readDirEntry]; split <;> rfl
  | read _ _ => right; rw [Null.perform, Null.whileOpen]; split <;> rfl
  | write _ _ => right; rw [Null.perform, Null.whileOpen]; split <;> rfl
  | statUncached _ | access _ | accessAt _ _ | remove | unlink | symlink _ | readLink _ | chown _ _
  | chmod _ | setTimes _ | canonicalPath => exact .inr rfl

lemma weakens_perform (r : Request α) (d : AnyDriver) (w : σ) :
    Weakens d (Driver.perform r d w).2.1 := by
  rcases AnyDriver.settles r d w with h | ⟨hk, -⟩
  · exact .inl h
  cases d with
  | posix d => exact .inr ⟨sameObject_posix hk.path, hk⟩
  | list d => exact .inr ⟨sameObject_list hk.path, hk⟩
  | null d =>
    rcases Null.asDir_perform r d w with h | h
    · exact .inl h
    · exact .inr ⟨sameObject_null hk.path h, hk⟩

lemma weakens_closed (r : Request α) {f : Entry → Entry} (hf : ∀ e : Entry, e.Keeps (f e))
    (d : Null) (w : σ) : Weakens (null d) (null (Driver.mapEntry f (Null.perform r d w).2.1)) := by
  have hr := weakens_perform r (null d) w
  exact hr.trans (weakens_mapEntry (null (Null.perform r d w).2.1) hf)

lemma weakens_release (d : Null) (w : σ) : Weakens (null d) (null (d.finalize w).1) := by
  have hfile (d : Null) := weakens_closed .close (fun e => e.keeps_setFileOpen false) d w
  have hdir (d : Null) (w : σ) := weakens_closed .closeDir (fun e => e.keeps_setDirOpen false) d w
  unfold Null.finalize Release.byFlags
  dsimp only
  split
  · split
    · exact (hfile d).trans (hdir _ _)
    · exact hdir d w
  · split
    · exact hfile d
    · exact .inr ⟨sameObject_refl _, d.entry.keeps_refl⟩

lemma weakens_finalize (d : AnyDriver) (w : σ) : Weakens d (Driver.finalize d w).1 := by
  have hclear (e : Entry) : e.Keeps ((e.setFileOpen false).setDirOpen false) := ⟨rfl, rfl, rfl⟩
  cases d with
  | posix d =>
    simp only [Driver.finalize, Posix.finalize]
    split
    · exact .inl rfl
    · exact .inr ⟨⟨rfl, rfl, rfl⟩, hclear d.entry⟩
  | list d =>
    simp only [Driver.finalize, Listing.finalize]
    split
    · exact .inl rfl
    · exact .inr ⟨⟨rfl, rfl, rfl⟩, hclear d.entry⟩
  | null d => exact weakens_release d w

/-- A driver after a step from world `w`: it has no record, or it has the same object and a record
that was right in `w`. -/
def Honest (d d' : AnyDriver) (w : σ) : Prop :=
  (entry d').cachedStat? = none ∨ SameObject d d' ∧ d'.Coherent w

/-- A driver after a step in world `w`: its record was given up, or kept, or made in `w`. -/
def Renews (d d' : AnyDriver) (w : σ) : Prop := Weakens d d' ∨ SameObject d d' ∧ d'.Coherent w

lemma Renews.honest (h : Renews d d' w) (hc : d.Coherent w) : Honest d d' w := by
  rcases h with h | h
  · have hc' := h.coherent hc
    rcases h with h | ⟨hs, -⟩
    · exact .inl h
    · exact .inr ⟨hs, hc'⟩
  · exact .inr h

/-- A record that is there afterwards was there before, or the system has just answered with it. -/
lemma Renews.answered (h : Renews d d' w) {s : Stat} (hs : (entry d').cachedStat? = some s) :
    (entry d).cachedStat? = some s ∨ ∃ follow, d.answer follow w = .ok s := by
  rcases h with (hn | ⟨-, hk⟩) | ⟨ho, hc⟩
  · rw [hn] at hs
    cases hs
  · exact .inl (hk.record.symm.trans hs)
  · exact .inr ⟨_, (ho.answer _ w).symm.trans (hc s hs)⟩

lemma weakens_record {β : Type} (d : AnyDriver) (op : String) (r : Except PathError β) :
    Weakens d (Driver.mapEntry (·.record op r) d) :=
  weakens_mapEntry d fun e => e.keeps_record op r

/-- What a stat that asks the system leaves. -/
lemma refresh_eq (follow : Bool) (d : AnyDriver) (w : σ) :
    Driver.refresh follow d w =
      let keep (e : Entry) : Entry :=
        match d.answer follow w with
        | .ok s => e.cacheStat s follow
        | .error _ => e.statFailed
      Driver.observed "stat" (d.answer follow w) (Driver.mapEntry keep d)
        (System.call (d.question follow) w).2 := by
  cases d <;> rfl

lemma renews_refresh (follow : Bool) (d : AnyDriver) (w : σ) :
    Renews d (Driver.refresh follow d w).2.1 w := by
  rw [refresh_eq]
  unfold Renews Driver.observed
  dsimp only
  cases ha : d.answer follow w with
  | error err =>
    refine .inl (.inl ?_)
    rw [Request.entry_mapEntry, Request.entry_mapEntry]
    rfl
  | ok s =>
    have hs := (sameObject_mapEntry d (f := fun e => e.cacheStat s follow) fun _ => rfl).trans
      (sameObject_mapEntry _ (f := fun e => e.record "stat" (.ok s)) fun _ => rfl)
    refine .inr ⟨hs, fun s' hr => ?_⟩
    rw [hs.answer]
    rw [Request.entry_mapEntry, Request.entry_mapEntry] at hr ⊢
    exact ha.trans (congrArg Except.ok (Option.some.inj hr))

/-- A stat answers from the record only if that was made under the policy asked for. -/
lemma stat_cases (follow : Bool) (d : AnyDriver) (w : σ) :
    (∃ s, (entry d).cachedStat? = some s ∧ (entry d).flags.statFollowed = follow ∧
      Driver.stat follow d w = Driver.observed "stat" (.ok s) d w) ∨
    Driver.stat follow d w = Driver.refresh follow d w := by
  unfold Driver.stat
  split
  · rename_i s hs
    split
    · rename_i hf
      exact .inl ⟨s, hs, hf, rfl⟩
    · exact .inr rfl
  · exact .inr rfl

lemma renews_stat (follow : Bool) (d : AnyDriver) (w : σ) :
    Renews d (Driver.stat follow d w).2.1 w := by
  rcases stat_cases follow d w with ⟨s, -, -, h⟩ | h
  · rw [h]
    exact .inl (weakens_record d "stat" (.ok s))
  · rw [h]
    exact renews_refresh follow d w

/-- **One call** keeps the record, or gives it up, or asks the system for another one. -/
lemma renews_call {β : Type} (c : Call β) (d : AnyDriver) (w : σ) :
    Renews d (Driver.call c d w).2.1 w := by
  cases c with
  | request r => exact .inl (weakens_perform r d w)
  | stat follow => exact renews_stat follow d w
  | isLink => exact renews_stat false d w
  | statDefault | exists? | isDir | size | mtime => exact renews_stat _ d w
  | finalize => exact .inl (weakens_finalize d w)
  | record op r => exact .inl (weakens_record d op r)
  | decline op b => exact .inl (weakens_record d op (β := Unit) (.error (.unsupported op b)))
  | reject op reason =>
    exact .inl (weakens_record d op (β := Unit) (.error ((entry d).rejected op reason)))
  | follow =>
    have hentry := Request.entry_mapEntry (fun e => e.setFollow.invalidateStat) d
    exact .inl (.inl (congrArg Entry.cachedStat? hentry))
  | invalidateStat =>
    have hentry := Request.entry_mapEntry Entry.invalidateStat d
    exact .inl (.inl (congrArg Entry.cachedStat? hentry))
  | reset path => cases d <;> exact .inl (.inl rfl)
  | recordMutation op r =>
    have hentry := Request.entry_mapEntry (·.recordMutation op r) d
    rcases (entry d).recordMutation_cases op r with h | ⟨-, hk⟩
    · exact .inl (.inl ((congrArg Entry.cachedStat? hentry).trans h))
    · have hs := sameObject_mapEntry d (f := (·.recordMutation op r)) fun e => by cases r <;> rfl
      exact .inl (.inr ⟨hs, hentry ▸ hk⟩)

/-! ### Comparisons -/

/-- What the system answers about the object of an entry under the entry's own link policy. -/
def fresh (d : AnyDriver) (w : σ) : Except PathError Stat := d.answer (entry d).flags.follow w

/-- The world after the system was asked for that. -/
def asked (d : AnyDriver) (w : σ) : σ := (System.call (d.question (entry d).flags.follow) w).2

/-- An entry that gave its record up and was asked anew. -/
def renewed (d : AnyDriver) (w : σ) : AnyDriver :=
  let keep (e : Entry) : Entry :=
    match d.fresh w with
    | .ok s => e.cacheStat s e.flags.follow
    | .error _ => e.statFailed
  Driver.mapEntry (fun e => (keep e).record "stat" (d.fresh w)) d

lemma statDefault_invalidateStat (d : AnyDriver) (w : σ) :
    Driver.statDefault (Driver.mapEntry Entry.invalidateStat d) w =
      (d.fresh w, d.renewed w, d.asked w) := by
  have hrefresh : Driver.statDefault (Driver.mapEntry Entry.invalidateStat d) w =
      Driver.refresh (entry d).flags.follow (Driver.mapEntry Entry.invalidateStat d) w := by
    cases d <;> rfl
  have hsame : SameObject d (Driver.mapEntry Entry.invalidateStat d) :=
    sameObject_mapEntry d fun _ => rfl
  rw [hrefresh, refresh_eq, hsame.answer, hsame.question]
  unfold renewed fresh asked
  cases d.answer (entry d).flags.follow w <;> cases d <;> rfl

lemma renewed_eq (d : AnyDriver) (w : σ) :
    d.renewed w = (Driver.statDefault (Driver.mapEntry Entry.invalidateStat d) w).2.1 := by
  rw [statDefault_invalidateStat]

/-- What a comparison answers and leaves. -/
lemma identical_eq (a b : AnyDriver) (w : σ) :
    Driver.identical a b w =
      if backend a ≠ backend b then (.ok false, a, b, w)
      else
        match a.fresh w with
        | .error e =>
          (.error e, a.renewed w, Driver.mapEntry Entry.invalidateStat b, a.asked w)
        | .ok s =>
          ((b.fresh (a.asked w)).map s.sameObject, a.renewed w, b.renewed (a.asked w),
            b.asked (a.asked w)) := by
  unfold Driver.identical
  split
  · rfl
  · dsimp only
    rw [statDefault_invalidateStat]
    cases a.fresh w with
    | error e => rfl
    | ok s =>
      dsimp only
      rw [statDefault_invalidateStat]
      cases b.fresh (a.asked w) <;> rfl

/-- What relates an entry to itself, to itself without its record and to itself asked anew relates
both entries of a comparison to what it leaves of them. -/
lemma identical_induction {R : AnyDriver → AnyDriver → Prop} (hrefl : ∀ d, R d d)
    (hgive : ∀ d, R d (Driver.mapEntry Entry.invalidateStat d))
    (hask : ∀ d (w : σ), R d (d.renewed w)) (a b : AnyDriver) (w : σ) :
    R a (Driver.identical a b w).2.1 ∧ R b (Driver.identical a b w).2.2.1 := by
  rw [identical_eq]
  split
  · exact ⟨hrefl a, hrefl b⟩
  · split
    · exact ⟨hask a w, hgive b⟩
    · exact ⟨hask a w, hask b _⟩

lemma renews_renewed (d : AnyDriver) (w : σ) : Renews d (d.renewed w) w := by
  have hgone : (entry (Driver.mapEntry Entry.invalidateStat d)).cachedStat? = none :=
    congrArg Entry.cachedStat? (Request.entry_mapEntry Entry.invalidateStat d)
  have hsame : SameObject d (Driver.mapEntry Entry.invalidateStat d) :=
    sameObject_mapEntry d fun _ => rfl
  rw [renewed_eq]
  rcases renews_stat _ (Driver.mapEntry Entry.invalidateStat d) w with (h | ⟨-, hk⟩) | ⟨hs, h⟩
  · exact .inl (.inl h)
  · exact .inl (.inl (hk.record.trans hgone))
  · exact .inr ⟨hsame.trans hs, h⟩

/-- The first of two entries that are compared gave its record up before it was asked. -/
lemma renews_identical (other d : AnyDriver) (w : σ) :
    Renews d (Driver.identical d other w).2.1 w := by
  rw [identical_eq]
  split
  · exact .inl (.inr ⟨sameObject_refl d, (entry d).keeps_refl⟩)
  · split <;> exact renews_renewed d w

end AnyDriver

/-! ### Histories -/

/-- What can happen while an entry is in use. The entry may be called, in particular to be compared
with another one; and the world may change, as when another entry is called. -/
inductive Act (σ : Type u) : Type (max u 1) where
  | call (c : Sigma Call)
  | identical (other : AnyDriver)
  | elsewhere (change : σ → σ)

namespace Act

variable {σ : Type u} [System σ]

def apply : Act σ → AnyDriver → σ → AnyDriver × σ
  | call c, d, w => (Driver.call c.2 d w).2
  | identical other, d, w =>
    let (_, d, _, w) := Driver.identical d other w
    (d, w)
  | elsewhere change, d, w => (d, change w)

def run (acts : List (Act σ)) (d : AnyDriver) (w : σ) : AnyDriver × σ :=
  acts.foldl (fun s a => a.apply s.1 s.2) (d, w)

/-- A request that may change the object and succeeds. -/
def mutates : Act σ → AnyDriver → σ → Bool
  | call ⟨_, .request r⟩, d, w => r.mutates && r.succeeded (Driver.perform r d w).1
  | _, _, _ => false

/-- What the system answers about the object of the entry changes only through what the entry
itself was asked to change, and succeeded in. -/
def Undisturbed : List (Act σ) → AnyDriver → σ → Prop
  | [], _, _ => True
  | a :: acts, d, w =>
    (a.mutates d w = false → d.SameAnswers w (a.apply d w).2) ∧
      Undisturbed acts (a.apply d w).1 (a.apply d w).2

instance decidableUndisturbed : (acts : List (Act σ)) → (d : AnyDriver) → (w : σ) →
    Decidable (Undisturbed acts d w)
  | [], _, _ => .isTrue trivial
  | a :: acts, d, w =>
    have := decidableUndisturbed acts (a.apply d w).1 (a.apply d w).2
    inferInstanceAs (Decidable
      ((a.mutates d w = false → d.SameAnswers w (a.apply d w).2) ∧
        Undisturbed acts (a.apply d w).1 (a.apply d w).2))

variable {d : AnyDriver} {w : σ}

/-- **One step** keeps the record, or gives it up, or asks the system for another one. -/
lemma renews_apply (a : Act σ) (d : AnyDriver) (w : σ) : d.Renews (a.apply d w).1 w := by
  cases a with
  | call c => exact AnyDriver.renews_call c.2 d w
  | identical other => exact AnyDriver.renews_identical other d w
  | elsewhere change => exact .inl (.inr ⟨AnyDriver.sameObject_refl d, (entry d).keeps_refl⟩)

/-- A success in changing something gives the record up, or it changed nothing. -/
lemma dropped_of_mutates {a : Act σ} (h : a.mutates d w = true) :
    (entry (a.apply d w).1).cachedStat? = none ∨ (a.apply d w).2 = w := by
  cases a with
  | identical _ | elsewhere _ => cases h
  | call c =>
    obtain ⟨β, c⟩ := c
    cases c with
    | request r =>
      obtain ⟨hm, hok⟩ := Bool.and_eq_true_iff.mp h
      rcases AnyDriver.settles r d w with hn | ⟨-, hw⟩
      · exact .inl hn
      · exact .inr (hw hm (Request.isOk_of_succeeded hok))
    | _ => cases h

/-- **One step**: the record is right after it if it was right before. -/
lemma coherent_apply {a : Act σ} (hc : d.Coherent w)
    (ha : a.mutates d w = false → d.SameAnswers w (a.apply d w).2) :
    (a.apply d w).1.Coherent (a.apply d w).2 := by
  rcases (renews_apply a d w).honest hc with hn | ⟨hs, h⟩
  · exact AnyDriver.coherent_of_none hn _
  cases hm : a.mutates d w with
  | true =>
    rcases dropped_of_mutates hm with hn | hw
    · exact AnyDriver.coherent_of_none hn _
    · rwa [hw]
  | false =>
    refine h.of_sameAnswers fun follow => ?_
    rw [hs.question]
    exact ha hm follow

lemma coherent_run {acts : List (Act σ)} (hc : d.Coherent w) (ha : Undisturbed acts d w) :
    (run acts d w).1.Coherent (run acts d w).2 := by
  induction acts generalizing d w with
  | nil => exact hc
  | cons a acts ih => exact ih (coherent_apply hc ha.1) ha.2

/-- An entry that another one is compared with gives its record up, and is asked by itself after the
other one has answered. -/
lemma run_compared (other d : AnyDriver) (w : σ) :
    let ask (v : σ) : σ := (Driver.statDefault (Driver.mapEntry Entry.invalidateStat other) v).2.2
    ∃ acts ∈ [[], [call ⟨_, .invalidateStat⟩, elsewhere ask],
        [call ⟨_, .invalidateStat⟩, elsewhere ask, call ⟨_, .statDefault⟩]],
      run acts d w = (Driver.identical other d w).2.2 := by
  intro ask
  have hask (v : σ) : ask v = other.asked v :=
    congrArg (·.2.2) (AnyDriver.statDefault_invalidateStat other v)
  rw [AnyDriver.identical_eq]
  split
  · exact ⟨[], List.mem_cons_self, rfl⟩
  split
  · refine ⟨_, List.mem_cons_of_mem _ List.mem_cons_self, ?_⟩
    exact congrArg (Prod.mk _) (hask w)
  · refine ⟨_, List.mem_cons_of_mem _ (List.mem_cons_of_mem _ List.mem_cons_self), ?_⟩
    have hrun : run [call ⟨_, .invalidateStat⟩, elsewhere ask, call ⟨_, .statDefault⟩] d w =
        (Driver.statDefault (Driver.mapEntry Entry.invalidateStat d) (ask w)).2 := rfl
    rw [hrun, hask, AnyDriver.statDefault_invalidateStat]

/-- **The stat cache does not show.** After any history in which nobody else changes what the
system answers about the object of an entry, a stat under either link policy answers what one
answers that asks the system anew. It answers without asking only from a record that was made under
that policy, so a failure is always one of the system now. -/
theorem stat_eq_statUncached (b : Backend) (path : String) (w : σ) (acts : List (Act σ))
    (h : Undisturbed acts (.ofPath b path) w) (follow : Bool) :
    let d := (run acts (.ofPath b path) w).1
    let v := (run acts (.ofPath b path) w).2
    (Driver.stat follow d v).1 = (Driver.perform (.statUncached follow) d v).1 ∧
    ((∃ s, (Driver.stat follow d v).1 = .ok s ∧ (entry d).cachedStat? = some s ∧
        (entry d).flags.statFollowed = follow) ∨
      (Driver.stat follow d v).2.2 = (Driver.perform (.statUncached follow) d v).2.2) := by
  have hstart : (AnyDriver.ofPath b path).Coherent w :=
    AnyDriver.coherent_of_none (by cases b <;> rfl) w
  have hc := coherent_run hstart h
  intro d v
  rcases AnyDriver.stat_cases follow d v with ⟨s, hs, hf, hstat⟩ | hstat
  · have hanswer := hc s hs
    rw [hf] at hanswer
    rw [hstat]
    exact ⟨hanswer.symm, .inl ⟨s, rfl, hs, hf⟩⟩
  · rw [hstat, AnyDriver.refresh_eq]
    refine ⟨rfl, .inr ?_⟩
    rw [AnyDriver.perform_statUncached]
    rfl

/-- A record is made of a directory, then its mode is set, and it is asked for again. -/
theorem stat_after_chmod :
    let w := Files.fresh ⟨5, 0⟩ []
    let acts : List (Act Files) := [call ⟨_, .stat false⟩, call ⟨_, .request (.chmod 0o700)⟩,
      call ⟨_, .follow⟩, call ⟨_, .isDir⟩]
    let s := run acts (.ofPath .posix "/dev") w
    Undisturbed acts (.ofPath .posix "/dev") w ∧
    (Driver.stat true s.1 s.2).1 = (Driver.perform (.statUncached true) s.1 s.2).1 ∧
    (Driver.stat true s.1 s.2).1.map Stat.perm = .ok 0o700 := by
  intro w acts s
  have h : Undisturbed acts (.ofPath .posix "/dev") w := by decide +kernel
  obtain ⟨hstat, -⟩ := stat_eq_statUncached .posix "/dev" w acts h true
  have hperm : (Driver.stat true s.1 s.2).1.map Stat.perm = .ok 0o700 := by decide +kernel
  -- the state is not to be computed again
  have hs : run acts (.ofPath .posix "/dev") w = s := rfl
  rw [hs] at hstat
  clear_value s
  exact ⟨h, hstat, hperm⟩

end Act

end TreeHaul
