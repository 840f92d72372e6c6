import TreeHaul.Proofs.Factory.Release

/-!
What a path of the null tree is. It is asked about through the cache of its record, while what it is
stands in the driver: a call that changes the one gives the other up, and every record is made of
the answer for the stand-in of the moment.
-/

universe u

namespace TreeHaul

open TreeHaul.Os TreeHaul.Path TreeHaul.Text HasEntry

variable {σ : Type u} [System σ] {α : Type}

/-! ### The stand-ins -/

/-- The system stats both stand-ins, the one as a directory and the other not. -/
def StandsIn (w : σ) : Prop :=
  (System.call (.stat "/dev" true) w).1.map (FileKind.ofMode ·.mode == .directory) = .ok true ∧
    (System.call (.stat Backend.nullDevice true) w).1.map (FileKind.ofMode ·.mode == .directory) =
      .ok false

instance (w : σ) : Decidable (StandsIn w) := inferInstanceAs (Decidable (_ ∧ _))

namespace Null

lemma standIn_inj {n n' : Null} (h : n'.standIn = n.standIn) : n'.asDir = n.asDir := by
  have hne : Backend.nullDevice ≠ "/dev" := by decide
  unfold standIn at h
  cases hd : n.asDir <;> cases hd' : n'.asDir <;> rw [hd, hd'] at h
  · exact absurd h.symm hne
  · exact absurd h hne

end Null

lemma StandsIn.call {w : σ} (h : StandsIn w) (n : Null) :
    (System.call (.stat n.standIn true) w).1.map (FileKind.ofMode ·.mode == .directory) =
      .ok n.asDir := by
  unfold Null.standIn
  cases n.asDir with
  | true => exact h.1
  | false => exact h.2

/-! ### What a null path is called -/

/-- What a null path is called, and whether it was made a directory since it is called that. -/
structure Naming where
  path : String
  made : Bool
  deriving DecidableEq, Repr

namespace Naming

def isDir (t : Naming) : Bool := Null.endsWithSlash t.path || t.made

lemma isDir_iff (t : Naming) :
    t.isDir = true ↔ t.path.toList.getLast? = some '/' ∨ t.made = true := by
  rw [isDir, Bool.or_eq_true, Null.endsWithSlash, beq_iff_eq]

end Naming

/-- What a request makes of it. -/
def Request.note : Request α → Naming → Naming
  | .mkdir _, t => { t with made := true }
  | _, t => t

/-- What a call makes of it. -/
def Call.note : Call α → Naming → Naming
  | .request r, t => r.note t
  | .reset path, _ => ⟨path, false⟩
  | _, t => t

/-- It is a null path that is called this, and is a directory if it should be. -/
def Null.Bears (n : Null) (t : Naming) : Prop := n.entry.path = t.path ∧ n.asDir = t.isDir

lemma Null.bears_perform {n : Null} {t : Naming} (h : n.Bears t) (r : Request α) (w : σ) :
    (Null.perform r n w).2.1.Bears (r.note t) := by
  cases r with
  | mkdir _ => exact ⟨h.1, (Bool.or_true _).symm⟩
  | open_ _ _ => rw [perform, openFile]; split <;> exact h
  | close => rw [perform, closeFile]; split <;> exact h
  | openDir => rw [perform, openDir]; split <;> exact h
  | closeDir => rw [perform, closeDir]; split <;> exact h
  | readDirEntry => rw [perform, readDirEntry]; split <;> exact h
  | read _ _ => rw [perform, whileOpen]; split <;> exact h
  | write _ _ => rw [perform, whileOpen]; split <;> exact h
  | statUncached _ | access _ | accessAt _ _ | remove | unlink | symlink _ | readLink _ | chown _ _
  | chmod _ | setTimes _ | canonicalPath => exact h

namespace AnyDriver

def Bears (d : AnyDriver) (t : Naming) : Prop := ∃ n, d = null n ∧ n.Bears t

variable {d d' : AnyDriver} {t t' : Naming} {w : σ}

omit [System σ] in
lemma Bears.mapEntry (h : d.Bears t) (f : Entry → Entry) (hf : ∀ e, (f e).path = e.path) :
    (Driver.mapEntry f d).Bears t := by
  obtain ⟨n, rfl, hpath, hdir⟩ := h
  exact ⟨_, rfl, (hf n.entry).trans hpath, hdir⟩

omit [System σ] in
lemma Bears.observed (h : d.Bears t) (op : String) (x : Except PathError α) (w : σ) :
    (Driver.observed op x d w).2.1.Bears t :=
  h.mapEntry (·.record op x) fun _ => rfl

lemma Bears.stat (h : d.Bears t) (follow : Bool) (w : σ) :
    (Driver.stat follow d w).2.1.Bears t := by
  rcases stat_cases follow d w with ⟨s, -, -, hs⟩ | hs
  · rw [hs]
    exact h.observed ..
  · rw [hs, refresh_eq]
    refine (h.mapEntry _ fun e => ?_).observed ..
    cases d.answer follow w <;> rfl

lemma Bears.call (h : d.Bears t) (c : Call α) (w : σ) :
    (Driver.call c d w).2.1.Bears (c.note t) := by
  cases c with
  | request r =>
    obtain ⟨n, rfl, hn⟩ := h
    exact ⟨_, rfl, Null.bears_perform hn r w⟩
  | reset path =>
    obtain ⟨n, rfl, -⟩ := h
    exact ⟨_, congrArg null (Null.reset_fst path n w), rfl, (Bool.or_false _).symm⟩
  | finalize =>
    obtain ⟨n, rfl, hpath, hdir⟩ := h
    exact ⟨_, rfl, (path_follow_finalize (null n) w).1.trans hpath,
      (n.asDir_finalize w).trans hdir⟩
  | stat follow => exact h.stat follow w
  | isLink => exact h.stat false w
  | statDefault | exists? | isDir | size | mtime => exact h.stat _ w
  | record op r => exact h.observed op r w
  | decline op b => exact h.observed (α := Unit) op _ w
  | reject op reason => exact h.observed (α := Unit) op _ w
  | recordMutation op r => exact h.mapEntry (·.recordMutation op r) fun e => by cases r <;> rfl
  | follow => exact h.mapEntry (fun e => e.setFollow.invalidateStat) fun _ => rfl
  | invalidateStat => exact h.mapEntry Entry.invalidateStat fun _ => rfl

lemma Bears.identical (h : d.Bears t) (other : AnyDriver) (w : σ) :
    (Driver.identical d other w).2.1.Bears t ∧ (Driver.identical other d w).2.2.1.Bears t := by
  have hgive (d : AnyDriver) (hd : d.Bears t) : (Driver.mapEntry Entry.invalidateStat d).Bears t :=
    hd.mapEntry Entry.invalidateStat fun _ => rfl
  have hask (d : AnyDriver) (v : σ) (hd : d.Bears t) : (d.renewed v).Bears t := by
    rw [renewed_eq]
    exact (hgive d hd).stat _ v
  have hboth := identical_induction (R := fun d d' => d.Bears t → d'.Bears t) (fun _ => id) hgive
    hask
  exact ⟨(hboth d other w).1 h, (hboth other d w).2 h⟩

/-! ### The record -/

/-- A record that is kept shows what the null path is. -/
structure Poses (d : AnyDriver) (t : Naming) : Prop where
  bears : d.Bears t
  shows (s : Stat) : (entry d).cachedStat? = some s → s.isDir = t.isDir

lemma Bears.answer (h : d.Bears t) (hw : StandsIn w) (follow : Bool) :
    ∃ s, d.answer follow w = .ok s ∧ s.isDir = t.isDir := by
  obtain ⟨n, rfl, -, hdir⟩ := h
  have hcall := hw.call n
  rw [answer_eq]
  change ∃ s, ((System.call (.stat n.standIn true) w).1.mapError _).map Stat.ofMetadata = _ ∧ _
  cases hm : (System.call (.stat n.standIn true) w).1 with
  | error e =>
    rw [hm] at hcall
    cases hcall
  | ok m =>
    rw [hm] at hcall
    exact ⟨.ofMetadata m, rfl, (Except.ok.inj hcall).trans hdir⟩

lemma Bears.isDir_eq (h : d.Bears t) (h' : d'.Bears t') (hs : SameObject d d') :
    t'.isDir = t.isDir := by
  obtain ⟨n, rfl, -, hdir⟩ := h
  obtain ⟨n', rfl, -, hdir'⟩ := h'
  have hstand : Syscall.stat n'.standIn true = .stat n.standIn true := congrFun hs.question true
  rw [← hdir, ← hdir']
  exact Null.standIn_inj (Syscall.stat.inj hstand).1

/-- **One step**: the record was given up, or the null path is still what it was, or the record was
made just now. -/
lemma Poses.step (h : d.Poses t) (hb : d'.Bears t') (hr : d.Renews d' w) (hw : StandsIn w) :
    d'.Poses t' := by
  refine ⟨hb, fun s hs => ?_⟩
  -- to be made a directory or reset gives the record up, so a kept one is of the same stand-in
  rcases hr with (hn | ⟨hsame, hk⟩) | ⟨-, hc⟩
  · rw [hn] at hs
    cases hs
  · rw [h.bears.isDir_eq hb hsame]
    exact h.shows s (hk.record.symm.trans hs)
  · obtain ⟨s', hs', hdir⟩ := hb.answer hw (entry d').flags.statFollowed
    have heq : s' = s := Except.ok.inj (hs'.symm.trans (hc s hs))
    rwa [← heq]

lemma Poses.stat (h : d.Poses t) (hw : StandsIn w) (follow : Bool) :
    ∃ s, (Driver.stat follow d w).1 = .ok s ∧ s.isDir = t.isDir := by
  rcases stat_cases follow d w with ⟨s, hs, -, hstat⟩ | hstat
  · rw [hstat]
    exact ⟨s, rfl, h.shows s hs⟩
  · rw [hstat, refresh_eq]
    exact h.bears.answer hw follow

lemma Poses.queries (h : d.Poses t) (hw : StandsIn w) :
    (Driver.isDir d w).1 = t.isDir ∧ (Driver.exists? d w).1 = true := by
  obtain ⟨s, hs, hdir⟩ := h.stat hw (entry d).flags.follow
  unfold Driver.isDir Driver.exists? Driver.statDefault
  rcases hstat : Driver.stat (entry d).flags.follow d w with ⟨r, d', v⟩
  rw [hstat] at hs
  obtain rfl : r = .ok s := hs
  exact ⟨hdir, rfl⟩

end AnyDriver

/-! ### Histories -/

namespace Event

/-- The world in which the entry itself is asked: another one that is compared with it is asked
first. -/
def heard : Event σ → σ → σ
  | compared other, w => other.asked w
  | act _, w => w

/-- The worlds in which the entry may be asked are like this, and so is the last one. -/
def Throughout (P : σ → Prop) : List (Event σ) → AnyDriver → σ → Prop
  | [], _, w => P w
  | e :: es, d, w => P (e.heard w) ∧ Throughout P es (e.apply d w).1 (e.apply d w).2

instance decidableThroughout (P : σ → Prop) [DecidablePred P] :
    (events : List (Event σ)) → (d : AnyDriver) → (w : σ) → Decidable (Throughout P events d w)
  | [], _, w => inferInstanceAs (Decidable (P w))
  | e :: es, d, w =>
    have := decidableThroughout P es (e.apply d w).1 (e.apply d w).2
    inferInstanceAs (Decidable
      (P (e.heard w) ∧ Throughout P es (e.apply d w).1 (e.apply d w).2))

/-- What an event makes of what a null path is called. -/
def note : Event σ → Naming → Naming
  | act (.call c), t => c.2.note t
  | _, t => t

lemma bears_apply {d : AnyDriver} {t : Naming} (h : d.Bears t) (e : Event σ) (w : σ) :
    (e.apply d w).1.Bears (e.note t) := by
  cases e with
  | compared other => exact (h.identical other w).2
  | act a =>
    cases a with
    | call c => exact h.call c.2 w
    | identical other => exact (h.identical other w).1
    | elsewhere change => exact h

lemma renews_apply (e : Event σ) (d : AnyDriver) (w : σ) :
    d.Renews (e.apply d w).1 (e.heard w) := by
  cases e with
  | act a => exact Act.renews_apply a d w
  | compared other =>
    have hrefl : d.Renews d (other.asked w) :=
      .inl (.inr ⟨AnyDriver.sameObject_refl d, (entry d).keeps_refl⟩)
    change d.Renews (Driver.identical other d w).2.2.1 _
    rw [AnyDriver.identical_eq]
    split
    · exact hrefl
    · split
      · exact .inl (.inl (congrArg Entry.cachedStat?
          (Request.entry_mapEntry Entry.invalidateStat d)))
      · exact AnyDriver.renews_renewed d _

lemma poses_run {d : AnyDriver} {t : Naming} {w : σ} (h : d.Poses t) {events : List (Event σ)}
    (hw : Throughout StandsIn events d w) :
    (run events d w).1.Poses (events.foldl (fun t e => e.note t) t) ∧
      StandsIn (run events d w).2 := by
  induction events generalizing d t w with
  | nil => exact ⟨h, hw⟩
  | cons e es ih => exact ih (h.step (bears_apply h.bears e w) (renews_apply e d w) hw.1) hw.2

/-- **A null path is a directory exactly when it should be.** As long as the system stats the two
stand-ins as what they are, a null path always exists, and it is a directory if the path that it has
now ends with a slash or if it was made one since it has that path. That holds after every history,
whatever record is there, and a stat under either link policy shows the same. -/
theorem isDir_null_iff (path : String) (w : σ) (events : List (Event σ))
    (hw : Throughout StandsIn events (.ofPath .null path) w) :
    let d := (run events (.ofPath .null path) w).1
    let v := (run events (.ofPath .null path) w).2
    let t := events.foldl (fun t e => e.note t) (⟨path, false⟩ : Naming)
    backend d = .null ∧ Driver.path d = t.path ∧
    ((Driver.isDir d v).1 = true ↔ t.path.toList.getLast? = some '/' ∨ t.made = true) ∧
    (Driver.exists? d v).1 = true ∧
    ∀ follow, ∃ s, (Driver.stat follow d v).1 = .ok s ∧ s.isDir = (Driver.isDir d v).1 := by
  intro d v t
  have hstart : (AnyDriver.ofPath .null path).Poses ⟨path, false⟩ :=
    ⟨⟨.ofPath path, rfl, rfl, (Bool.or_false _).symm⟩, nofun⟩
  obtain ⟨hposes, hv⟩ : d.Poses t ∧ StandsIn v := poses_run hstart hw
  obtain ⟨hdir, hexists⟩ := hposes.queries hv
  obtain ⟨n, hn, hpath, -⟩ := hposes.bears
  refine ⟨by rw [hn]; rfl, by rw [hn]; exact hpath, ?_, hexists, fun follow => ?_⟩
  · rw [hdir, Naming.isDir_iff]
  · rw [hdir]
    exact hposes.stat hv follow

/-- A null path has a record as what it is, is made a directory and unlinked, and is compared; then
it gets a path with a slash at its end, and at last its first one again. -/
theorem isDir_null_reset :
    let w := Files.fresh ⟨5, 0⟩ []
    let made : List (Event Files) := [.act (.call ⟨_, .isDir⟩),
      .act (.call ⟨_, .request (.mkdir 0o755)⟩), .act (.call ⟨_, .stat false⟩),
      .act (.call ⟨_, .request .unlink⟩), .compared (.ofPath .null "/dev/null/a"),
      .act (.call ⟨_, .finalize⟩)]
    let slash := made ++ [.act (.call ⟨_, .reset "/dev/null/"⟩), .act (.call ⟨_, .follow⟩)]
    let again := slash ++ [.act (.call ⟨_, .isLink⟩), .act (.call ⟨_, .reset "/dev/null"⟩)]
    let isDir (events : List (Event Files)) :=
      (Driver.isDir (run events (.ofPath .null "/dev/null") w).1
        (run events (.ofPath .null "/dev/null") w).2).1
    Throughout StandsIn again (.ofPath .null "/dev/null") w ∧
      isDir made = true ∧ isDir slash = true ∧ isDir again = false := by
  intro w made slash again isDir
  have hmade : Throughout StandsIn made (.ofPath .null "/dev/null") w := by decide +kernel
  have hslash : Throughout StandsIn slash (.ofPath .null "/dev/null") w := by decide +kernel
  have hagain : Throughout StandsIn again (.ofPath .null "/dev/null") w := by decide +kernel
  obtain ⟨-, -, hdir, -⟩ := isDir_null_iff "/dev/null" w made hmade
  obtain ⟨-, -, hdir', -⟩ := isDir_null_iff "/dev/null" w slash hslash
  obtain ⟨-, -, hdir'', -⟩ := isDir_null_iff "/dev/null" w again hagain
  refine ⟨hagain, hdir.mpr (.inr rfl), hdir'.mpr (.inl (by decide)), ?_⟩
  exact Bool.eq_false_iff.mpr fun h => absurd (hdir''.mp h) (by decide +kernel)

end Event

end TreeHaul
