import TreeHaul.Proofs.Driver.Reports
import TreeHaul.Proofs.Driver.Transparency

/-!
What a comparison of two entries says. Both are asked anew, so the answer is that of the system and
of nothing that either entry keeps, and it is the same the other way round. Of its own outcome a
comparison notes nothing: the status is that of the stat of the first entry, or the one from before
if none was made.
-/

universe u

namespace TreeHaul

open TreeHaul.Os TreeHaul.Path HasEntry

/-- No stat changes what a stat is answered. -/
def StatsFixed {σ : Type u} [System σ] (w : σ) : Prop :=
  ∀ (p q : String) (f g : Bool),
    (System.call (.stat q g) (System.call (.stat p f) w).2).1 = (System.call (.stat q g) w).1

lemma Files.statsFixed (fs : Files) : StatsFixed fs := by
  intro p q f g
  have hkept : (System.call (.stat p f) fs).2 = fs := by
    change (withPath p .nulInPath (fun p => asks (fs.statPath p f) fs) fs).2 = fs
    unfold withPath asks
    split <;> rfl
  rw [hkept]

lemma Path.Stat.sameObject_comm (s t : Stat) : s.sameObject t = t.sameObject s := by
  rw [sameObject, sameObject, BEq.comm, BEq.comm (a := s.ino)]

namespace AnyDriver

variable {σ : Type u} [System σ] {d d' a a' b b' : AnyDriver} {v w : σ}

/-! ### What an entry is asked for -/

/-- The entries ask the system for the same, whatever they keep. -/
structure SameTarget (d d' : AnyDriver) : Prop where
  backend : HasEntry.backend d' = HasEntry.backend d
  path : Driver.path d' = Driver.path d
  follow : (entry d').flags.follow = (entry d).flags.follow
  asDir : ∀ n n' : Null, d = .null n → d' = .null n' → n'.asDir = n.asDir

lemma SameTarget.sameObject (h : SameTarget d d') : SameObject d d' := by
  cases d with
  | posix d =>
    cases d' with
    | posix d' => exact sameObject_posix h.path
    | list _ | null _ => cases h.backend
  | list d =>
    cases d' with
    | list d' => exact sameObject_list h.path
    | posix _ | null _ => cases h.backend
  | null d =>
    cases d' with
    | null d' => exact sameObject_null h.path (h.asDir d d' rfl rfl)
    | posix _ | list _ => cases h.backend

lemma SameTarget.fresh (h : SameTarget d d') (w : σ) : d'.fresh w = d.fresh w := by
  unfold AnyDriver.fresh
  rw [h.follow, h.sameObject.answer]

lemma SameTarget.asked (h : SameTarget d d') (w : σ) : d'.asked w = d.asked w := by
  unfold AnyDriver.asked
  rw [h.follow, h.sameObject.question]

lemma sameTarget_mapEntry (d : AnyDriver) {f : Entry → Entry}
    (hf : ∀ e, (f e).path = e.path ∧ (f e).flags.follow = e.flags.follow) :
    SameTarget d (Driver.mapEntry f d) where
  backend := backend_mapEntry f d
  path := (congrArg Entry.path (Request.entry_mapEntry f d)).trans (hf _).1
  follow := (congrArg (·.flags.follow) (Request.entry_mapEntry f d)).trans (hf _).2
  asDir n n' hd hd' := by
    subst hd
    cases hd'
    rfl

lemma exists_question (d : AnyDriver) (follow : Bool) :
    ∃ (p : String) (f : Bool), d.question follow = .stat p f := by
  cases d with
  | posix d => exact ⟨d.entry.path, follow, rfl⟩
  | list d => exact ⟨d.realPath, follow, rfl⟩
  | null d => exact ⟨d.standIn, true, rfl⟩

/-- To ask for one entry first makes no difference to the other. -/
lemma fresh_asked (hw : StatsFixed w) (d d' : AnyDriver) : d'.fresh (d.asked w) = d'.fresh w := by
  obtain ⟨p, f, hd⟩ := d.exists_question (entry d).flags.follow
  obtain ⟨q, g, hd'⟩ := d'.exists_question (entry d').flags.follow
  rw [fresh, fresh, answer_eq, answer_eq, asked, hd, hd', hw p q f g]

/-! ### What it is left with -/

/-- The entry has the record that the system answers with, made under the policy of the entry, and
still asks for the same. -/
structure Refreshed (d d' : AnyDriver) (w : σ) : Prop where
  record : ∃ s, d.fresh w = .ok s ∧ (entry d').cachedStat? = some s
  policy : (entry d').flags.statFollowed = (entry d).flags.follow
  target : SameTarget d d'

lemma refreshed_renewed {s : Stat} (h : d.fresh w = .ok s) : Refreshed d (d.renewed w) w := by
  unfold renewed
  rw [h]
  refine ⟨⟨s, h, ?_⟩, ?_, sameTarget_mapEntry d fun _ => ⟨rfl, rfl⟩⟩
  all_goals
    rw [Request.entry_mapEntry]
    rfl

lemma renewed_asked (hw : StatsFixed w) (d d' : AnyDriver) :
    d'.renewed (d.asked w) = d'.renewed w := by
  rw [renewed, renewed, fresh_asked hw]

lemma reports_renewed (d : AnyDriver) (w : σ) :
    (entry (d.renewed w)).Reports "stat" (d.fresh w) := by
  rw [renewed, Request.entry_mapEntry]
  exact Entry.reports_record ..

/-! ### The answer -/

lemma identical_of_ne (h : backend a ≠ backend b) (w : σ) :
    Driver.identical a b w = (.ok false, a, b, w) := by
  rw [identical_eq, if_pos h]

lemma fst_identical_of_eq (h : backend a = backend b) (w : σ) :
    (Driver.identical a b w).1 =
      (a.fresh w).bind fun s => (b.fresh (a.asked w)).map s.sameObject := by
  rw [identical_eq, if_neg (not_not_intro h)]
  cases a.fresh w <;> rfl

lemma left_identical_of_eq (h : backend a = backend b) (w : σ) :
    (Driver.identical a b w).2.1 = a.renewed w := by
  rw [identical_eq, if_neg (not_not_intro h)]
  cases a.fresh w <;> rfl

lemma fst_identical_congr (ha : SameTarget a a') (hb : SameTarget b b') (w : σ) :
    (Driver.identical a' b' w).1 = (Driver.identical a b w).1 := by
  by_cases h : backend a = backend b
  · have h' : backend a' = backend b' := by rw [ha.backend, hb.backend, h]
    rw [fst_identical_of_eq h', fst_identical_of_eq h, ha.fresh, ha.asked, hb.fresh]
  · have h' : backend a' ≠ backend b' := by rwa [ha.backend, hb.backend]
    rw [identical_of_ne h', identical_of_ne h]

lemma fst_identical_of_ok (hw : StatsFixed w) (h : backend a = backend b) {s t : Stat}
    (ha : a.fresh w = .ok s) (hb : b.fresh w = .ok t) :
    (Driver.identical a b w).1 = .ok (s.sameObject t) := by
  rw [fst_identical_of_eq h, fresh_asked hw, ha, hb]
  rfl

/-- A comparison that answers has had both entries answered for. -/
lemma exists_of_fst_identical (hw : StatsFixed w) (h : backend a = backend b) {x : Bool}
    (hx : (Driver.identical a b w).1 = .ok x) :
    ∃ s t, a.fresh w = .ok s ∧ b.fresh w = .ok t ∧ s.sameObject t = x := by
  rw [fst_identical_of_eq h, fresh_asked hw] at hx
  cases ha : a.fresh w with
  | error e =>
    rw [ha] at hx
    cases hx
  | ok s =>
    cases hb : b.fresh w with
    | error e =>
      rw [ha, hb] at hx
      cases hx
    | ok t =>
      rw [ha, hb] at hx
      exact ⟨s, t, rfl, rfl, Except.ok.inj hx⟩

/-- What a comparison in one world makes of two entries. -/
structure Compares (a b : AnyDriver) (w : σ) : Prop where
  /-- Entries of different backends are not asked. -/
  apart : backend a ≠ backend b → Driver.identical a b w = (.ok false, a, b, w)
  /-- Two records name one object if they have device and number in common. -/
  decided : backend a = backend b → ∀ s t, a.fresh w = .ok s → b.fresh w = .ok t →
    (Driver.identical a b w).1 = .ok (decide (s.dev = t.dev ∧ s.ino = t.ino))
  first : backend a = backend b → ∀ e, a.fresh w = .error e →
    (Driver.identical a b w).1 = .error e
  second : backend a = backend b → ∀ s e, a.fresh w = .ok s → b.fresh w = .error e →
    (Driver.identical a b w).1 = .error e
  /-- Whatever else the entries keep, the answer is the same. -/
  blind : ∀ a' b', SameTarget a a' → SameTarget b b' →
    (Driver.identical a' b' w).1 = (Driver.identical a b w).1
  symm : ∀ x, (Driver.identical a b w).1 = .ok x → (Driver.identical b a w).1 = .ok x
  refreshed : backend a = backend b → ∀ x, (Driver.identical a b w).1 = .ok x →
    Refreshed a (Driver.identical a b w).2.1 w ∧ Refreshed b (Driver.identical a b w).2.2.1 w

/-- **A comparison trusts no record.** As long as the system answers one thing to one question,
entries of different backends are different without a question, and two of one backend are compared
by what the system answers now, each under its own link policy, the first failure being that of the
comparison. Nothing else that the entries keep has a say in it. Where there is an answer it is the
same the other way round, and both entries keep the record that was made for it. -/
theorem identical_compares (hw : StatsFixed w) (a b : AnyDriver) : Compares a b w where
  apart h := identical_of_ne h w
  decided h s t ha hb := by
    have hsame : s.sameObject t = decide (s.dev = t.dev ∧ s.ino = t.ino) := by
      simp [Stat.sameObject, Bool.decide_and, beq_eq_decide]
    rw [fst_identical_of_ok hw h ha hb, hsame]
  first h e ha := by
    rw [fst_identical_of_eq h, ha]
    rfl
  second h s e ha hb := by
    rw [fst_identical_of_eq h, fresh_asked hw, ha, hb]
    rfl
  blind a' b' ha hb := fst_identical_congr ha hb w
  symm x hx := by
    by_cases h : backend a = backend b
    · obtain ⟨s, t, ha, hb, rfl⟩ := exists_of_fst_identical hw h hx
      rw [fst_identical_of_ok hw h.symm hb ha, Stat.sameObject_comm]
    · rw [identical_of_ne h] at hx
      rw [identical_of_ne (Ne.symm h)]
      exact hx
  refreshed h x hx := by
    obtain ⟨s, t, ha, hb, -⟩ := exists_of_fst_identical hw h hx
    rw [identical_eq, if_neg (not_not_intro h), ha]
    exact ⟨refreshed_renewed ha, renewed_asked hw a b ▸ refreshed_renewed hb⟩

/-- A link to a directory, which looks through links but has the record of the link itself. -/
theorem identical_compares_link :
    let w := (Driver.perform (.symlink "/dev") (ofPath .posix "/x") (Files.fresh ⟨5, 0⟩ [])).2.2
    let a := (Driver.run [⟨_, .follow⟩, ⟨_, .stat false⟩] (ofPath .posix "/x") w).1
    let b := ofPath .posix "/dev"
    (StatsFixed w ∧ (entry a).cachedStat?.map Stat.isSymlink = some true) ∧
    ((Driver.identical a b w).1 = .ok true ∧ (Driver.identical b a w).1 = .ok true) ∧
    Refreshed a (Driver.identical a b w).2.1 w ∧ Refreshed b (Driver.identical a b w).2.2.1 w := by
  intro w a b
  have h := identical_compares w.statsFixed a b
  have hrecord : (entry a).cachedStat?.map Stat.isSymlink = some true := by decide +kernel
  have hab : (Driver.identical a b w).1 = .ok true := by decide +kernel
  exact ⟨⟨w.statsFixed, hrecord⟩, ⟨hab, h.symm true hab⟩, h.refreshed rfl true hab⟩

/-! ### The status -/

/-- The comparison ends well over an older failure, or it fails over a success of the first stat. -/
def Misreports (a b : AnyDriver) (w : σ) : Prop :=
  backend a ≠ backend b ∧ (entry a).status.isOk = false ∨
    backend a = backend b ∧ (∃ s, a.fresh w = .ok s) ∧ ∃ e, b.fresh (a.asked w) = .error e

/-- **A comparison does not note how it ended.** The status of the first entry is the one from
before if the backends differ, and otherwise that of the stat of this entry. So it says whether the
comparison succeeded but for two cases: an older failure stays there over entries of different
backends, and the second of two entries fails after the first has answered. -/
theorem status_identical (a b : AnyDriver) (w : σ) :
    let o := Driver.identical a b w
    (backend a ≠ backend b → (entry o.2.1).status = (entry a).status) ∧
    (backend a = backend b → (entry o.2.1).Reports "stat" (a.fresh w)) ∧
    (¬Misreports a b w ↔ ((entry o.2.1).status.isOk = true ↔ ∃ x, o.1 = .ok x)) := by
  intro o
  by_cases h : backend a = backend b
  · have hreports : (entry o.2.1).Reports "stat" (a.fresh w) := by
      unfold o
      rw [left_identical_of_eq h]
      exact reports_renewed a w
    refine ⟨absurd h, fun _ => hreports, ?_⟩
    have hfst : o.1 = (a.fresh w).bind fun s => (b.fresh (a.asked w)).map s.sameObject :=
      fst_identical_of_eq h w
    rw [hreports.isOk_iff, hfst]
    unfold Misreports
    cases a.fresh w with
    | error e => simp [h, Except.bind]
    | ok s => cases b.fresh (a.asked w) <;> simp [h, Except.bind, Except.map]
  · have ho : o = (.ok false, a, b, w) := identical_of_ne h w
    rw [ho]
    refine ⟨fun _ => rfl, fun h' => absurd h' h, ?_⟩
    simp [Misreports, h]

/-- **Both cases happen**: a directory is compared with what is not there, and a path of the null
tree that has declined a link is compared with the directory. -/
theorem identical_misreports :
    let w := Files.fresh ⟨5, 0⟩ []
    let dev := ofPath .posix "/dev"
    let null := (Driver.perform (.symlink "/dev") (ofPath .null "/dev/null/x") w).2.1
    let failed := Driver.identical dev (ofPath .posix "/missing") w
    let answered := Driver.identical null dev w
    (failed.1 = .error (.notFound "/missing") ∧ (entry failed.2.1).status = .ok "stat") ∧
    answered.1 = .ok false ∧
      (entry answered.2.1).status = (PathError.unsupported "symlink" .null).status "symlink" := by
  decide +kernel

end AnyDriver

end TreeHaul
