import Mathlib.Data.List.Infix
import TreeHaul.Proofs.Driver.Endings
import TreeHaul.Proofs.Driver.Transparency

/-!
Times on their way through a copy. A record says what the system answered about an object at some
point, and when its times are set on another path, the system is handed the stamps of that answer.
The stamps are made without leaving 64 bits, except for that of the earliest instant of all, at which
the program stops.
-/

universe u

namespace TreeHaul

open TreeHaul.Os TreeHaul.Path HasEntry

namespace AnyDriver

variable {σ : Type u} [System σ] {d : AnyDriver} {w : σ} {follow : Bool} {s : Stat}

lemma atime_reading (d : AnyDriver) (m : Metadata) : (d.reading m).atime = .ofStamp m.atime := by
  cases d <;> rfl

lemma mtime_reading (d : AnyDriver) (m : Metadata) : (d.reading m).mtime = .ofStamp m.mtime := by
  cases d <;> rfl

/-- What a stat answers is read off what the system answered. -/
lemma exists_of_answer (h : d.answer follow w = .ok s) :
    ∃ m, (System.call (d.question follow) w).1 = .ok m ∧ d.reading m = s := by
  rw [answer_eq] at h
  cases hc : (System.call (d.question follow) w).1 with
  | error e =>
    rw [hc] at h
    cases h
  | ok m =>
    rw [hc] at h
    exact ⟨m, rfl, Except.ok.inj h⟩

end AnyDriver

namespace Act

variable {σ : Type u} [System σ] {d : AnyDriver} {w : σ} {acts : List (Act σ)} {m : Metadata}
  {s : Stat}

/-! ### What was reported -/

/-- At some point of a history the system, asked about the object, would answer with `m`, which
reads as the record `s`. -/
def Reported (acts : List (Act σ)) (d : AnyDriver) (w : σ) (m : Metadata) (s : Stat) : Prop :=
  ∃ before, before <+: acts ∧ ∃ follow,
    (System.call ((run before d w).1.question follow) (run before d w).2).1 = .ok m ∧
      (run before d w).1.reading m = s

/-- After a history, an entry shows the record: as the one it keeps, or when it is asked for one. -/
def Shown (acts : List (Act σ)) (d : AnyDriver) (w : σ) (s : Stat) : Prop :=
  let r := run acts d w
  (entry r.1).cachedStat? = some s ∨ ∃ follow, (Driver.stat follow r.1 r.2).1 = .ok s ∨
    (Driver.perform (.statUncached follow) r.1 r.2).1 = .ok s

lemma Reported.atime (h : Reported acts d w m s) : s.atime = .ofStamp m.atime := by
  obtain ⟨before, -, follow, -, rfl⟩ := h
  exact AnyDriver.atime_reading _ m

lemma Reported.mtime (h : Reported acts d w m s) : s.mtime = .ofStamp m.mtime := by
  obtain ⟨before, -, follow, -, rfl⟩ := h
  exact AnyDriver.mtime_reading _ m

lemma Reported.snoc (h : Reported acts d w m s) (a : Act σ) : Reported (acts ++ [a]) d w m s := by
  obtain ⟨before, hb, h⟩ := h
  exact ⟨before, hb.trans (List.prefix_append acts [a]), h⟩

lemma reported_now {follow : Bool}
    (h : (run acts d w).1.answer follow (run acts d w).2 = .ok s) : ∃ m, Reported acts d w m s := by
  obtain ⟨m, hm, hs⟩ := AnyDriver.exists_of_answer h
  exact ⟨m, acts, List.prefix_rfl, follow, hm, hs⟩

lemma run_snoc (acts : List (Act σ)) (a : Act σ) (d : AnyDriver) (w : σ) :
    run (acts ++ [a]) d w = a.apply (run acts d w).1 (run acts d w).2 :=
  List.foldl_concat ..

/-- A record that an entry keeps was reported. -/
lemma reported_kept (hd : (entry d).cachedStat? = none)
    (h : (entry (run acts d w).1).cachedStat? = some s) : ∃ m, Reported acts d w m s := by
  induction acts using List.reverseRecOn with
  | nil =>
    cases hd.symm.trans h
  | append_singleton acts a ih =>
    rw [run_snoc] at h
    rcases (renews_apply a _ _).answered h with h | ⟨follow, h⟩
    · obtain ⟨m, hm⟩ := ih h
      exact ⟨m, hm.snoc a⟩
    · obtain ⟨m, hm⟩ := reported_now h
      exact ⟨m, hm.snoc a⟩

lemma reported_of_shown (hd : (entry d).cachedStat? = none) (h : Shown acts d w s) :
    ∃ m, Reported acts d w m s := by
  rcases h with h | ⟨follow, h | h⟩
  · exact reported_kept hd h
  · rcases AnyDriver.stat_cases follow (run acts d w).1 (run acts d w).2 with
      ⟨t, ht, -, hstat⟩ | hstat
    · rw [hstat] at h
      cases h
      exact reported_kept hd ht
    · rw [hstat, AnyDriver.refresh_eq] at h
      exact reported_now h
  · exact reported_now h

/-! ### What is handed on -/

/-- The calls of a world after one more, by which a path is given both stamps. -/
def handing (p : Posix) (accessed modified : Stamp) (follow : Bool) (u : Traced σ) :
    List (Sigma Syscall) :=
  ⟨_, .setTimes p.entry.path accessed modified follow⟩ :: u.calls

lemma calls_setTimes (t : SetTimes) (p : Posix) (u : Traced σ) :
    (p.setTimes .wrapping t u).2.2.calls =
      handing p t.accessed.stamp t.modified.stamp t.followLinks u := by
  rw [Posix.setTimes_wrapping]
  rfl

lemma calls_perform_setTimes (t : SetTimes) (p : Posix) (u : Traced σ) :
    (Driver.perform (.setTimes t) p u).2.2.calls =
      if t.accessed = .earliest ∨ t.modified = .earliest then u.calls
      else handing p t.accessed.stamp t.modified.stamp t.followLinks u := by
  have hperform : Driver.perform (.setTimes t) p u = _ := p.perform_setTimes t u
  rw [hperform]
  split
  · rfl
  · exact calls_setTimes t p u

/-- The times of a record are those that were reported. -/
lemma Reported.stamps (h : Reported acts d w m s) (ha : m.atime.Proper) (hm : m.mtime.Proper) :
    s.atime.stamp = m.atime ∧ s.mtime.stamp = m.mtime := by
  rw [h.atime, h.mtime]
  exact ⟨Instant.stamp_ofStamp ha, Instant.stamp_ofStamp hm⟩

variable (σ) in
/-- **Times survive a copy.** A stamp with proper nanoseconds is an instant, at any number of
seconds, and is had back from it bit for bit, if numbers wrap around; every instant has a proper
stamp, which is no request for the present time or for none, and is had back from that. So when an
entry shows a record, after whatever history, and its times are set on a plain path, under either
link policy, the system is called once, with the stamps that it had itself reported. A program that
does not wrap around calls it as well, unless one of the times is the earliest. -/
theorem times_survive :
    (∀ t : Stamp, t.Proper →
      Instant.exactly? t = some (.ofStamp t) ∧ (Instant.ofStamp t).toStamp .wrapping = some t) ∧
    (∀ t : Instant, ∃ s, t.toStamp .wrapping = some s ∧ s.Proper ∧
      s.nsec ≠ Stamp.present ∧ s.nsec ≠ Stamp.unchanged ∧
      Instant.exactly? s = some t ∧ Instant.ofStamp s = t) ∧
    ∀ (b : Backend) (path : String) (w : σ) (acts : List (Act σ)) (s : Stat),
      Shown acts (.ofPath b path) w s → ∃ m, Reported acts (.ofPath b path) w m s ∧
        (m.atime.Proper → m.mtime.Proper → ∀ (p : Posix) (u : Traced σ),
          ((p.setTimes .wrapping (.ofStat s) u).2.2.calls = handing p m.atime m.mtime false u ∧
            (p.setTimes .wrapping (SetTimes.ofStat s).following u).2.2.calls =
              handing p m.atime m.mtime true u) ∧
          (s.atime ≠ .earliest → s.mtime ≠ .earliest →
            (Driver.perform (.setTimes (.ofStat s)) p u).2.2.calls =
                handing p m.atime m.mtime false u ∧
              (Driver.perform (.setTimes (SetTimes.ofStat s).following) p u).2.2.calls =
                handing p m.atime m.mtime true u)) := by
  refine ⟨fun t ht => ⟨?_, ?_⟩, fun t => ?_, ?_⟩
  · rw [Instant.exactly?_eq, Instant.ofStamp_eq_mk]
  · rw [Instant.toStamp_wrapping, Instant.stamp_ofStamp ht]
  · have hproper := t.proper_stamp
    have hback := t.exactly?_stamp
    refine ⟨t.stamp, t.toStamp_wrapping, hproper, hproper.ne.1, hproper.ne.2, hback, ?_⟩
    rw [Instant.ofStamp_eq, hback, Option.getD_some]
  · intro b path w acts s h
    have hd : (entry (AnyDriver.ofPath b path)).cachedStat? = none := by cases b <;> rfl
    obtain ⟨m, hm⟩ := reported_of_shown hd h
    refine ⟨m, hm, fun ha ht p u => ?_⟩
    obtain ⟨hatime, hmtime⟩ := hm.stamps ha ht
    refine ⟨⟨?_, ?_⟩, fun hearly hearly' => ?_⟩
    · rw [calls_setTimes, ← hatime, ← hmtime]
      rfl
    · rw [calls_setTimes, ← hatime, ← hmtime]
      rfl
    · have hruns : ¬ (s.atime = .earliest ∨ s.mtime = .earliest) := not_or.mpr ⟨hearly, hearly'⟩
      rw [calls_perform_setTimes, calls_perform_setTimes, ← hatime, ← hmtime]
      exact ⟨if_neg hruns, if_neg hruns⟩

/-- The directory has had its times set to the earliest instant and to one before the epoch. A
record is made of it, then its times are changed by somebody else. -/
theorem times_survive_at_ends :
    let setTo (a m : Stamp) (w : Files) : Files := (System.call (.setTimes "/dev" a m true) w).2
    let a : Stamp := ⟨Int64.minValue, 0⟩
    let m : Stamp := ⟨-2, 999999999⟩
    let acts : List (Act Files) := [call ⟨_, .stat false⟩, elsewhere (setTo ⟨9, 0⟩ ⟨9, 0⟩)]
    let w := setTo a m (Files.fresh ⟨5, 0⟩ [])
    (Stamp.Proper ⟨Int64.maxValue, 999999999⟩ ∧
      (Instant.ofStamp ⟨Int64.maxValue, 999999999⟩).toStamp .wrapping =
        some ⟨Int64.maxValue, 999999999⟩) ∧
    ∃ s, Shown acts (.ofPath .posix "/dev") w s ∧ ∀ (p : Posix) (u : Traced Files),
      (p.setTimes .wrapping (.ofStat s) u).2.2.calls = handing p a m false u := by
  intro setTo a m acts w
  obtain ⟨hstamp, -, hcopy⟩ := times_survive Files
  have hends : Stamp.Proper ⟨Int64.maxValue, 999999999⟩ := by decide
  have hrecord : (entry (run acts (.ofPath .posix "/dev") w).1).cachedStat?.map
      (fun s => (s.atime.stamp, s.mtime.stamp)) = some (a, m) := by decide +kernel
  -- whenever the system is asked, it answers with proper stamps
  have hproper : ∀ before ∈ acts.inits, ∀ follow,
      (System.call ((run before (.ofPath .posix "/dev") w).1.question follow)
        (run before (.ofPath .posix "/dev") w).2).1.toOption.all
          (fun n => decide (n.atime.Proper ∧ n.mtime.Proper)) = true := by decide +kernel
  obtain ⟨s, hs, hstamps⟩ := Option.map_eq_some_iff.mp hrecord
  obtain ⟨hsa, hsm⟩ := Prod.mk.inj hstamps
  obtain ⟨n, hn, hgive⟩ := hcopy .posix "/dev" w acts s (.inl hs)
  have hnp : n.atime.Proper ∧ n.mtime.Proper := by
    obtain ⟨before, hb, follow, hcall, -⟩ := hn
    have hall := hproper before ((List.mem_inits _ _).mpr hb) follow
    rw [hcall] at hall
    exact of_decide_eq_true hall
  obtain ⟨hatime, hmtime⟩ := hn.stamps hnp.1 hnp.2
  refine ⟨⟨hends, (hstamp _ hends).2⟩, s, .inl hs, fun p u => ?_⟩
  rw [(hgive hnp.1 hnp.2 p u).1.1, ← hatime, ← hmtime, hsa, hsm]

end Act

/-! ### Without overflow -/

namespace Posix

variable {σ : Type u} [System σ]

variable (σ) in
/-- **What overflows.** A stamp can be made without leaving 64 bits of every instant but the
earliest; with overflow only checked in negations and subtractions, it is that one as well that
stops. So the program stops where a plain path is to be given the earliest instant, before the
system is called and with nothing changed, and nowhere else: any other times are set as they would
be with wrapping. -/
theorem setTimes_stops_iff :
    (∀ t : Instant, t.toStamp .wrapping = some t.stamp ∧
      t.toStamp .exact = (if t = .earliest then none else some t.stamp) ∧
      t.toStamp .checked = (if t = .earliest then none else some t.stamp)) ∧
    (∀ (t : SetTimes) (d : Posix) (w : σ),
      Driver.perform (.setTimes t) d w =
        if t.accessed = .earliest ∨ t.modified = .earliest then (.ok .stopped, d, w)
        else d.setTimes .wrapping t w) ∧
    ∀ (t : SetTimes) (d : AnyDriver) (w : σ),
      (Driver.perform (.setTimes t) d w).1 = .ok .stopped ↔
        backend d = .posix ∧ (t.accessed = .earliest ∨ t.modified = .earliest) := by
  refine ⟨fun t => ⟨t.toStamp_wrapping, t.toStamp_exact, t.toStamp_checked⟩,
    fun t d w => d.perform_setTimes t w, fun t d w => ?_⟩
  cases d with
  | list d => exact ⟨nofun, nofun⟩
  | null d => exact ⟨nofun, nofun⟩
  | posix d =>
    change (Posix.perform (.setTimes t) d w).1 = _ ↔ _
    rw [perform_setTimes]
    split
    · rename_i h
      exact ⟨fun _ => ⟨rfl, h⟩, fun _ => rfl⟩
    · rename_i h
      rw [setTimes_wrapping]
      refine ⟨fun hstopped => ?_, fun hearly => absurd hearly.2 h⟩
      revert hstopped
      dsimp only [Driver.changed]
      cases (d.issue "set_times" _ w).1 <;> nofun

/-- The earliest instant can be had, as far before the epoch as seconds go, and what a system
reports can mean it. With it a directory cannot have its times set. -/
theorem setTimes_stops_at_earliest :
    ¬ (∀ t : Instant, (t.toStamp .exact).isSome = true) ∧
    Instant.epoch.shift? (-9223372036854775808) = some .earliest ∧
    Instant.exactly? ⟨-9223372036854775808, 0⟩ = some .earliest ∧
    (Driver.perform (.setTimes (.ofInstants .earliest .earliest)) (Posix.ofPath "/dev")
      (Files.fresh ⟨5, 0⟩ [])).1 = .ok .stopped := by
  have hnone : Instant.earliest.toStamp .exact = none := rfl
  refine ⟨fun h => ?_, by decide, by decide, rfl⟩
  have hsome := h .earliest
  rw [hnone] at hsome
  cases hsome

end Posix

end TreeHaul
