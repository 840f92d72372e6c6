import TreeHaul.Proofs.Driver.Endings

/-!
What the status of an entry says. Whatever a capability was asked for, of which driver and in which
state, the status afterwards is that of this very call: its name, that it went well, or the class
and the number of the error that it gave.
-/

universe u

namespace TreeHaul

open TreeHaul.Os TreeHaul.Path TreeHaul.Text HasEntry

namespace Path.Entry

variable {α : Type}

/-- The status is that of a call which ended in this way. -/
def Reports (e : Entry) (op : String) (x : Except PathError α) : Prop :=
  match x with
  | .ok _ => e.status = ⟨.ok, op, 0, 0⟩
  | .error err => e.status = ⟨err.statusKind, op, -1, err.errno⟩ ∧ e.status = err.status op

lemma reports_record (e : Entry) (op : String) (x : Except PathError α) :
    (e.record op x).Reports op x := by
  cases x with
  | ok a => rfl
  | error err => exact ⟨rfl, rfl⟩

lemma reports_recordMutation (e : Entry) (op : String) (x : Except PathError α) :
    (e.recordMutation op x).Reports op x := by
  cases x with
  | ok a => exact e.invalidateStat.reports_record op (.ok a)
  | error err => exact e.reports_record op (α := α) (.error err)

/-- No error has the class of a success. -/
lemma Reports.isOk_iff {e : Entry} {op : String} {x : Except PathError α} (h : e.Reports op x) :
    e.status.isOk = true ↔ ∃ a, x = .ok a := by
  cases x with
  | ok a =>
    have hstatus : e.status = ⟨.ok, op, 0, 0⟩ := h
    rw [hstatus]
    exact ⟨fun _ => ⟨a, rfl⟩, fun _ => rfl⟩
  | error err =>
    rw [h.1]
    constructor
    · intro hok
      cases err <;> cases hok
    · rintro ⟨a, ha⟩
      cases ha

end Path.Entry

/-! ### How each call ends -/

namespace Driver

variable {σ : Type u} {δ α : Type}

section Notes

variable [HasEntry δ] [LawfulEntry δ]

lemma reports_observed (op : String) (x : Except PathError α) (d : δ) (w : σ) :
    (entry (observed op x d w).2.1).Reports op (observed op x d w).1 := by
  rw [observed, Request.entry_mapEntry]
  exact (entry d).reports_record op x

lemma reports_changed (op : String) (x : Except PathError α) (d : δ) (w : σ) :
    (entry (changed op x d w).2.1).Reports op (changed op x d w).1 := by
  rw [changed, Request.entry_mapEntry]
  exact (entry d).reports_recordMutation op x

end Notes

variable [Driver σ δ]

/-- A capability as it is offered to users, for whom a stat may be answered from the record. -/
def serve : Request α → δ → σ → Outcome σ δ α
  | .statUncached follow, d, w => stat follow d w
  | r, d, w => perform r d w

variable [LawfulEntry δ]

/-- Also a stat that is answered from the record is noted. -/
lemma reports_stat (follow : Bool) (d : δ) (w : σ) :
    (entry (stat follow d w).2.1).Reports "stat" (stat follow d w).1 := by
  have hrefresh : (entry (refresh follow d w).2.1).Reports "stat" (refresh follow d w).1 := by
    rw [refresh]
    exact reports_observed ..
  unfold stat
  split
  · split
    · exact reports_observed ..
    · exact hrefresh
  · exact hrefresh

end Driver

lemma Ends.reports {σ : Type u} {δ α : Type} [HasEntry δ] [LawfulEntry δ] {r : Request α} {d : δ}
    {o : Outcome σ δ α} (h : Ends r d o) (hr : r.name ≠ "stat")
    (hstops : r.stops (backend d) = false) :
    (entry o.2.1).Reports (r.notedAs (backend d)) o.1 := by
  cases h with
  | silent hstat => exact absurd hstat hr
  | stopped h _ => exact absurd h (Bool.eq_false_iff.mp hstops)
  | noted | opened | looked => exact Driver.reports_observed ..
  | changed | turned => exact Driver.reports_changed ..

variable {σ : Type u} [System σ] {α : Type}

namespace AnyDriver

lemma reports_serve {r : Request α} {d : AnyDriver} (hr : r.stops (backend d) = false) (w : σ) :
    (entry (Driver.serve r d w).2.1).Reports (r.notedAs (backend d)) (Driver.serve r d w).1 := by
  cases r with
  | statUncached follow =>
    -- no driver has another name for a stat
    have hname : (Request.statUncached follow).notedAs (backend d) = "stat" := by cases d <;> rfl
    rw [hname]
    exact Driver.reports_stat follow d w
  | _ => exact (ends _ d w).reports (by simp [Request.name]) hr

lemma serve_of_stops {r : Request α} {d : AnyDriver} (hr : r.stops (backend d) = true) (w : σ) :
    r.succeeded (Driver.serve r d w).1 = false ∧ (Driver.serve r d w).2 = (d, w) := by
  cases d with
  | list d => cases r <;> cases hr
  | null d => cases r <;> cases hr
  | posix d =>
    cases r with
    | setTimes t =>
      have hall : Posix.perform (.setTimes t) d w = (.ok .stopped, d, w) := by
        rw [Posix.perform_setTimes, if_pos (of_decide_eq_true hr)]
      exact ⟨congrArg (fun o => (Request.setTimes t).succeeded o.1) hall,
        congrArg (fun o => (posix o.2.1, o.2.2)) hall⟩
    | _ => cases hr

/-- **The status is that of the last call.** After any capability of any driver, whatever state the
entry was in and whatever the system answered, the status has the name of the capability, and either
says that it went well or has the class and the number of the error that the call gave. So it says
that all is well exactly if the call did succeed. The name is the one by which the capability is
called, but that plain and null paths know only one way to take a name away. Only a call that does
not return, as the program stops at the time that it is to set, leaves all as it was. -/
theorem status_serve (r : Request α) (d : AnyDriver) (w : σ) :
    let o := Driver.serve r d w
    if r.stops (backend d) then r.succeeded o.1 = false ∧ o.2 = (d, w)
    else
      (entry o.2.1).Reports (r.notedAs (backend d)) o.1 ∧
      ((entry o.2.1).status.isOk = true ↔ ∃ a, o.1 = .ok a) := by
  intro o
  by_cases hr : r.stops (backend d) = true
  · rw [if_pos hr]
    exact serve_of_stops hr w
  · rw [if_neg hr]
    have h := reports_serve (Bool.eq_false_iff.mpr hr) w
    exact ⟨h, h.isOk_iff⟩

/-- A list declines to take its name away under the name that it was asked by, a plain path fails
under the other one. -/
example : (Request.remove.notedAs .list, Request.remove.notedAs .posix) = ("remove", "unlink") :=
  rfl

end AnyDriver

end TreeHaul
