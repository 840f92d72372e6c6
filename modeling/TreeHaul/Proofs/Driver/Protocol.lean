import TreeHaul.Proofs.Driver.Agreement

/-!
How an entry opens and closes what it holds. A request for something that is open already, or for
something that is not open, fails for that reason, and nothing else does. So over a history every
resource is opened and closed in turn.
-/

universe u

namespace TreeHaul

open TreeHaul.Os TreeHaul.Path TreeHaul.Text HasEntry Holder

/-! ### What a request has found -/

namespace Request

variable {σ : Type u} {α δ : Type} [HasEntry δ] [Holder δ]
variable {r : Request α} {d : δ} {w : σ} {o : Outcome σ δ α} {ρ : Resource}

lemma guard_of_mark {m : Mark} (h : r.mark ρ = some m) :
    m = .opened ∧ r.guard = some (ρ, false) ∨ m = .closed ∧ r.guard = some (ρ, true) := by
  cases r <;> cases ρ <;> cases h
  · exact .inl ⟨rfl, rfl⟩
  · exact .inr ⟨rfl, rfl⟩
  · exact .inl ⟨rfl, rfl⟩
  · exact .inr ⟨rfl, rfl⟩

/-- Only a success does anything to a resource. -/
lemma mark_of_turn {x : Except PathError α} {m : Mark} (h : r.turn x ρ = some m) :
    r.mark ρ = some m ∧ ∃ a, x = .ok a := by
  cases x with
  | ok a => exact ⟨h, a, rfl⟩
  | error err => cases h

lemma holds_of_apt {needed : Bool} (hr : r.guard = some (ρ, needed)) (h : r.fit d = .apt) :
    holds d ρ = needed := by
  rw [fit, hr] at h
  dsimp only at h
  split at h
  · split at h
    · assumption
    · cases h
  · cases h

namespace Honours

lemma wrongState_iff (h : r.Honours d w o) : wrongState o.1 = true ↔ r.fit d = .misplaced := by
  cases hfit : r.fit d with
  | unprovided =>
    rw [h.unprovided hfit]
    exact ⟨nofun, nofun⟩
  | misplaced =>
    obtain ⟨reason, ho⟩ := h.misplaced hfit
    rw [ho]
    exact ⟨fun _ => rfl, fun _ => rfl⟩
  | apt =>
    rw [h.apt hfit]
    exact ⟨nofun, nofun⟩

/-- What does not suit the entry does not succeed. -/
lemma apt_of_ok {a : α} (h : r.Honours d w o) (ho : o.1 = .ok a) : r.fit d = .apt := by
  cases hfit : r.fit d with
  | unprovided =>
    rw [h.unprovided hfit] at ho
    cases ho
  | misplaced =>
    obtain ⟨reason, hr⟩ := h.misplaced hfit
    rw [hr] at ho
    cases ho
  | apt => rfl

/-- What was opened had been closed, and what was closed had been open. -/
lemma before {m : Mark} (h : r.Honours d w o) (hm : r.turn o.1 ρ = some m) :
    m = .opened ∧ holds d ρ = false ∨ m = .closed ∧ holds d ρ = true := by
  obtain ⟨hmark, a, ho⟩ := mark_of_turn hm
  have hapt := h.apt_of_ok ho
  rcases guard_of_mark hmark with ⟨rfl, hr⟩ | ⟨rfl, hr⟩
  · exact .inl ⟨rfl, holds_of_apt hr hapt⟩
  · exact .inr ⟨rfl, holds_of_apt hr hapt⟩

/-- A request leaves alone what it is not about. -/
lemma apart (h : r.Honours d w o) (hr : ∀ needed, r.guard ≠ some (ρ, needed)) :
    holds o.2.1 ρ = holds d ρ := by
  rw [h.turns.held]
  cases hm : r.turn o.1 ρ with
  | none => rfl
  | some m =>
    obtain ⟨hmark, -⟩ := mark_of_turn hm
    rcases guard_of_mark hmark with ⟨-, hg⟩ | ⟨-, hg⟩
    · exact absurd hg (hr false)
    · exact absurd hg (hr true)

end Honours

end Request

variable {σ : Type u} [System σ] {α : Type}

/-! ### Stats -/

namespace AnyDriver

variable (d other : AnyDriver) (w : σ)

lemma wrongState_answer (follow : Bool) : wrongState (d.answer follow w) = false := by
  rw [answer_eq, wrongState_map]
  exact wrongState_ofIo ..

lemma wrongState_stat (follow : Bool) : wrongState (Driver.stat follow d w).1 = false := by
  rcases stat_cases follow d w with ⟨s, -, -, h⟩ | h
  · rw [h]
    rfl
  · rw [h, refresh_eq]
    exact wrongState_answer d w follow

lemma wrongState_identical : wrongState (Driver.identical d other w).1 = false := by
  rw [identical_eq]
  split
  · rfl
  · split
    · rename_i e h
      have he : wrongState (d.fresh w) = false := wrongState_answer d w _
      rw [h] at he
      cases e <;> exact he
    · exact (wrongState_map ..).trans (wrongState_answer ..)

end AnyDriver

/-! ### One step -/

/-- The rules by which an entry opens and closes what it holds, in one state. -/
structure Protocol (d : AnyDriver) (w : σ) : Prop where
  /-- A request fails for the state exactly if it does not suit what is held. -/
  request {α : Type} (r : Request α) :
    wrongState (Driver.perform r d w).1 = true ↔ r.fit d = .misplaced
  /-- It is refused under its own name then, and only the status of the entry changes. -/
  refused {α : Type} (r : Request α) : r.fit d = .misplaced →
    ∃ reason, Driver.perform r d w = Driver.rejected r.name reason d w
  /-- What the backend has no resource for is unsupported. -/
  lacking {α : Type} (r : Request α) : r.fit d = .unprovided →
    (Driver.perform r d w).1 = .error (.unsupported r.name (backend d))
  stat (follow : Bool) : wrongState (Driver.stat follow d w).1 = false
  size : wrongState (Driver.size d w).1 = false
  mtime : wrongState (Driver.mtime d w).1 = false
  identical (other : AnyDriver) : wrongState (Driver.identical d other w).1 = false
  /-- A resource becomes open exactly when it is opened. -/
  opens (e : Event σ) (ρ : Resource) :
    holds d ρ = false ∧ holds (e.apply d w).1 ρ = true ↔ e.turn d w ρ = some .opened
  /-- It becomes closed exactly when it is closed, or released while it is open. -/
  closes (e : Event σ) (ρ : Resource) :
    holds d ρ = true ∧ holds (e.apply d w).1 ρ = false ↔
      e.turn d w ρ = some .closed ∨ holds d ρ = true ∧ e.turn d w ρ = some .released
  /-- A request leaves alone what it is not about. -/
  apart {α : Type} (r : Request α) (ρ : Resource) : (∀ needed, r.guard ≠ some (ρ, needed)) →
    holds (Driver.perform r d w).2.1 ρ = holds d ρ

namespace Event

variable (e : Event σ) (d : AnyDriver) (w : σ)

variable {d w} in
lemma before_turn {ρ : Resource} {m : Mark} (h : e.turn d w ρ = some m) :
    m = .opened ∧ holds d ρ = false ∨ m = .closed ∧ holds d ρ = true ∨ m = .released := by
  cases e with
  | compared other => cases h
  | act a =>
    cases a with
    | identical other | elsewhere change => cases h
    | call c =>
      obtain ⟨β, c⟩ := c
      cases c with
      | request r =>
        rcases (AnyDriver.honours r d w).before h with hm | hm
        · exact .inl hm
        · exact .inr (.inl hm)
      | finalize | reset _ => exact .inr (.inr (Option.some.inj h).symm)
      | _ => cases h

lemma opens_iff (ρ : Resource) :
    holds d ρ = false ∧ holds (e.apply d w).1 ρ = true ↔ e.turn d w ρ = some .opened := by
  rw [(turns_apply e d w).held ρ]
  constructor
  · rintro ⟨hbefore, hafter⟩
    rw [hbefore] at hafter
    cases hm : e.turn d w ρ with
    | none => rw [hm] at hafter; cases hafter
    | some m =>
      rw [hm] at hafter
      cases m with
      | opened => rfl
      | closed | released => cases hafter
  · intro hm
    rw [hm]
    rcases before_turn e hm with ⟨-, hbefore⟩ | ⟨h, -⟩ | h
    · exact ⟨hbefore, rfl⟩
    · cases h
    · cases h

lemma closes_iff (ρ : Resource) :
    holds d ρ = true ∧ holds (e.apply d w).1 ρ = false ↔
      e.turn d w ρ = some .closed ∨ holds d ρ = true ∧ e.turn d w ρ = some .released := by
  rw [(turns_apply e d w).held ρ]
  constructor
  · rintro ⟨hbefore, hafter⟩
    rw [hbefore] at hafter
    cases hm : e.turn d w ρ with
    | none => rw [hm] at hafter; cases hafter
    | some m =>
      rw [hm] at hafter
      cases m with
      | opened => cases hafter
      | closed => exact .inl rfl
      | released => exact .inr ⟨hbefore, rfl⟩
  · rintro (hm | ⟨hbefore, hm⟩)
    · rw [hm]
      rcases before_turn e hm with ⟨h, -⟩ | ⟨-, hbefore⟩ | h
      · cases h
      · exact ⟨hbefore, rfl⟩
      · cases h
    · rw [hm]
      exact ⟨hbefore, rfl⟩

/-- The rules hold even where flags and handles disagree. -/
lemma protocol : Protocol d w where
  request r := (AnyDriver.honours r d w).wrongState_iff
  refused r := (AnyDriver.honours r d w).misplaced
  lacking r hfit := congrArg Prod.fst ((AnyDriver.honours r d w).unprovided hfit)
  stat follow := AnyDriver.wrongState_stat d w follow
  size := (wrongState_map _ _).trans (AnyDriver.wrongState_stat d w _)
  mtime := (wrongState_map _ _).trans (AnyDriver.wrongState_stat d w _)
  identical other := AnyDriver.wrongState_identical d other w
  opens e ρ := opens_iff e d w ρ
  closes e ρ := closes_iff e d w ρ
  apart r _ hr := (AnyDriver.honours r d w).apart hr

/-! ### Histories -/

/-- What happened to a resource over a history. -/
def marks (ρ : Resource) : List (Event σ) → AnyDriver → σ → List Mark
  | [], _, _ => []
  | e :: es, d, w => (e.turn d w ρ).toList ++ marks ρ es (e.apply d w).1 (e.apply d w).2

end Event

/-- What may come right after what: nothing is opened twice, and only what was just opened is
closed. -/
def Mark.Follows (before after : Mark) : Prop :=
  match after with
  | opened => before ≠ opened
  | closed => before = opened
  | released => True

namespace Event

/-- The last mark says whether the resource is open, and which mark may be the next. -/
lemma isChain_marks {ρ : Resource} {m : Mark} {d : AnyDriver} (hm : m = .opened ↔ holds d ρ = true)
    (events : List (Event σ)) (w : σ) :
    (m :: marks ρ events d w).IsChain Mark.Follows ∧
    ((m :: marks ρ events d w).getLast? = some .opened ↔
      holds (run events d w).1 ρ = true) := by
  induction events generalizing d w m with
  | nil =>
    refine ⟨.singleton m, ?_⟩
    rw [marks, List.getLast?_singleton, Option.some_inj]
    exact hm
  | cons e es ih =>
    have hheld := (turns_apply e d w).held ρ
    cases ht : e.turn d w ρ with
    | none =>
      rw [ht] at hheld
      rw [marks, ht]
      exact ih (hm.trans (by rw [hheld, Mark.leaves])) _
    | some m' =>
      rw [ht] at hheld
      have hm' : m' = .opened ↔ holds (e.apply d w).1 ρ = true := by
        rw [hheld]
        cases m' <;> simp [Mark.leaves]
      have hfollows : Mark.Follows m m' := by
        rcases before_turn e ht with ⟨rfl, hbefore⟩ | ⟨rfl, hbefore⟩ | rfl
        · intro h
          rw [hm.mp h] at hbefore
          cases hbefore
        · exact hm.mpr hbefore
        · trivial
      obtain ⟨hchain, hlast⟩ := ih hm' (e.apply d w).2
      rw [marks, ht]
      refine ⟨List.isChain_cons_cons.mpr ⟨hfollows, hchain⟩, ?_⟩
      exact hlast

/-- **Resources are opened and closed in turn.** In every state that an entry can come to, a request
fails for the state exactly if the resource that it is about is not as it has to be, and a resource
is opened by a successful open and closed by a successful close, or with everything else, and by
nothing besides. So of each resource no two openings follow each other without a closing, every
close ends an opening, and the resource is open exactly if an opening is the last that happened to
it. -/
theorem protocol_run (b : Backend) (path : String) (w : σ) (events : List (Event σ)) :
    let start := AnyDriver.ofPath b path
    let s := run events start w
    Protocol s.1 s.2 ∧
    ∀ ρ, (Mark.released :: marks ρ events start w).IsChain Mark.Follows ∧
      ((marks ρ events start w).getLast? = some .opened ↔ holds s.1 ρ = true) := by
  intro start s
  refine ⟨protocol s.1 s.2, fun ρ => ?_⟩
  have hm : Mark.released = .opened ↔ holds start ρ = true := by
    constructor
    · nofun
    · intro h
      cases b <;> cases ρ <;> cases h
  obtain ⟨hchain, hlast⟩ := isChain_marks hm events w
  refine ⟨hchain, ?_⟩
  rw [← hlast]
  cases marks ρ events start w with
  | nil => exact ⟨nofun, nofun⟩
  | cons m ms => rw [List.getLast?_cons_cons]

end Event

end TreeHaul
