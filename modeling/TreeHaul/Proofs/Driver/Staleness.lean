import TreeHaul.Driver.Call
import TreeHaul.Files.System
import TreeHaul.Proofs.Driver.Endings

/-!
Which successes give the record up. After a change of its object and after a close, an entry has no
record, and the next stat asks the system. Only the null tree opens and writes without a word about
it: the record from before stays there.
-/

universe u

namespace TreeHaul

open TreeHaul.Os TreeHaul.Path TreeHaul.Text HasEntry

/-- Without a record a stat asks the system. -/
lemma Driver.stat_of_cachedStat?_eq_none {σ : Type u} {δ : Type} [Driver σ δ] {d : δ}
    (h : (entry d).cachedStat? = none) (follow : Bool) (w : σ) :
    Driver.stat follow d w = Driver.refresh follow d w := by
  rw [Driver.stat, h]

section Ends

variable {σ : Type u} {α δ : Type} [HasEntry δ] [LawfulEntry δ]

open Request in
/-- A success that is to give the record up does so. -/
lemma Ends.cachedStat?_eq_none {r : Request α} {d : δ} {o : Outcome σ δ α} (h : Ends r d o)
    (hf : r.forgets (backend d) = true) (hok : r.succeeded o.1 = true) :
    (entry o.2.1).cachedStat? = none := by
  have hout : r.outdates = true := (Bool.and_eq_true_iff.mp hf).2
  cases h with
  | silent hr => simp [outdates_of_name (.inl hr)] at hout
  | stopped _ hx => exact absurd hok (Bool.eq_false_iff.mp hx)
  | looked hb hr he => simp [outdates_of_name (.inr hr)] at hout
  | noted hx => simp [hx (isOk_of_succeeded hok)] at hf
  | opened hr =>
    rw [Driver.observed, entry_mapEntry]
    exact hr hf
  | turned =>
    rw [Driver.changed, entry_mapEntry]
    rfl
  | @changed x w =>
    cases x with
    | ok a => rw [Driver.changed, entry_mapEntry]; rfl
    | error err => cases hok

end Ends

variable {σ : Type u} [System σ] {α : Type}

namespace AnyDriver

/-- Opening and writing keep the record in the null tree, however they end. -/
lemma keeps_overlooked {r : Request α} {d : AnyDriver} (hr : r.overlooked (backend d) = true)
    (w : σ) : (entry d).Keeps (entry (Driver.perform r d w).2.1) := by
  cases d with
  | posix d => cases r <;> cases hr
  | list d => cases r <;> cases hr
  | null d =>
    cases r with
    | open_ flags mode =>
      change d.entry.Keeps (d.openFile w).2.1.entry
      unfold Null.openFile
      split <;> exact ⟨rfl, rfl, rfl⟩
    | write data offset =>
      change d.entry.Keeps (d.whileOpen "write" data.length w).2.1.entry
      unfold Null.whileOpen
      split <;> exact ⟨rfl, rfl, rfl⟩
    | _ => cases hr

/-- **A success that changes something gives the record up**, and so does one that closes: the next
stat asks the system. There are two exceptions: a path of the null tree can be opened and written to
with the record kept as it was. -/
theorem record_after_success {r : Request α} (hr : r.outdates = true) (d : AnyDriver) (w : σ)
    (hok : r.succeeded (Driver.perform r d w).1 = true) :
    let d' := (Driver.perform r d w).2.1
    (r.overlooked (backend d) = false →
      (entry d').cachedStat? = none ∧
        ∀ (follow : Bool) (v : σ), Driver.stat follow d' v = Driver.refresh follow d' v) ∧
    (r.overlooked (backend d) = true → (entry d').cachedStat? = (entry d).cachedStat?) := by
  intro d'
  refine ⟨fun h => ?_, fun h => (keeps_overlooked h w).record⟩
  have hforgets : r.forgets (backend d) = true := by rw [Request.forgets, h, hr]; rfl
  have hnone : (entry d').cachedStat? = none := (ends r d w).cachedStat?_eq_none hforgets hok
  exact ⟨hnone, fun follow v => Driver.stat_of_cachedStat?_eq_none hnone follow v⟩

/-- A directory gives its record up when its mode is set, a path of the null tree keeps its own when
something is written to it. -/
theorem record_after_chmod_and_write :
    let w := Files.fresh ⟨5, 0⟩ []
    let dev := (Driver.stat false (ofPath .posix "/dev") w).2.1
    let out := (Driver.run [⟨_, .stat false⟩, ⟨_, .request (.open_ .readWrite 0)⟩]
      (ofPath .null "/dev/null/out") w).1
    let chmod := Driver.perform (.chmod 0o700) dev w
    let write := Driver.perform (.write [104, 105] 0) out w
    (chmod.1.isOk = true ∧ (entry dev).cachedStat? ≠ none ∧ (entry chmod.2.1).cachedStat? = none) ∧
    write.1.isOk = true ∧ (entry write.2.1).cachedStat? = (entry out).cachedStat? := by
  intro w dev out chmod write
  have hchmod : (Request.chmod 0o700).succeeded chmod.1 = true := by decide +kernel
  have hwrite : (Request.write [104, 105] 0).succeeded write.1 = true := by decide +kernel
  have hdev : (entry dev).cachedStat? ≠ none := by decide +kernel
  obtain ⟨hstale, -⟩ := record_after_success (r := .chmod 0o700) rfl dev w hchmod
  obtain ⟨-, hkept⟩ := record_after_success (r := .write [104, 105] 0) rfl out w hwrite
  exact ⟨⟨Request.isOk_of_succeeded hchmod, hdev, (hstale rfl).1⟩, Request.isOk_of_succeeded hwrite,
    hkept rfl⟩

/-- **The exceptions happen**: a record survives that a file below the null device is made and
written. -/
theorem record_outlives_write :
    let w := Files.fresh ⟨5, 0⟩ []
    let d := (Driver.stat false (ofPath .null "/dev/null/out") w).2.1
    let create := Driver.perform (.open_ .createTruncate 0o644) d w
    let write := Driver.perform (.write [104, 105] 0) create.2.1 w
    (create.1.isOk = true ∧ (entry create.2.1).cachedStat?.isSome = true) ∧
    write.1.isOk = true ∧ (entry write.2.1).cachedStat?.isSome = true := by
  decide +kernel

end AnyDriver

end TreeHaul
