import TreeHaul.Proofs.Driver.Requests
import TreeHaul.Proofs.Path.Overflow

/-!
How a request can end, for every driver in the same few ways. A driver that failed has only noted
it, unless it looked for a name. A driver that succeeded in changing something gives its record up,
but for the null tree, which takes what is written without a word about it. And the program can stop
in a request, when a plain path is given a time of which no stamp can be made.
-/

universe u

namespace TreeHaul

open TreeHaul.Os TreeHaul.Path TreeHaul.Text HasEntry

namespace Request

variable {α : Type}

/-- The name that a driver notes. Taking a name away is one call with two names where there is
such a call at all. -/
def notedAs : Backend → Request α → String
  | .posix, remove | .null, remove => "unlink"
  | _, r => r.name

/-- After a success the record should count no more: the object may have changed, or what was
written may only show now that it is closed. -/
def outdates : Request α → Bool
  | close | closeDir => true
  | r => r.mutates

/-- What the null tree takes without giving the record up. -/
def overlooked : Backend → Request α → Bool
  | .null, open_ .. | .null, write .. => true
  | _, _ => false

/-- After a success the record is given up. -/
def forgets (b : Backend) (r : Request α) : Bool := !r.overlooked b && r.outdates

/-- The program stops in the request. -/
def stops : Backend → Request α → Bool
  | .posix, setTimes t => decide (t.accessed = .earliest ∨ t.modified = .earliest)
  | _, _ => false

lemma outdates_of_name {r : Request α} (h : r.name = "stat" ∨ r.name = "read_dir_entry") :
    r.outdates = false := by
  cases r with
  | statUncached follow => rfl
  | readDirEntry => rfl
  | _ => simp [name] at h

end Request

section Ends

variable {σ : Type u} {α δ : Type} [HasEntry δ]

/-- What a driver does to itself when it carries a request out. -/
inductive Ends (r : Request α) (d : δ) : Outcome σ δ α → Prop where
  /-- A stat leaves it to the caller what is noted. -/
  | silent {x : Except PathError α} {w : σ} (hr : r.name = "stat") : Ends r d (x, d, w)
  | stopped {x : Except PathError α} {w : σ} (hr : r.stops (backend d) = true)
    (hx : r.succeeded x = false) : Ends r d (x, d, w)
  | noted {x : Except PathError α} {w : σ} (hx : x.isOk = true → r.forgets (backend d) = false) :
    Ends r d (Driver.observed (r.notedAs (backend d)) x d w)
  | changed {x : Except PathError α} {w : σ} :
    Ends r d (Driver.changed (r.notedAs (backend d)) x d w)
  /-- Something is open now. -/
  | opened {a : α} {d' : δ} {w : σ}
    (hr : r.forgets (backend d) = true → (entry d').cachedStat? = none) :
    Ends r d (Driver.observed (r.notedAs (backend d)) (.ok a) d' w)
  /-- Something is closed now, or a directory was made. -/
  | turned {a : α} {d' : δ} {w : σ} :
    Ends r d (Driver.changed (r.notedAs (backend d)) (.ok a) d' w)
  /-- A name was looked for. -/
  | looked {x : Except PathError α} {d' : δ} {w : σ} (hb : backend d ≠ .null)
    (hr : r.name = "read_dir_entry") (he : entry d' = entry d) :
    Ends r d (Driver.observed (r.notedAs (backend d)) x d' w)

lemma ends_failed {r : Request α} {d : δ} {err : PathError} {w : σ} :
    Ends r d (Driver.observed (r.notedAs (backend d)) (.error err) d w) := .noted nofun

lemma ends_opened {r : Request α} {d d' : δ} {a : α} {w : σ}
    (hr : r.forgets (backend d) = false) :
    Ends r d (Driver.observed (r.notedAs (backend d)) (.ok a) d' w) := by
  refine .opened fun h => ?_
  rw [hr] at h
  cases h

end Ends

variable {σ : Type u} [System σ] {α : Type}

/-! ### Setting times -/

/-- Wrapping around, the stamps can always be made: the system is called with them. -/
lemma Posix.setTimes_wrapping (t : SetTimes) (d : Posix) (w : σ) :
    d.setTimes .wrapping t w =
      let c := Syscall.setTimes d.entry.path t.accessed.stamp t.modified.stamp t.followLinks
      Driver.changed "set_times" ((d.issue "set_times" c w).1.map fun _ => .returned) d
        (d.issue "set_times" c w).2 := by
  rw [setTimes, Instant.toStamp_wrapping, Instant.toStamp_wrapping]

/-- The program stops at the earliest instant, with nothing changed. Else it might as well wrap
around. -/
lemma Posix.perform_setTimes (t : SetTimes) (d : Posix) (w : σ) :
    Posix.perform (.setTimes t) d w =
      if t.accessed = .earliest ∨ t.modified = .earliest then (.ok .stopped, d, w)
      else d.setTimes .wrapping t w := by
  rw [perform, setTimes, Instant.toStamp_checked, Instant.toStamp_checked]
  by_cases ha : t.accessed = .earliest
  · rw [if_pos ha, if_pos (Or.inl ha)]
  by_cases hm : t.modified = .earliest
  · rw [if_neg ha, if_pos hm, if_pos (Or.inr hm)]
  · rw [if_neg ha, if_neg hm, if_neg (not_or.mpr ⟨ha, hm⟩), setTimes_wrapping]

/-! ### The three drivers -/

lemma Posix.ends (r : Request α) (d : Posix) (w : σ) : Ends r d (Posix.perform r d w) := by
  cases r with
  | statUncached follow => exact .silent rfl
  | accessAt mode flags =>
    rw [perform, accessAt]
    split
    · exact .noted fun _ => rfl
    · exact ends_failed
  | open_ flags mode =>
    rw [perform, openFile]
    split
    · exact ends_failed
    · split
      · exact ends_failed
      · refine .opened fun h => ?_
        have hflags : flags.mutates = true := h
        rw [if_pos hflags]
        rfl
  | openDir =>
    rw [perform, openDir]
    split
    · exact ends_failed
    · split
      · exact ends_failed
      · exact ends_opened rfl
  | close =>
    rw [perform, closeFile]
    split
    · exact ends_failed
    · exact .turned
  | closeDir =>
    rw [perform, closeDir]
    split
    · exact ends_failed
    · exact .turned
  | readDirEntry =>
    rw [perform, readDirEntry]
    split
    · exact ends_failed
    · exact .looked (by rintro ⟨⟩) rfl rfl
  | setTimes times =>
    rw [perform_setTimes]
    split
    · rename_i h
      exact .stopped (decide_eq_true h) rfl
    · rw [setTimes_wrapping]
      exact .changed
  | read len offset =>
    rw [perform, read]
    split
    · exact ends_failed
    · exact .noted fun _ => rfl
  | write data offset =>
    rw [perform, write]
    split
    · exact ends_failed
    · exact .changed
  | access _ | readLink _ | canonicalPath => exact .noted fun _ => rfl
  | mkdir _ | remove | unlink | symlink _ | chown _ _ | chmod _ => exact .changed

lemma Listing.ends (r : Request α) (d : Listing) (w : σ) : Ends r d (Listing.perform r d w) := by
  cases r with
  | statUncached follow => exact .silent rfl
  | accessAt mode flags =>
    rw [perform, accessAt]
    split
    · exact .noted fun _ => rfl
    · exact ends_failed
  | openDir =>
    rw [perform, openDir]
    split
    · exact ends_failed
    · split
      · exact ends_failed
      · exact ends_opened rfl
  | closeDir =>
    rw [perform, closeDir]
    split
    · exact ends_failed
    · exact .turned
  | readDirEntry =>
    rw [perform, readDirEntry]
    split
    · exact ends_failed
    · exact .looked (by rintro ⟨⟩) rfl rfl
  | access _ | canonicalPath => exact .noted fun _ => rfl
  | open_ _ _ | close | read _ _ | write _ _ | mkdir _ | remove | unlink | symlink _ | readLink _
  | chown _ _ | chmod _ | setTimes _ => exact ends_failed

lemma Null.ends (r : Request α) (d : Null) (w : σ) : Ends r d (Null.perform r d w) := by
  cases r with
  | statUncached follow => exact .silent rfl
  | open_ flags mode =>
    rw [perform, openFile]
    split
    · exact ends_failed
    · exact ends_opened rfl
  | openDir =>
    rw [perform, openDir]
    split
    · exact ends_failed
    · exact ends_opened rfl
  | close =>
    rw [perform, closeFile]
    split
    · exact .turned
    · exact ends_failed
  | closeDir =>
    rw [perform, closeDir]
    split
    · exact .turned
    · exact ends_failed
  | readDirEntry =>
    rw [perform, readDirEntry]
    split
    · exact .noted fun _ => rfl
    · exact ends_failed
  | read _ _ =>
    rw [perform, whileOpen]
    split
    · exact .noted fun _ => rfl
    · exact ends_failed
  | write _ _ =>
    rw [perform, whileOpen]
    split
    · exact .noted fun _ => rfl
    · exact ends_failed
  | access _ | accessAt _ _ | canonicalPath => exact .noted fun _ => rfl
  | symlink _ | readLink _ => exact ends_failed
  | mkdir _ => exact .turned
  | remove | unlink | chown _ _ | chmod _ | setTimes _ => exact .changed

/-! ### Any driver -/

omit [System σ] in
/-- A request ends in the same way for a driver and for one that it stands in. -/
lemma Ends.embed {δ ε : Type} [HasEntry δ] [HasEntry ε] {r : Request α} {d : δ}
    {o : Outcome σ δ α} {f : δ → ε} (hb : ∀ d, backend (f d) = backend d)
    (he : ∀ d, entry (f d) = entry d) (hs : ∀ d e, setEntry (f d) e = f (setEntry d e))
    (h : Ends r d o) : Ends r (f d) (o.1, f o.2.1, o.2.2) := by
  have hmap (g : Entry → Entry) (d : δ) : f (Driver.mapEntry g d) = Driver.mapEntry g (f d) := by
    rw [Driver.mapEntry, Driver.mapEntry, hs, he]
  cases h with
  | silent hr => exact .silent hr
  | stopped hr hx => exact .stopped (by rwa [hb]) hx
  | noted hx =>
    rw [← hb d] at hx ⊢
    rw [Driver.observed, hmap]
    exact .noted hx
  | changed =>
    rw [← hb d, Driver.changed, hmap]
    exact .changed
  | opened hr =>
    rw [← hb d] at hr ⊢
    rw [Driver.observed, hmap]
    exact .opened fun h => by rw [he]; exact hr h
  | turned =>
    rw [← hb d, Driver.changed, hmap]
    exact .turned
  | looked hbackend hr hentry =>
    rw [← hb d] at hbackend ⊢
    rw [Driver.observed, hmap]
    exact .looked hbackend hr (by rw [he, he, hentry])

lemma AnyDriver.ends (r : Request α) (d : AnyDriver) (w : σ) :
    Ends r d (Driver.perform r d w) := by
  cases d with
  | posix d => exact (Posix.ends r d w).embed (fun _ => rfl) (fun _ => rfl) fun _ _ => rfl
  | list d => exact (Listing.ends r d w).embed (fun _ => rfl) (fun _ => rfl) fun _ _ => rfl
  | null d => exact (Null.ends r d w).embed (fun _ => rfl) (fun _ => rfl) fun _ _ => rfl

end TreeHaul
