import TreeHaul.Proofs.Factory.Workshop

/-!
An entry that comes off a shelf cannot be told from one that was never used: to reset an entry
leaves nothing of what it was, in whatever state it is.
-/

universe u

namespace TreeHaul

open TreeHaul.Os TreeHaul.Path HasEntry

/-- What the system has open on behalf of an entry. -/
def AnyDriver.handles : AnyDriver → List Handle
  | posix d => d.file?.toList ++ (d.dir?.map DirReader.handle).toList
  | list d => (d.cursor?.map ListCursor.handle).toList
  | null _ => []

/-- An entry as it is first handed out for a path. -/
structure Unused (config : Config) (path : String) (d : AnyDriver) : Prop where
  backend : HasEntry.backend d = (Factory.ofConfig config : Factory AnyDriver).route path
  named : Driver.path d = path
  status : (entry d).status = .initial
  unknown : (entry d).stat? = none ∧ (entry d).cachedStat? = none
  flags : (entry d).flags = { EntryFlags.none with follow := config.followLinks }
  closed : d.handles = []
  asDir : ∀ n, d = .null n → (n.asDir = true ↔ path.toList.getLast? = some '/')

/-- An entry that was made for a path, with the link policy of the settings. -/
def AnyDriver.issued (config : Config) (b : Backend) (path : String) : AnyDriver :=
  if config.followLinks then Driver.follow (.ofPath b path) else .ofPath b path

variable {σ : Type u} [System σ]

/-! ### Resets -/

lemma Posix.reset_fst (path : String) (d : Posix) (w : σ) :
    (Posix.reset path d w).1 = .ofPath path := rfl

lemma Listing.reset_fst (path : String) (d : Listing) (w : σ) :
    (Listing.reset path d w).1 = .ofPath path := rfl

/-- The release by flags may miss nothing here, as a null path holds nothing but its flags. -/
lemma Null.reset_fst (path : String) (d : Null) (w : σ) :
    (Null.reset path d w).1 = .ofPath path := rfl

lemma AnyDriver.reset_fst (path : String) (d : AnyDriver) (w : σ) :
    (Driver.reset path d w).1 = AnyDriver.ofPath (backend d) path := by
  cases d with
  | posix d => exact congrArg AnyDriver.posix (Posix.reset_fst path d w)
  | list d => exact congrArg AnyDriver.list (Listing.reset_fst path d w)
  | null d => exact congrArg AnyDriver.null (Null.reset_fst path d w)

/-! ### What a factory hands out -/

lemma Factory.Sorted.acquire_fst {f : Factory AnyDriver} (h : f.Sorted) (path : String) (w : σ) :
    (f.acquire path w).1 = .issued f.config (f.route path) path := by
  unfold Factory.acquire AnyDriver.issued
  dsimp only
  split
  · rename_i d shelf hi
    have hb : HasEntry.backend d = f.route path := h _ d (hi ▸ List.mem_cons_self)
    have hr := AnyDriver.reset_fst path d w
    rw [hb] at hr
    rw [hr]
    rfl
  · rfl

namespace AnyDriver

variable (config : Config) (b : Backend) (path : String)

lemma entry_issued : entry (issued config b path) =
    ⟨path, none, { EntryFlags.none with follow := config.followLinks }, .initial⟩ := by
  unfold issued
  cases config.followLinks <;> cases b <;> rfl

lemma backend_issued : backend (issued config b path) = b := by
  unfold issued
  cases config.followLinks <;> cases b <;> rfl

lemma handles_issued : (issued config b path).handles = [] := by
  unfold issued
  cases config.followLinks <;> cases b <;> rfl

lemma asDir_issued {n : Null} (h : issued config b path = .null n) :
    n.asDir = Null.endsWithSlash path := by
  unfold issued at h
  cases b with
  | posix => split at h <;> cases h
  | list => split at h <;> cases h
  | null => split at h <;> cases h <;> rfl

end AnyDriver

lemma unused_issued (config : Config) (path : String) : Unused config path
    (.issued config ((Factory.ofConfig config : Factory AnyDriver).route path) path) where
  backend := AnyDriver.backend_issued ..
  named := by rw [Driver.path, AnyDriver.entry_issued]
  status := by rw [AnyDriver.entry_issued]
  unknown := by rw [AnyDriver.entry_issued]; exact ⟨rfl, rfl⟩
  flags := by rw [AnyDriver.entry_issued]
  closed := AnyDriver.handles_issued ..
  asDir n h := by rw [AnyDriver.asDir_issued _ _ _ h, Null.endsWithSlash, beq_iff_eq]

/-- **Recycling does not show.** After whatever happened to a factory and to the entries that it
handed out, the entry it hands out next for a path is the one that a new factory with the same
settings hands out, and nothing is known of it. For this a reset leaves of every entry, however its
flags and handles stand to each other, what a new entry of its backend is. -/
theorem acquire_eq_new (config : Config) (w : σ) (steps : List (Workshop.Step σ)) (path : String)
    (v new : σ) :
    let f := ((Workshop.ofConfig config w).run steps).factory
    (f.acquire path v).1 = ((Factory.ofConfig config : Factory AnyDriver).acquire path new).1 ∧
    Unused config path (f.acquire path v).1 ∧
    ∀ d : AnyDriver, (Driver.reset path d v).1 = .ofPath (backend d) path := by
  intro f
  obtain ⟨hconfig, hsorted⟩ := Workshop.kept_run config w steps
  have hf : (f.acquire path v).1 =
      .issued config ((Factory.ofConfig config : Factory AnyDriver).route path) path := by
    rw [hsorted.acquire_fst, hconfig, Factory.route_congr (g := .ofConfig config) hconfig path]
  have hnew := (Factory.sorted_ofConfig config).acquire_fst path new
  refine ⟨hf.trans hnew.symm, ?_, fun d => AnyDriver.reset_fst path d v⟩
  rw [hf]
  exact unused_issued config path

end TreeHaul
