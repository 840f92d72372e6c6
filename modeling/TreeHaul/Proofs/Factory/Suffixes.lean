import TreeHaul.Proofs.Factory.CanonicalPath

/-!
Entries for the path of another with a suffix. Two suffixes one after the other lead to the same
entry as both at once. A suffix changes the backend of a path only where the path stops within the
tag of lists or the name of the null device, or where it goes on with that name.
-/

universe u

namespace TreeHaul

open TreeHaul.Path HasEntry

/-! ### Paths -/

namespace Path.Backend

variable {p s text : String}

/-- The path is a beginning of the text, but not all of it. -/
def StopsWithin (p text : String) : Prop := p.toList <+: text.toList ∧ p ≠ text

/-- With the suffix the null device gets a longer name. -/
def Renames (p s : String) : Prop := p = nullDevice ∧ s ≠ "" ∧ s.toList.head? ≠ some '/'

lemma stopsWithin_or_begins (h : text.toList <+: (p ++ s).toList) :
    StopsWithin p text ∨ text.toList <+: p.toList := by
  have hp : p.toList <+: (p ++ s).toList := by
    rw [String.toList_append]
    exact List.prefix_append ..
  rcases List.prefix_or_prefix_of_prefix hp h with h' | h'
  · by_cases heq : p = text
    · exact .inr (heq ▸ List.prefix_rfl)
    · exact .inl ⟨h', heq⟩
  · exact .inr h'

lemma detect_append_of_list (h : detect p = .list) : detect (p ++ s) = .list := by
  obtain ⟨rest, hrest⟩ := detect_eq_list_iff.mp h
  refine detect_eq_list_iff.mpr ⟨rest ++ s.toList, ?_⟩
  rw [String.toList_append, hrest, List.append_assoc]

lemma stopsWithin_listTag (hp : detect p ≠ .list) (h : detect (p ++ s) = .list) :
    StopsWithin p listTag := by
  obtain ⟨rest, hrest⟩ := detect_eq_list_iff.mp h
  rcases stopsWithin_or_begins (p := p) (s := s) ⟨rest, hrest.symm⟩ with hw | ⟨rest', hb⟩
  · exact hw
  · exact absurd (detect_eq_list_iff.mpr ⟨rest', hb.symm⟩) hp

lemma InNullTree.append (h : InNullTree p) (hs : ¬Renames p s) : InNullTree (p ++ s) := by
  unfold InNullTree
  rw [String.toList_append]
  rcases h with h | ⟨rest, h⟩
  · have hp : p = nullDevice := String.toList_inj.mp h
    cases hc : s.toList with
    | nil => exact .inl (by rw [h, List.append_nil])
    | cons c rest =>
      by_cases hslash : c = '/'
      · exact .inr ⟨rest, by rw [h, hslash]⟩
      · refine absurd ⟨hp, ?_, ?_⟩ hs
        · rintro rfl
          cases hc
        · rw [hc]
          exact fun hhead => hslash (Option.some.inj hhead)
  · exact .inr ⟨rest ++ s.toList, by rw [h, List.append_assoc, List.cons_append]⟩

lemma Renames.not_inNullTree (h : Renames p s) : ¬InNullTree (p ++ s) := by
  obtain ⟨rfl, hne, hslash⟩ := h
  unfold InNullTree
  rw [String.toList_append]
  rintro (heq | ⟨rest, heq⟩)
  · exact hne (String.toList_eq_nil_iff.mp (List.append_right_eq_self.mp heq))
  · rw [List.append_cancel_left heq] at hslash
    exact hslash rfl

lemma stopsWithin_nullDevice (hp : ¬InNullTree p) (h : InNullTree (p ++ s)) :
    StopsWithin p nullDevice := by
  have hb : nullDevice.toList <+: (p ++ s).toList := by
    rcases h with h | ⟨rest, h⟩
    · exact h ▸ List.prefix_rfl
    · exact ⟨'/' :: rest, h.symm⟩
  rcases stopsWithin_or_begins hb with hw | ⟨rest, hrest⟩
  · exact hw
  -- what follows the name of the device in the path follows it also with the suffix
  exfalso
  apply hp
  unfold InNullTree at h
  rw [String.toList_append, ← hrest, List.append_assoc] at h
  cases rest with
  | nil => exact .inl (by rw [← hrest, List.append_nil])
  | cons c rest =>
    rcases h with h | ⟨rest', h⟩
    · cases List.append_right_eq_self.mp h
    · obtain ⟨rfl, -⟩ := List.cons.inj (List.append_cancel_left h)
      exact .inr ⟨rest, hrest.symm⟩

end Path.Backend

/-! ### Routes -/

namespace Factory

open Backend

variable {f : Factory AnyDriver} {p s : String}

lemma route_eq_list_iff : f.route p = .list ↔ detect p = .list := by
  refine ⟨fun h => ?_, route_of_list⟩
  unfold route at h
  split at h
  · split at h <;> cases h
  · exact h

lemma route_eq_null_iff : f.route p = .null ↔ f.config.nullDevice = true ∧ InNullTree p := by
  rw [← detect_eq_null_iff]
  cases hd : detect p with
  | posix => rw [route_of_posix hd]; simp
  | list => rw [route_of_list hd]; simp
  | null => rw [route_of_null hd]; simp

lemma route_eq_posix (hl : f.route p ≠ .list) (hn : f.route p ≠ .null) : f.route p = .posix := by
  cases h : f.route p with
  | posix => rfl
  | list => exact absurd h hl
  | null => exact absurd h hn

/-- What the backend of a path says of that with a suffix. -/
structure Prolongs (f : Factory AnyDriver) (p s : String) : Prop where
  list : f.route p = .list → f.route (p ++ s) = .list
  null : f.route p = .null → ¬Renames p s → f.route (p ++ s) = .null
  renamed : f.route p = .null → Renames p s → f.route (p ++ s) = .posix
  to_list : f.route p = .posix → f.route (p ++ s) = .list → StopsWithin p listTag
  to_null : f.route p = .posix → f.route (p ++ s) = .null →
    f.config.nullDevice = true ∧ StopsWithin p nullDevice

lemma prolongs (f : Factory AnyDriver) (p s : String) : f.Prolongs p s where
  list h := route_eq_list_iff.mpr (detect_append_of_list (route_eq_list_iff.mp h))
  null h hs := by
    obtain ⟨hon, hp⟩ := route_eq_null_iff.mp h
    exact route_eq_null_iff.mpr ⟨hon, hp.append hs⟩
  renamed h hs := by
    refine route_eq_posix (fun hl => ?_) fun hn => hs.not_inNullTree (route_eq_null_iff.mp hn).2
    -- the device begins with a slash, also under a longer name
    obtain ⟨rest, hrest⟩ := detect_eq_list_iff.mp (route_eq_list_iff.mp hl)
    rw [hs.1, String.toList_append] at hrest
    cases List.head_eq_of_cons_eq hrest
  to_list h hl := by
    refine stopsWithin_listTag (fun hp => ?_) (route_eq_list_iff.mp hl)
    rw [route_of_list hp] at h
    cases h
  to_null h hn := by
    obtain ⟨hon, hnull⟩ := route_eq_null_iff.mp hn
    refine ⟨hon, stopsWithin_nullDevice (fun hp => ?_) hnull⟩
    rw [route_eq_null_iff.mpr ⟨hon, hp⟩] at h
    cases h

end Factory

/-! ### Entries -/

variable {σ : Type u} [System σ]

lemma AnyDriver.path_issued (config : Config) (b : Backend) (path : String) :
    Driver.path (issued config b path) = path := by
  rw [Driver.path, entry_issued]

lemma Factory.Sorted.append_fst {f : Factory AnyDriver} (h : f.Sorted) (d : AnyDriver)
    (suffix : String) (w : σ) :
    (f.append d suffix w).1 =
      .issued f.config (f.route (Driver.path d ++ suffix)) (Driver.path d ++ suffix) :=
  h.acquire_fst _ w

/-- **Suffixes add up.** Whatever happened to a factory, an entry with a suffix has the joined path
and the backend of that path, and to add another suffix to it gives the entry that both suffixes
give at once, asked for before or after, whichever backend the one between has. A path of a list
stays one, a path of the null tree stays there unless the device itself gets a longer name, and a
plain path leaves the plain ones only from within the tag of lists or the name of the device. -/
theorem append_append_eq (config : Config) (w : σ) (steps : List (Workshop.Step σ)) (e : AnyDriver)
    (s t : String) (v : σ) :
    let f := ((Workshop.ofConfig config w).run steps).factory
    let once := f.append e s v
    let twice := once.2.1.append once.1 t once.2.2
    (Driver.path once.1 = Driver.path e ++ s ∧
      backend once.1 = f.route (Driver.path e ++ s)) ∧
    (twice.1 = (f.append e (s ++ t) v).1 ∧
      twice.1 = (twice.2.1.append e (s ++ t) twice.2.2).1) ∧
    ∀ p q : String, f.Prolongs p q := by
  intro f once twice
  obtain ⟨-, hsorted⟩ := Workshop.kept_run config w steps
  have honce : once.1 = .issued f.config (f.route (Driver.path e ++ s)) (Driver.path e ++ s) :=
    hsorted.append_fst e s v
  have hpath : Driver.path once.1 = Driver.path e ++ s := by rw [honce, AnyDriver.path_issued]
  -- what the factory has become gives out the same entries
  have hsorted₁ : once.2.1.Sorted := hsorted.acquire _ v
  have hconfig₁ : once.2.1.config = f.config := Factory.config_acquire f _ v
  have hsorted₂ : twice.2.1.Sorted := hsorted₁.acquire _ once.2.2
  have hconfig₂ : twice.2.1.config = f.config :=
    (Factory.config_acquire once.2.1 _ once.2.2).trans hconfig₁
  have htwice : twice.1 = .issued f.config (f.route (Driver.path e ++ (s ++ t)))
      (Driver.path e ++ (s ++ t)) := by
    have h := hsorted₁.append_fst once.1 t once.2.2
    rwa [hpath, hconfig₁, Factory.route_congr hconfig₁, String.append_assoc] at h
  refine ⟨⟨hpath, by rw [honce, AnyDriver.backend_issued]⟩, ⟨?_, ?_⟩, f.prolongs⟩
  · rw [htwice, hsorted.append_fst]
  · rw [hsorted₂.append_fst, hconfig₂, Factory.route_congr hconfig₂]
    exact htwice

/-- A path enters the null tree by the end of the device's name and leaves it by more of it. -/
example : ["/dev/nu", "/dev/nu" ++ "ll", "/dev/null" ++ "ish", "/dev/null" ++ "/ish"].map
    (Factory.ofConfig .standard : Factory AnyDriver).route = [.posix, .null, .posix, .null] := by
  decide

end TreeHaul
