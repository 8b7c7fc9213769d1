import Mathlib.Data.List.Induction
import Provenance.Proofs.Compiler.Fetching

/-!
What the two indexes of a catalog hold, by the list of builds that it was made of.
A long version leads to the last build that has it. A short version leads to the
first release that has it, or to the first build where none is a release. What is
loaded of a platform is the catalog of a list.
-/

namespace Provenance

namespace Catalog

variable {builds : List Build} {build : Build} {version longVersion : String}

theorem lookup_put (version other : String) (build : Build) (index : List (String × Build)) :
    (put version build index).lookup other =
      if other = version then some build else index.lookup other := by
  induction index with
  | nil =>
    rw [put, List.lookup_cons]
    by_cases hother : other = version
    · simp [hother]
    · simp [hother, beq_eq_false_iff_ne.2 hother]
  | cons entry index ih =>
    obtain ⟨key, old⟩ := entry
    rw [put]
    by_cases hkey : key = version
    · subst hkey
      rw [if_pos rfl, List.lookup_cons, List.lookup_cons]
      by_cases hother : other = key
      · simp [hother]
      · simp [hother, beq_eq_false_iff_ne.2 hother]
    · rw [if_neg hkey, List.lookup_cons, List.lookup_cons, ih]
      by_cases hother : other = key
      · subst hother
        simp [hkey]
      · simp [beq_eq_false_iff_ne.2 hother]

theorem longVersion?_add (catalog : Catalog) (build : Build) (longVersion : String) :
    (catalog.add build).longVersion? longVersion =
      if longVersion = build.longVersion then some build
      else catalog.longVersion? longVersion :=
  lookup_put ..

theorem version?_add (catalog : Catalog) (build : Build) (version : String) :
    (catalog.add build).version? version =
      if version = build.version ∧ replaces build (catalog.version? version) = true then some build
      else catalog.version? version := by
  unfold version? add
  dsimp only
  by_cases hversion : version = build.version
  · subst hversion
    simp only [true_and]
    split_ifs
    · rw [lookup_put, if_pos rfl]
    · rfl
  · simp only [hversion, false_and, if_false]
    split_ifs
    · rw [lookup_put, if_neg hversion]
    · rfl

theorem ofBuilds_append (builds : List Build) (build : Build) :
    ofBuilds (builds ++ [build]) = (ofBuilds builds).add build := by
  rw [ofBuilds, List.foldl_append]
  rfl

/-- A long version leads to the last build that has it. -/
theorem longVersion?_ofBuilds (builds : List Build) (longVersion : String) :
    (ofBuilds builds).longVersion? longVersion =
      builds.reverse.find? fun build => build.longVersion = longVersion := by
  induction builds using List.reverseRecOn with
  | nil => rfl
  | append_singleton builds build ih =>
    rw [ofBuilds_append, longVersion?_add, List.reverse_append, List.reverse_singleton,
      List.singleton_append, List.find?_cons, ih]
    by_cases hlong : build.longVersion = longVersion
    · simp [hlong]
    · simp [hlong, Ne.symm hlong]

/-- A short version leads to the first release that has it, or else to the first
build that has it. -/
theorem version?_ofBuilds (builds : List Build) (version : String) :
    (ofBuilds builds).version? version =
      (builds.find? fun build => build.version = version && build.isRelease).or
        (builds.find? fun build => build.version = version) := by
  induction builds using List.reverseRecOn with
  | nil => rfl
  | append_singleton builds build ih =>
    rw [ofBuilds_append, version?_add, ih, List.find?_append, List.find?_append]
    by_cases hversion : build.version = version
    · cases hrelease : builds.find? fun build => build.version = version && build.isRelease with
      | some release =>
        have hold := List.find?_some hrelease
        simp only [Bool.and_eq_true, decide_eq_true_eq] at hold
        simp [hversion, replaces, hold.2]
      | none =>
        cases hfirst : builds.find? fun build => build.version = version with
        | some first =>
          -- The first build of the version is no release, so a release takes its place.
          have hnone := List.find?_eq_none.1 hrelease first (List.mem_of_find?_eq_some hfirst)
          have hold := List.find?_some hfirst
          simp only [decide_eq_true_eq] at hold
          simp only [hold, decide_true, Bool.true_and, Bool.not_eq_true] at hnone
          cases hnew : build.isRelease <;> simp [hversion, replaces, hnone, hnew]
        | none => cases hnew : build.isRelease <;> simp [hversion, replaces, hnew]
    · simp [hversion, Ne.symm hversion]

/-- A build that a long version leads to is in the list and has it. -/
theorem mem_of_longVersion? (h : (ofBuilds builds).longVersion? longVersion = some build) :
    build ∈ builds ∧ build.longVersion = longVersion := by
  rw [longVersion?_ofBuilds] at h
  have hmem := List.mem_of_find?_eq_some h
  have hlong := List.find?_some h
  exact ⟨List.mem_reverse.1 hmem, of_decide_eq_true hlong⟩

/-- A build that a short version leads to is in the list and has it. -/
theorem mem_of_version? (h : (ofBuilds builds).version? version = some build) :
    build ∈ builds ∧ build.version = version := by
  rw [version?_ofBuilds, Option.or_eq_some_iff] at h
  rcases h with hrelease | ⟨-, hfirst⟩
  · have hversion := List.find?_some hrelease
    simp only [Bool.and_eq_true, decide_eq_true_eq] at hversion
    exact ⟨List.mem_of_find?_eq_some hrelease, hversion.1⟩
  · have hversion := List.find?_some hfirst
    exact ⟨List.mem_of_find?_eq_some hfirst, of_decide_eq_true hversion⟩

/-- The release that a short version leads to is the first one listed. -/
theorem release_of_version? (hrelease : build.isRelease = true) :
    (ofBuilds builds).version? version = some build ↔
      (builds.find? fun build => build.version = version && build.isRelease) = some build := by
  rw [version?_ofBuilds, Option.or_eq_some_iff]
  refine ⟨fun h => h.resolve_right ?_, .inl⟩
  rintro ⟨hnone, hfirst⟩
  have hother := List.find?_eq_none.1 hnone build (List.mem_of_find?_eq_some hfirst)
  have hversion := List.find?_some hfirst
  exact hother (Bool.and_eq_true_iff.2 ⟨hversion, hrelease⟩)

end Catalog

namespace Releases

variable {r : Releases} {network : Net.Network} {platform other : Platform} {catalog : Catalog}

def Listed (r : Releases) : Prop :=
  ∀ platform catalog, r.loaded.lookup platform = some catalog →
    ∃ builds, catalog = .ofBuilds builds

theorem listed_of_nil (h : r.loaded = []) : r.Listed := by
  intro platform catalog hloaded
  rw [h] at hloaded
  cases hloaded

/-- A catalog that is fetched is that of a list. -/
theorem listed_of_fetch (h : (r.fetch network platform).2 = .ok catalog) :
    ∃ builds, catalog = .ofBuilds builds := by
  cases fetch_eq_loads.1 h with
  | loaded => exact ⟨_, rfl⟩

/-- A request ends with what is loaded of the platform afterwards, and leaves what
was loaded before. -/
theorem get_cases (r : Releases) (network : Net.Network) (platform : Platform) :
    (∃ catalog, r.loaded.lookup platform = some catalog ∧
        r.get network platform = (r, network, .ok catalog)) ∨
      r.loaded.lookup platform = none ∧
        ((∃ network' catalog builds, catalog = Catalog.ofBuilds builds ∧
            r.get network platform = (r.keep platform catalog, network', .ok catalog)) ∨
          ∃ network' fault, r.get network platform = (r, network', .error fault)) := by
  unfold get
  cases hloaded : r.loaded.lookup platform with
  | some catalog => exact .inl ⟨catalog, rfl, rfl⟩
  | none =>
    refine .inr ⟨rfl, ?_⟩
    rcases hfetch : r.fetch network platform with ⟨network', result⟩
    cases result with
    | error fault => exact .inr ⟨network', fault, by simp [settle]⟩
    | ok catalog =>
      obtain ⟨builds, hbuilds⟩ := listed_of_fetch (congrArg Prod.snd hfetch)
      exact .inl ⟨network', catalog, builds, hbuilds, by simp [settle]⟩

theorem lookup_keep (r : Releases) (platform other : Platform) (catalog : Catalog) :
    (r.keep platform catalog).loaded.lookup other =
      if other = platform then some catalog else r.loaded.lookup other := by
  rw [keep, List.lookup_cons]
  by_cases hother : other = platform
  · simp [hother]
  · simp [hother, beq_eq_false_iff_ne.2 hother]

structure Extends (r r' : Releases) : Prop where
  keeps : ∀ {platform catalog}, r.loaded.lookup platform = some catalog →
    r'.loaded.lookup platform = some catalog
  listed : r.Listed → r'.Listed

theorem Extends.refl (r : Releases) : r.Extends r := ⟨id, id⟩

theorem Extends.trans {r r' r'' : Releases} (h : r.Extends r') (h' : r'.Extends r'') :
    r.Extends r'' :=
  ⟨fun hloaded => h'.keeps (h.keeps hloaded), fun hlisted => h'.listed (h.listed hlisted)⟩

theorem extends_keep {builds : List Build} (hloaded : r.loaded.lookup platform = none) :
    r.Extends (r.keep platform (.ofBuilds builds)) := by
  constructor
  · intro other catalog hother
    rw [lookup_keep, if_neg]
    · exact hother
    · rintro rfl
      cases hloaded.symm.trans hother
  · intro hlisted other catalog hother
    rw [lookup_keep] at hother
    split_ifs at hother with heq
    · exact ⟨builds, (Option.some.inj hother).symm⟩
    · exact hlisted other catalog hother

theorem extends_get (r : Releases) (network : Net.Network) (platform : Platform) :
    r.Extends (r.get network platform).1 := by
  rcases r.get_cases network platform with
    ⟨catalog, -, hget⟩ | ⟨hloaded, ⟨network', catalog, builds, rfl, hget⟩ | ⟨network', fault, hget⟩⟩
  · rw [hget]
    exact .refl r
  · rw [hget]
    exact extends_keep hloaded
  · rw [hget]
    exact .refl r

/-- A request that succeeds leaves its catalog loaded. -/
theorem loaded_of_get (h : (r.get network platform).2.2 = .ok catalog) :
    (r.get network platform).1.loaded.lookup platform = some catalog := by
  rcases r.get_cases network platform with
    ⟨found, hloaded, hget⟩ | ⟨-, ⟨network', found, builds, -, hget⟩ | ⟨network', fault, hget⟩⟩
  · rw [hget] at h ⊢
    cases h
    exact hloaded
  · rw [hget] at h ⊢
    cases h
    rw [lookup_keep, if_pos rfl]
  · rw [hget] at h
    cases h

end Releases

end Provenance
