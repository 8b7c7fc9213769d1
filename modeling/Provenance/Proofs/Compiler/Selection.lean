import Provenance.Compiler.Selection
import Provenance.Proofs.Compiler.Catalog

/-!
Which build serves a name, said without the search for it. The supplies come in
the order of preference. The first catalog with the exact build serves, or else
the first with a build of the same short version. Where no catalog has either, the
first failure among the supplies is reported, and the version counts as missing
only if there was no failure.
-/

namespace Provenance

/-- A match of a catalog that stands first among supplies. A catalog that cannot be
had matches nothing. -/
def Supply.Nowhere (fits : Catalog → Build → Prop) (supplies : List Supply) : Prop :=
  ∀ platform catalog build, (platform, .ok catalog) ∈ supplies → ¬ fits catalog build

def Supply.First (fits : Catalog → Build → Prop) (supplies : List Supply) (platform : Platform)
    (build : Build) : Prop :=
  ∃ before catalog behind, supplies = before ++ (platform, .ok catalog) :: behind ∧
    fits catalog build ∧ Nowhere fits before

def Supply.AllLoaded (supplies : List Supply) : Prop :=
  ∀ supply ∈ supplies, ∃ catalog, supply.2 = .ok catalog

def Supply.FirstFault (supplies : List Supply) (fault : FetchFault) : Prop :=
  ∃ before platform behind, supplies = before ++ (platform, .error fault) :: behind ∧
    AllLoaded before

namespace CompilerName

open Supply

variable {name : CompilerName} {supplies : List Supply} {platform : Platform} {build : Build}
  {fault : FetchFault}

def CommitsAgree (commit other : String) : Prop :=
  commit.toList.map Ascii.lower <+: other.toList.map Ascii.lower ∨
    other.toList.map Ascii.lower <+: commit.toList.map Ascii.lower

/-- A build is the release of a commit that agrees with the name's. -/
structure IsReleaseOf (name : CompilerName) (build : Build) : Prop where
  release : build.prerelease = none
  commit : ∃ commit, build.commit = some commit ∧ CommitsAgree name.commit commit

/-- The exact build of a catalog: the one with the long version, or failing that the
one with the short version if it is the release of the commit. -/
inductive IsExact (name : CompilerName) (catalog : Catalog) (build : Build) : Prop
  | named (h : catalog.longVersion? name.longVersion = some build)
  | released (hnamed : catalog.longVersion? name.longVersion = none)
      (h : catalog.version? name.version = some build) (hrelease : name.IsReleaseOf build)

def IsSameVersion (name : CompilerName) (catalog : Catalog) (build : Build) : Prop :=
  catalog.version? name.version = some build

/-- What serves a name among supplies, the preferred ones first. -/
inductive Serves (name : CompilerName) (supplies : List Supply) :
    Except CompilationFault Selection → Prop
  | exact {platform : Platform} {build : Build} (h : First name.IsExact supplies platform build) :
      Serves name supplies (.ok ⟨platform, build, name⟩)
  | sameVersion {platform : Platform} {build : Build} (hexact : Nowhere name.IsExact supplies)
      (h : First name.IsSameVersion supplies platform build) :
      Serves name supplies (.ok ⟨platform, build, name⟩)
  | unavailable {fault : FetchFault} (hexact : Nowhere name.IsExact supplies)
      (hsame : Nowhere name.IsSameVersion supplies) (h : FirstFault supplies fault) :
      Serves name supplies (.error (.fetch fault))
  | missing (hexact : Nowhere name.IsExact supplies)
      (hsame : Nowhere name.IsSameVersion supplies) (h : AllLoaded supplies) :
      Serves name supplies (.error (.notFound name.longVersion))

theorem matchesCommit_iff {commit : String} :
    name.matchesCommit commit = true ↔ CommitsAgree name.commit commit := by
  simp only [matchesCommit, Bool.or_eq_true, List.isPrefixOf_iff_prefix, CommitsAgree]

theorem isReleasedAs_iff : name.isReleasedAs build = true ↔ name.IsReleaseOf build := by
  simp only [isReleasedAs, Build.isRelease, Bool.and_eq_true, Option.isNone_iff_eq_none,
    Option.any_eq_true, matchesCommit_iff]
  exact ⟨fun ⟨hrelease, hcommit⟩ => ⟨hrelease, hcommit⟩, fun h => ⟨h.release, h.commit⟩⟩

theorem exactIn_eq_some_iff {catalog : Catalog} :
    name.exactIn catalog = some build ↔ name.IsExact catalog build := by
  rw [exactIn, Option.or_eq_some_iff, Option.filter_eq_some_iff, isReleasedAs_iff]
  constructor
  · rintro (hnamed | ⟨hnone, hversion, hrelease⟩)
    · exact .named hnamed
    · exact .released hnone hversion hrelease
  · rintro (hnamed | ⟨hnone, hversion, hrelease⟩)
    · exact .inl hnamed
    · exact .inr ⟨hnone, hversion, hrelease⟩

section Search

variable {find : Catalog → Option Build} {fits : Catalog → Build → Prop}
  (hfind : ∀ catalog build, find catalog = some build ↔ fits catalog build)

include hfind

theorem firstIn_eq_none_iff : firstIn find supplies = none ↔ Nowhere fits supplies := by
  simp only [firstIn, List.findSome?_eq_none_iff]
  constructor
  · intro h platform catalog build hmem hfits
    have hnone := h _ hmem
    simp [(hfind catalog build).2 hfits] at hnone
  · rintro h ⟨platform, supply⟩ hmem
    cases supply with
    | error fault => rfl
    | ok catalog =>
      cases hbuild : find catalog with
      | none => simp [hbuild]
      | some build => exact absurd ((hfind catalog build).1 hbuild) (h _ _ _ hmem)

theorem firstIn_eq_some_iff :
    firstIn find supplies = some (platform, build) ↔ First fits supplies platform build := by
  constructor
  · intro h
    obtain ⟨before, ⟨platform', supply⟩, behind, rfl, hfound, hbefore⟩ :=
      List.findSome?_eq_some_iff.1 h
    cases supply with
    | error fault => cases hfound
    | ok catalog =>
      simp only [Option.map_eq_some_iff, Prod.mk.injEq] at hfound
      obtain ⟨_, hbuild, rfl, rfl⟩ := hfound
      refine ⟨before, catalog, behind, rfl, (hfind _ _).1 hbuild, ?_⟩
      exact (firstIn_eq_none_iff hfind).1 (List.findSome?_eq_none_iff.2 hbefore)
  · rintro ⟨before, catalog, behind, rfl, hfits, hbefore⟩
    have hnone := (firstIn_eq_none_iff hfind).2 hbefore
    rw [firstIn] at hnone ⊢
    rw [List.findSome?_append, hnone, Option.none_or, List.findSome?_cons]
    simp [(hfind catalog build).2 hfits]

end Search

theorem firstFault_eq_none_iff : firstFault supplies = none ↔ AllLoaded supplies := by
  simp only [firstFault, List.findSome?_eq_none_iff]
  refine forall₂_congr fun supply _ => ?_
  obtain ⟨platform, supply⟩ := supply
  cases supply <;> simp

theorem firstFault_eq_some_iff : firstFault supplies = some fault ↔ FirstFault supplies fault := by
  constructor
  · intro h
    obtain ⟨before, ⟨platform, supply⟩, behind, rfl, hfound, hbefore⟩ :=
      List.findSome?_eq_some_iff.1 h
    cases supply with
    | ok catalog => cases hfound
    | error fault' =>
      cases hfound
      exact ⟨before, platform, behind, rfl,
        firstFault_eq_none_iff.1 (List.findSome?_eq_none_iff.2 hbefore)⟩
  · rintro ⟨before, platform, behind, rfl, hbefore⟩
    have hnone := firstFault_eq_none_iff.2 hbefore
    rw [firstFault] at hnone ⊢
    rw [List.findSome?_append, hnone]
    rfl

theorem exact_eq_none_iff :
    firstIn name.exactIn supplies = none ↔ Nowhere name.IsExact supplies :=
  firstIn_eq_none_iff fun _ _ => exactIn_eq_some_iff

theorem exact_eq_some_iff : firstIn name.exactIn supplies = some (platform, build) ↔
    First name.IsExact supplies platform build :=
  firstIn_eq_some_iff fun _ _ => exactIn_eq_some_iff

theorem sameVersion_eq_none_iff :
    firstIn name.sameVersionIn supplies = none ↔ Nowhere name.IsSameVersion supplies :=
  firstIn_eq_none_iff fun _ _ => Iff.rfl

theorem sameVersion_eq_some_iff : firstIn name.sameVersionIn supplies = some (platform, build) ↔
    First name.IsSameVersion supplies platform build :=
  firstIn_eq_some_iff fun _ _ => Iff.rfl

/-- What is selected serves, and nothing else does. -/
theorem select_eq_iff {result : Except CompilationFault Selection} :
    name.select supplies = result ↔ name.Serves supplies result := by
  constructor
  · rintro rfl
    unfold select
    cases hexact : firstIn name.exactIn supplies with
    | some found => exact .exact (exact_eq_some_iff.1 hexact)
    | none =>
      have hexact := exact_eq_none_iff.1 hexact
      rw [Option.none_or]
      cases hsame : firstIn name.sameVersionIn supplies with
      | some found => exact .sameVersion hexact (sameVersion_eq_some_iff.1 hsame)
      | none =>
        have hsame := sameVersion_eq_none_iff.1 hsame
        dsimp only
        cases hfault : firstFault supplies with
        | some fault => exact .unavailable hexact hsame (firstFault_eq_some_iff.1 hfault)
        | none => exact .missing hexact hsame (firstFault_eq_none_iff.1 hfault)
  · intro h
    unfold select
    cases h with
    | exact h => rw [exact_eq_some_iff.2 h, Option.some_or]
    | sameVersion hexact h =>
      rw [exact_eq_none_iff.2 hexact, sameVersion_eq_some_iff.2 h, Option.none_or]
    | unavailable hexact hsame h =>
      rw [exact_eq_none_iff.2 hexact, sameVersion_eq_none_iff.2 hsame, firstFault_eq_some_iff.2 h]
      rfl
    | missing hexact hsame h =>
      rw [exact_eq_none_iff.2 hexact, sameVersion_eq_none_iff.2 hsame, firstFault_eq_none_iff.2 h]
      rfl

/-- A build that serves is in the list of its platform, under one of the two versions
of the name. -/
theorem listed_of_select {selection : Selection} (h : name.select supplies = .ok selection) :
    selection.requested = name ∧
      ∃ catalog, (selection.platform, .ok catalog) ∈ supplies ∧
        (catalog.longVersion? name.longVersion = some selection.build ∨
          catalog.version? name.version = some selection.build) := by
  cases select_eq_iff.1 h with
  | exact hfirst =>
    obtain ⟨before, catalog, behind, rfl, hexact, -⟩ := hfirst
    refine ⟨rfl, catalog, by simp, ?_⟩
    cases hexact with
    | named hnamed => exact .inl hnamed
    | released _ hversion _ => exact .inr hversion
  | sameVersion _ hfirst =>
    obtain ⟨before, catalog, behind, rfl, hversion, -⟩ := hfirst
    exact ⟨rfl, catalog, by simp, .inr hversion⟩

/-- The exact build of a list is the last one with the long version, or failing that
the first release of the short version if it is that of the commit. -/
theorem isExact_ofBuilds {builds : List Build} :
    name.IsExact (.ofBuilds builds) build ↔
      (builds.reverse.find? fun build => build.longVersion = name.longVersion) = some build ∨
        (∀ other ∈ builds, other.longVersion ≠ name.longVersion) ∧
          (builds.find? fun build => build.version = name.version && build.isRelease) =
            some build ∧ name.IsReleaseOf build := by
  have hnamed : (Catalog.ofBuilds builds).longVersion? name.longVersion = none ↔
      ∀ other ∈ builds, other.longVersion ≠ name.longVersion := by
    simp [Catalog.longVersion?_ofBuilds]
  have hreleased (hrelease : name.IsReleaseOf build) :
      (Catalog.ofBuilds builds).version? name.version = some build ↔
        (builds.find? fun build => build.version = name.version && build.isRelease) =
          some build :=
    Catalog.release_of_version? (Option.isNone_iff_eq_none.2 hrelease.release)
  constructor
  · rintro (hlong | ⟨hnone, hversion, hrelease⟩)
    · exact .inl (Catalog.longVersion?_ofBuilds builds _ ▸ hlong)
    · exact .inr ⟨hnamed.1 hnone, (hreleased hrelease).1 hversion, hrelease⟩
  · rintro (hlong | ⟨hnone, hfirst, hrelease⟩)
    · exact .named ((Catalog.longVersion?_ofBuilds builds _).trans hlong)
    · exact .released (hnamed.2 hnone) ((hreleased hrelease).2 hfirst) hrelease

end CompilerName

namespace Releases

variable {r : Releases} {network : Net.Network} {portable : Platform} {native : Option Platform}

/-- The platforms of the supplies, the native one first. -/
theorem platforms_of_supplies (r : Releases) (network : Net.Network) (portable : Platform)
    (native : Option Platform) :
    (r.supplies network portable native).2.2.map Prod.fst = native.toList ++ [portable] := by
  cases native with
  | none => rfl
  | some native => rfl

theorem extends_supplies (r : Releases) (network : Net.Network) (portable : Platform)
    (native : Option Platform) : r.Extends (r.supplies network portable native).1 := by
  cases native with
  | none => exact r.extends_get network portable
  | some native => exact (r.extends_get network portable).trans (extends_get _ _ native)

/-- The catalogs among the supplies are loaded. -/
theorem loaded_of_supplies {platform : Platform} {catalog : Catalog}
    (h : (platform, .ok catalog) ∈ (r.supplies network portable native).2.2) :
    (r.supplies network portable native).1.loaded.lookup platform = some catalog := by
  cases native with
  | none =>
    obtain ⟨rfl, hget⟩ := Prod.mk.inj (List.mem_singleton.1 h)
    exact loaded_of_get hget.symm
  | some native =>
    rcases List.mem_cons.1 h with h | h
    · obtain ⟨rfl, hget⟩ := Prod.mk.inj h
      exact loaded_of_get hget.symm
    · obtain ⟨rfl, hget⟩ := Prod.mk.inj (List.mem_singleton.1 h)
      exact (extends_get _ _ native).keeps (loaded_of_get hget.symm)

/-- A build that is chosen is listed by the catalog that is loaded of its platform,
under one of the versions of the name. -/
theorem listed_of_resolve {name : CompilerName} {selection : Selection}
    (h : (r.resolve network name portable native).2.2 = .ok selection) :
    selection.requested = name ∧ selection.platform ∈ native.toList ++ [portable] ∧
      ∃ catalog,
        (r.resolve network name portable native).1.loaded.lookup selection.platform =
          some catalog ∧
        (catalog.longVersion? name.longVersion = some selection.build ∨
          catalog.version? name.version = some selection.build) := by
  obtain ⟨hrequested, catalog, hmem, hkey⟩ := CompilerName.listed_of_select h
  refine ⟨hrequested, ?_, catalog, loaded_of_supplies hmem, hkey⟩
  rw [← r.platforms_of_supplies network portable native]
  exact List.mem_map_of_mem (f := Prod.fst) hmem

end Releases

/-- A name is served by the first match among the catalogs that can be had: the
exact build of the native catalog, that of the portable one, then the build of the
short version in the same order. Where nothing matches, the first failure to have a
catalog is reported, native before portable, and the version is missing only if
there was none. A build that is chosen has the long or the short version of the name.
Of a list, the exact build is the last one with the long version or else the first
release of the short version if it has the commit, and the build of the short version
is its first release or else its first build. -/
theorem first_match_served (name : CompilerName) :
    (∀ supplies result, name.select supplies = result ↔ name.Serves supplies result) ∧
    (∀ (r : Releases) (network : Net.Network) (portable : Platform) (native : Option Platform),
      (r.supplies network portable native).2.2.map Prod.fst = native.toList ++ [portable] ∧
      name.Serves (r.supplies network portable native).2.2
        (r.resolve network name portable native).2.2 ∧
      (r.Listed → ∀ selection, (r.resolve network name portable native).2.2 = .ok selection →
        selection.requested = name ∧ selection.platform ∈ native.toList ++ [portable] ∧
          (selection.build.longVersion = name.longVersion ∨
            selection.build.version = name.version))) ∧
    ∀ (builds : List Build) (build : Build),
      (name.IsExact (.ofBuilds builds) build ↔
        (builds.reverse.find? fun build => build.longVersion = name.longVersion) = some build ∨
          (∀ other ∈ builds, other.longVersion ≠ name.longVersion) ∧
            (builds.find? fun build => build.version = name.version && build.isRelease) =
              some build ∧ name.IsReleaseOf build) ∧
      (name.IsSameVersion (.ofBuilds builds) build ↔
        (builds.find? fun build => build.version = name.version && build.isRelease).or
          (builds.find? fun build => build.version = name.version) = some build) := by
  refine ⟨fun supplies result => CompilerName.select_eq_iff, ?_, ?_⟩
  · intro r network portable native
    refine ⟨r.platforms_of_supplies network portable native, CompilerName.select_eq_iff.1 rfl, ?_⟩
    intro hlisted selection hselection
    obtain ⟨hrequested, hplatform, catalog, hloaded, hkey⟩ := Releases.listed_of_resolve hselection
    have hextends := r.extends_supplies network portable native
    obtain ⟨builds, rfl⟩ := hextends.listed hlisted _ _ hloaded
    refine ⟨hrequested, hplatform, ?_⟩
    rcases hkey with hlong | hversion
    · exact .inl (Catalog.mem_of_longVersion? hlong).2
    · exact .inr (Catalog.mem_of_version? hversion).2
  · intro builds build
    refine ⟨CompilerName.isExact_ofBuilds, ?_⟩
    rw [CompilerName.IsSameVersion, Catalog.version?_ofBuilds]

/-- A native preview of the short version yields to the portable release of the name. -/
theorem portable_release_first :
    let build (longVersion : String) (prerelease : Option String) : Build :=
      { path := longVersion, url := { scheme := "http" }, version := "0.8.9",
        longVersion, commit := some "e5eed63a", prerelease, keccak256 := none, sha256 := none,
        urls := [] }
    let name : CompilerName := ⟨0, 8, 9, "e5eed63a"⟩
    let preview := build "0.8.9-nightly.2021.9.8+commit.e5eed63a" (some "nightly.2021.9.8")
    let release := build "0.8.9+commit.e5eed63a" none
    name.select [(.linux, .ok (.ofBuilds [preview])), (.wasm, .ok (.ofBuilds [release]))] =
      .ok ⟨.wasm, release, name⟩ := by
  intro build name preview release
  obtain ⟨hselect, -, hlist⟩ := first_match_served name
  have hrelease : name.IsExact (.ofBuilds [release]) release := (hlist _ _).1.2 (.inl (by decide))
  refine (hselect _ _).2 (.exact ⟨[(.linux, .ok (.ofBuilds [preview]))], _, [], rfl, hrelease, ?_⟩)
  rintro platform catalog found hmem hexact
  obtain ⟨-, ⟨⟩⟩ := Prod.mk.inj (List.mem_singleton.1 hmem)
  rcases (hlist _ _).1.1 hexact with hlong | ⟨-, hfirst, -⟩
  · have hnone : ([preview].reverse.find? fun build => build.longVersion = name.longVersion) =
        none := by decide
    cases hnone.symm.trans hlong
  · have hnone : ([preview].find? fun build => build.version = name.version && build.isRelease) =
        none := by decide
    cases hnone.symm.trans hfirst

end Provenance
