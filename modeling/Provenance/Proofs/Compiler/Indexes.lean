import Mathlib.Data.List.Perm.Basic
import Provenance.Proofs.Compiler.Catalog

/-!
The catalog of a list of entries. They are put in one after the other, and one that leads
nowhere spoils the list. What the indexes hold in the end depends on the whole list: by a
long version the last build, by a short version the first release, or the first build where
there is no release. So where one release has a short version, it is found in whatever
order the list gives its entries.
-/

namespace Provenance

section Lists

variable {ε α β γ : Type} {f : α → Except ε β}

theorem exists_mapM_eq_ok {xs : List α} (h : ∀ x ∈ xs, ∃ y, f x = .ok y) :
    ∃ ys, xs.mapM f = .ok ys := by
  cases hmapped : xs.mapM f with
  | ok ys => exact ⟨ys, rfl⟩
  | error e =>
    obtain ⟨before, x, behind, rfl, -, hx⟩ := mapM_eq_error_iff.1 hmapped
    obtain ⟨y, hy⟩ := h x (List.mem_append_right _ List.mem_cons_self)
    cases hx.symm.trans hy

/-- In another order a list comes to the same, in another order. -/
theorem exists_mapM_perm {xs xs' : List α} {ys : List β} (hperm : xs'.Perm xs)
    (h : xs.mapM f = .ok ys) : ∃ ys', xs'.mapM f = .ok ys' ∧ ys'.Perm ys := by
  have hmap := mapM_eq_ok_iff.1 h
  obtain ⟨ys', hys'⟩ : ∃ ys', xs'.mapM f = .ok ys' := by
    apply exists_mapM_eq_ok
    intro x hx
    have hmem : f x ∈ ys.map .ok := by
      rw [← hmap]
      exact List.mem_map_of_mem (hperm.mem_iff.1 hx)
    obtain ⟨y, -, hy⟩ := List.mem_map.1 hmem
    exact ⟨y, hy.symm⟩
  have hboth := hperm.map f
  rw [mapM_eq_ok_iff.1 hys', hmap] at hboth
  exact ⟨ys', hys', (List.map_perm_map_iff fun _ _ heq => Except.ok.inj heq).1 hboth⟩

/-- Results that are put in as they come are those of the list, put in afterwards. -/
theorem foldlM_eq_map_foldl (g : γ → β → γ) (xs : List α) (start : γ) :
    xs.foldlM (fun acc x => (f x).map (g acc)) start =
      (xs.mapM f).map fun ys => ys.foldl g start := by
  induction xs generalizing start with
  | nil => rfl
  | cons x xs ih =>
    rw [List.foldlM_cons, List.mapM_cons]
    cases f x with
    | error e => rfl
    | ok y =>
      change xs.foldlM _ (g start y) = _
      rw [ih]
      cases xs.mapM f with
      | error e => rfl
      | ok ys => rfl

end Lists

namespace ListedBuild

variable {list : Url} {entry : ListedBuild}

/-- An entry is a build where its path leads somewhere. -/
theorem exists_toBuild_iff :
    (∃ build, entry.toBuild list = .ok build) ↔ ∃ url, list.join entry.path = .ok url := by
  unfold toBuild
  cases list.join entry.path with
  | error fault => simp [bind, Except.bind]
  | ok url => simp [bind, Except.bind]

theorem toBuild_eq_error_iff {fault : Url.Fault} :
    entry.toBuild list = .error fault ↔ list.join entry.path = .error fault := by
  unfold toBuild
  cases list.join entry.path with
  | error fault => simp [bind, Except.bind]
  | ok url => simp [bind, Except.bind]

end ListedBuild

namespace Catalog

def ofEntries (list : Url) (entries : List ListedBuild) : Except Url.Fault Catalog :=
  entries.foldlM (fun catalog entry => (entry.toBuild list).map catalog.add) empty

variable {list : Url} {entries : List ListedBuild} {builds : List Build} {release : Build}
  {version : String}

theorem ofEntries_eq (list : Url) (entries : List ListedBuild) :
    ofEntries list entries = (entries.mapM (ListedBuild.toBuild list)).map ofBuilds :=
  foldlM_eq_map_foldl add entries empty

theorem ofEntries_eq_ok (h : entries.mapM (ListedBuild.toBuild list) = .ok builds) :
    ofEntries list entries = .ok (ofBuilds builds) := by
  rw [ofEntries_eq, h]
  rfl

/-- What is wrong with a list is the first path in it that leads nowhere. -/
theorem ofEntries_eq_error_iff {fault : Url.Fault} :
    ofEntries list entries = .error fault ↔
      ∃ before entry behind, entries = before ++ entry :: behind ∧
        (∀ entry ∈ before, ∃ url, list.join entry.path = .ok url) ∧
        list.join entry.path = .error fault := by
  have hmapped : ofEntries list entries = .error fault ↔
      entries.mapM (ListedBuild.toBuild list) = .error fault := by
    rw [ofEntries_eq]
    cases entries.mapM (ListedBuild.toBuild list) with
    | error fault => simp [Except.map]
    | ok builds => simp [Except.map]
  simp only [hmapped, mapM_eq_error_iff, ListedBuild.exists_toBuild_iff,
    ListedBuild.toBuild_eq_error_iff]

/-- A path that leads nowhere spoils the list. -/
theorem exists_ofEntries_eq_error {entry : ListedBuild} (hentry : entry ∈ entries)
    (hnowhere : ∀ url, list.join entry.path ≠ .ok url) :
    ∃ fault, ofEntries list entries = .error fault := by
  rw [ofEntries_eq]
  cases hbuilds : entries.mapM (ListedBuild.toBuild list) with
  | error fault => exact ⟨fault, rfl⟩
  | ok builds =>
    have hmem : entry.toBuild list ∈ builds.map .ok := by
      rw [← mapM_eq_ok_iff.1 hbuilds]
      exact List.mem_map_of_mem hentry
    obtain ⟨build, -, hbuild⟩ := List.mem_map.1 hmem
    obtain ⟨url, hurl⟩ := ListedBuild.exists_toBuild_iff.1 ⟨build, hbuild.symm⟩
    exact absurd hurl (hnowhere url)

/-- A release that has its short version alone is found by it. -/
theorem version?_of_filter
    (h : builds.filter (fun build => build.version = version && build.isRelease) = [release]) :
    (ofBuilds builds).version? version = some release := by
  rw [version?_ofBuilds, ← List.head?_filter, h]
  rfl

/-- What is fetched is the catalog of the entries that were read. -/
theorem fetch_eq_ofEntries {network : Net.Network} {content : Bytes}
    (hcontent : (Provenance.fetch network list).2 = .ok content)
    (hread : Manifest.read content = .ok entries) :
    (fetch network list).2 = (ofEntries list entries).mapError .badUrl := by
  simp only [fetch, hcontent, Manifest.builds, ofEntries_eq, bind, Except.bind, hread,
    Except.mapError]
  cases entries.mapM (ListedBuild.toBuild list) with
  | error fault => rfl
  | ok builds => rfl

/-- If all paths of a list lead somewhere, there is a catalog of the builds that its entries
stand for. By a short version it finds the first release that has it, or the first build
where no release does, and by a long version the last build. A release that has its short
version alone is found by it whatever the order of the entries is. If any path leads nowhere,
there is no catalog. A catalog that is fetched is made so of the entries that were read. -/
theorem indexes_follow_list (list : Url) (entries : List ListedBuild) :
    ((∀ entry ∈ entries, ∃ url, list.join entry.path = .ok url) →
      ∃ (catalog : Catalog) (builds : List Build), ofEntries list entries = .ok catalog ∧
        entries.map (ListedBuild.toBuild list) = builds.map .ok ∧
        (∀ version, catalog.version? version =
          (builds.find? fun build => build.version = version && build.isRelease).or
            (builds.find? fun build => build.version = version)) ∧
        (∀ longVersion, catalog.longVersion? longVersion =
          builds.reverse.find? fun build => build.longVersion = longVersion) ∧
        ∀ version release,
          builds.filter (fun build => build.version = version && build.isRelease) = [release] →
          ∀ permuted : List ListedBuild, permuted.Perm entries →
            ∃ catalog', ofEntries list permuted = .ok catalog' ∧
              catalog'.version? version = some release) ∧
    ((∃ entry ∈ entries, ∀ url, list.join entry.path ≠ .ok url) →
      ∃ entry ∈ entries, ∃ fault, list.join entry.path = .error fault ∧
        ofEntries list entries = .error fault) ∧
    ∀ network content, (Provenance.fetch network list).2 = .ok content →
      Manifest.read content = .ok entries →
      (fetch network list).2 = (ofEntries list entries).mapError .badUrl := by
  refine ⟨?_, ?_, ?_⟩
  · intro hpaths
    obtain ⟨builds, hbuilds⟩ : ∃ builds, entries.mapM (ListedBuild.toBuild list) = .ok builds := by
      apply exists_mapM_eq_ok
      intro entry hentry
      exact ListedBuild.exists_toBuild_iff.2 (hpaths entry hentry)
    refine ⟨ofBuilds builds, builds, ofEntries_eq_ok hbuilds, mapM_eq_ok_iff.1 hbuilds,
      version?_ofBuilds builds, longVersion?_ofBuilds builds, ?_⟩
    intro version release halone permuted hperm
    obtain ⟨builds', hbuilds', hperm'⟩ := exists_mapM_perm hperm hbuilds
    have halone' := hperm'.filter fun build => build.version = version && build.isRelease
    rw [halone, List.perm_singleton] at halone'
    exact ⟨ofBuilds builds', ofEntries_eq_ok hbuilds', version?_of_filter halone'⟩
  · rintro ⟨entry, hentry, hnowhere⟩
    obtain ⟨fault, hlisted⟩ := exists_ofEntries_eq_error hentry hnowhere
    obtain ⟨before, wrong, behind, rfl, -, hwrong⟩ := ofEntries_eq_error_iff.1 hlisted
    exact ⟨wrong, List.mem_append_right _ List.mem_cons_self, fault, hwrong, hlisted⟩
  · intro network content hcontent hread
    exact fetch_eq_ofEntries hcontent hread

/-- Between two previews or behind them, the release is what its short version leads to. -/
theorem release_found_behind_previews :
    let list : Url := { scheme := "https", host := some (.domain "h"), path := "/list.json" }
    let entry (longVersion : String) (prerelease : Option String) : ListedBuild :=
      { path := longVersion, version := "0.8.9", longVersion, build := none, prerelease,
        keccak256 := none, sha256 := none, urls := [] }
    let build (longVersion : String) (prerelease : Option String) : Build :=
      { path := longVersion, url := { list with path := "/" ++ longVersion }, version := "0.8.9",
        longVersion, commit := none, prerelease, keccak256 := none, sha256 := none, urls := [] }
    let early := entry "0.8.9-nightly.10" (some "nightly.10")
    let late := entry "0.8.9-nightly.29" (some "nightly.29")
    ∃ catalog, ofEntries list [late, early, entry "0.8.9" none] = .ok catalog ∧
      catalog.version? "0.8.9" = some (build "0.8.9" none) := by
  intro list entry build early late
  have hplaced (path : String)
      (h : (list.join path).toOption = some { list with path := "/" ++ path }) :
      list.join path = .ok { list with path := "/" ++ path } := by
    cases hurl : list.join path with
    | error fault => simp [hurl, Except.toOption] at h
    | ok url => simpa [hurl, Except.toOption] using h
  have hfirst := hplaced "0.8.9-nightly.10" (by decide)
  have hsecond := hplaced "0.8.9" (by decide)
  have hthird := hplaced "0.8.9-nightly.29" (by decide)
  have hpaths : ∀ other ∈ [early, entry "0.8.9" none, late],
      ∃ url, list.join other.path = .ok url := by
    simp only [List.forall_mem_cons, List.not_mem_nil, false_imp_iff, implies_true, and_true]
    exact ⟨⟨_, hfirst⟩, ⟨_, hsecond⟩, ⟨_, hthird⟩⟩
  obtain ⟨-, builds, -, hbuilds, -, -, halone⟩ :=
    (indexes_follow_list list [early, entry "0.8.9" none, late]).1 hpaths
  have hlisted : [early, entry "0.8.9" none, late].map (ListedBuild.toBuild list) =
      [build "0.8.9-nightly.10" (some "nightly.10"), build "0.8.9" none,
        build "0.8.9-nightly.29" (some "nightly.29")].map .ok := by
    simp only [List.map_cons, List.map_nil, ListedBuild.toBuild, early, late, entry, hfirst,
      hsecond, hthird]
    rfl
  obtain rfl := List.map_injective_iff.2 (fun _ _ heq => Except.ok.inj heq)
    (hbuilds.symm.trans hlisted)
  exact halone "0.8.9" _ rfl _ (by decide)

end Catalog

end Provenance
