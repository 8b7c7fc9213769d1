import Provenance.Proofs.Compiler.Selection

/-!
What an exact build is worth. A list gives the commit of a build as a text with the
mark of commits in front of it, and nothing keeps that text from ending with the
mark. Then the commit is empty, and every commit begins with it. So a release
without a commit stands for any commit of its version, and where its catalog comes
first it hides the very build that a later catalog has.
-/

namespace Provenance

namespace ListedBuild

theorem dropMarks_append (text : List Char) : dropMarks (commitMark ++ text) = dropMarks text := by
  rw [dropMarks, if_pos (List.isPrefixOf_iff_prefix.2 (List.prefix_append ..)), List.drop_left]

/-- Nothing is left of a text exactly if it is made of marks. -/
theorem dropMarks_eq_nil_iff {text : List Char} :
    dropMarks text = [] ↔ ∃ count, text = (List.replicate count commitMark).flatten := by
  constructor
  · induction text using dropMarks.induct with
    | case1 text hmark ih =>
      obtain ⟨rest, rfl⟩ := List.isPrefixOf_iff_prefix.1 hmark
      rw [List.drop_left] at ih
      rw [dropMarks_append]
      intro h
      obtain ⟨count, hrest⟩ := ih h
      exact ⟨count + 1, by rw [hrest, List.replicate_succ, List.flatten_cons]⟩
    | case2 text hmark =>
      rw [dropMarks, if_neg hmark]
      rintro rfl
      exact ⟨0, rfl⟩
  · rintro ⟨count, rfl⟩
    induction count with
    | zero => rw [List.replicate_zero, List.flatten_nil, dropMarks, if_neg (by decide)]
    | succ count ih => rw [List.replicate_succ, List.flatten_cons, dropMarks_append, ih]

/-- The commit of an entry is empty exactly if its text is made of marks. -/
theorem commit_eq_empty_iff {entry : ListedBuild} :
    entry.commit = some "" ↔
      ∃ count, entry.build = some (String.ofList (List.replicate count commitMark).flatten) := by
  rw [commit, Option.map_eq_some_iff]
  constructor
  · rintro ⟨text, hbuild, hempty⟩
    have hnil : dropMarks text.toList = [] := by
      rw [← String.toList_ofList (l := dropMarks text.toList), hempty, String.toList_empty]
    obtain ⟨count, htext⟩ := dropMarks_eq_nil_iff.1 hnil
    exact ⟨count, by rw [hbuild, ← htext, String.ofList_toList]⟩
  · rintro ⟨count, hbuild⟩
    refine ⟨_, hbuild, ?_⟩
    rw [String.toList_ofList, dropMarks_eq_nil_iff.2 ⟨count, rfl⟩]

end ListedBuild

namespace CompilerName

open Supply

variable {name : CompilerName} {supplies : List Supply} {builds : List Build} {build : Build}

inductive IsTrueMatch (name : CompilerName) (build : Build) : Prop
  | named (h : build.longVersion = name.longVersion)
  | released (hversion : build.version = name.version) (hrelease : build.prerelease = none)
      (hcommit : ∃ commit, build.commit = some commit ∧ commit ≠ "" ∧
        CommitsAgree name.commit commit)

/-- A release of an empty commit that counts as the exact build of a list, which has
no build with the long version. -/
structure IsShadow (name : CompilerName) (builds : List Build) (build : Build) : Prop where
  unlisted : ∀ other ∈ builds, other.longVersion ≠ name.longVersion
  first : (builds.find? fun build => build.version = name.version && build.isRelease) = some build
  commit : build.commit = some ""

theorem commitsAgree_empty (commit : String) : CommitsAgree commit "" := by
  refine .inr ?_
  rw [String.toList_empty, List.map_nil]
  exact List.nil_prefix

theorem IsShadow.mem (h : name.IsShadow builds build) : build ∈ builds :=
  List.mem_of_find?_eq_some h.first

theorem IsShadow.isExact (h : name.IsShadow builds build) :
    name.IsExact (.ofBuilds builds) build := by
  refine isExact_ofBuilds.2 (.inr ⟨h.unlisted, h.first, ?_, "", h.commit, commitsAgree_empty _⟩)
  have hrelease := List.find?_some h.first
  simp only [Bool.and_eq_true, decide_eq_true_eq] at hrelease
  exact Option.isNone_iff_eq_none.1 hrelease.2

theorem IsShadow.not_isTrueMatch (h : name.IsShadow builds build) : ¬ name.IsTrueMatch build := by
  rintro (hlong | ⟨-, -, commit, hcommit, hne, -⟩)
  · exact h.unlisted build h.mem hlong
  · exact hne (Option.some.inj (hcommit.symm.trans h.commit))

/-- An exact build is one that the name stands for, unless it is a shadow. -/
theorem isTrueMatch_or_isShadow (h : name.IsExact (.ofBuilds builds) build) :
    name.IsTrueMatch build ∨ name.IsShadow builds build := by
  rcases isExact_ofBuilds.1 h with hlong | ⟨hunlisted, hfirst, hrelease, commit, hcommit, hagree⟩
  · have hnamed := List.find?_some hlong
    exact .inl (.named (of_decide_eq_true hnamed))
  · by_cases hempty : commit = ""
    · exact .inr ⟨hunlisted, hfirst, hempty ▸ hcommit⟩
    · have hversion := List.find?_some hfirst
      simp only [Bool.and_eq_true, decide_eq_true_eq] at hversion
      exact .inl (.released hversion.1 hrelease ⟨commit, hcommit, hempty, hagree⟩)

/-- Without empty commits in a list, the name stands for the list's exact build. -/
theorem isTrueMatch_of_commits (hcommits : ∀ build ∈ builds, build.commit ≠ some "")
    (h : name.IsExact (.ofBuilds builds) build) : name.IsTrueMatch build := by
  rcases isTrueMatch_or_isShadow h with hmatch | hshadow
  · exact hmatch
  · exact absurd hshadow.commit (hcommits build hshadow.mem)

/-- A list with the long version has an exact build. -/
theorem exists_isExact_of_mem (hmem : build ∈ builds)
    (hlong : build.longVersion = name.longVersion) :
    ∃ found, name.IsExact (.ofBuilds builds) found := by
  cases hfound : builds.reverse.find? fun build => build.longVersion = name.longVersion with
  | some found => exact ⟨found, isExact_ofBuilds.2 (.inl hfound)⟩
  | none =>
    have hnone := List.find?_eq_none.1 hfound build (List.mem_reverse.2 hmem)
    exact absurd (decide_eq_true hlong) hnone

/-- Where some supply has an exact build, the first exact build is selected. -/
theorem select_of_isExact {platform : Platform} {catalog : Catalog}
    (hsupply : (platform, .ok catalog) ∈ supplies) (hexact : name.IsExact catalog build) :
    ∃ selection, name.select supplies = .ok selection ∧ selection.requested = name ∧
      First name.IsExact supplies selection.platform selection.build := by
  cases hfound : firstIn name.exactIn supplies with
  | some found =>
    have hfirst := exact_eq_some_iff.1 hfound
    exact ⟨_, select_eq_iff.2 (.exact hfirst), rfl, hfirst⟩
  | none => exact absurd hexact (exact_eq_none_iff.1 hfound _ _ _ hsupply)

end CompilerName

open CompilerName in
/-- Where a catalog at hand lists a build with the long version of a name, a build is
chosen, and the name stands for it in all cases but one: the first catalog with an
exact build does not list the long version, and its first release of the short
version has an empty commit. That is how an entry reads whose text is made of
nothing but the marks of commits. -/
theorem chosen_unless_shadowed (name : CompilerName) (r : Releases) (network : Net.Network)
    (portable : Platform) (native : Option Platform) (hlisted : r.Listed)
    (hthere : ∃ platform builds build,
      (platform, .ok (.ofBuilds builds)) ∈ (r.supplies network portable native).2.2 ∧
        build ∈ builds ∧ build.longVersion = name.longVersion) :
    (∃ selection, (r.resolve network name portable native).2.2 = .ok selection ∧
      selection.requested = name ∧
      (¬ name.IsTrueMatch selection.build ↔
        ∃ before builds behind,
          (r.supplies network portable native).2.2 =
            before ++ (selection.platform, .ok (.ofBuilds builds)) :: behind ∧
          Supply.Nowhere name.IsExact before ∧ name.IsShadow builds selection.build)) ∧
    ∀ entry : ListedBuild, entry.commit = some "" ↔
      ∃ count, entry.build =
        some (String.ofList (List.replicate count ListedBuild.commitMark).flatten) := by
  refine ⟨?_, fun entry => ListedBuild.commit_eq_empty_iff⟩
  obtain ⟨platform, builds, build, hsupply, hmem, hlong⟩ := hthere
  obtain ⟨found, hexact⟩ := exists_isExact_of_mem hmem hlong
  obtain ⟨selection, hselect, hrequested, hfirst⟩ := select_of_isExact hsupply hexact
  refine ⟨selection, hselect, hrequested, ?_⟩
  constructor
  · intro hfalse
    obtain ⟨before, catalog, behind, hsupplies, hchosen, hbefore⟩ := hfirst
    have hloaded : (r.supplies network portable native).1.loaded.lookup selection.platform =
        some catalog :=
      Releases.loaded_of_supplies (by rw [hsupplies]; simp)
    have hextends := r.extends_supplies network portable native
    obtain ⟨chosenBuilds, rfl⟩ := hextends.listed hlisted _ _ hloaded
    rcases isTrueMatch_or_isShadow hchosen with hmatch | hshadow
    · exact absurd hmatch hfalse
    · exact ⟨before, chosenBuilds, behind, hsupplies, hbefore, hshadow⟩
  · rintro ⟨before, builds, behind, -, -, hshadow⟩
    exact hshadow.not_isTrueMatch

open CompilerName in
/-- A native release with fewer digits of the commit serves a name, which stands for
it. -/
theorem abbreviated_release_chosen :
    let build (commit : String) : Build :=
      { path := "", url := { scheme := "http" }, version := "0.8.9",
        longVersion := "0.8.9+commit." ++ commit, commit := some commit, prerelease := none,
        keccak256 := none, sha256 := none, urls := [] }
    let name : CompilerName := ⟨0, 8, 9, "e5eed63a"⟩
    let r := ((Releases.ofHost { scheme := "http" } []).keep .wasm
      (.ofBuilds [build "e5eed63a"])).keep .linux (.ofBuilds [build "E5EED6"])
    ∃ selection, (r.resolve .offline name .wasm (some .linux)).2.2 = .ok selection ∧
      name.IsTrueMatch selection.build := by
  intro build name r
  have hlisted : r.Listed :=
    (Releases.extends_keep rfl).listed ((Releases.extends_keep rfl).listed
      (Releases.listed_of_nil rfl))
  have hsupplies : (r.supplies .offline .wasm (some .linux)).2.2 =
      [(.linux, .ok (.ofBuilds [build "E5EED6"])), (.wasm, .ok (.ofBuilds [build "e5eed63a"]))] :=
    rfl
  obtain ⟨⟨selection, hresolve, -, hfalse⟩, -⟩ :=
    chosen_unless_shadowed name r .offline .wasm (some .linux) hlisted
      ⟨.wasm, [build "e5eed63a"], build "e5eed63a", by rw [hsupplies]; simp, by simp, by decide⟩
  refine ⟨selection, hresolve, ?_⟩
  by_contra h
  obtain ⟨before, builds, behind, hsplit, -, hshadow⟩ := hfalse.1 h
  have hmem : (selection.platform, .ok (.ofBuilds builds)) ∈
      (r.supplies .offline .wasm (some .linux)).2.2 := by
    rw [hsplit]
    simp
  have hexact := hshadow.isExact
  simp only [hsupplies, List.mem_cons, List.not_mem_nil, or_false, Prod.mk.injEq,
    Except.ok.injEq] at hmem
  rcases hmem with ⟨-, heq⟩ | ⟨-, heq⟩
  · rw [heq] at hexact
    exact h (isTrueMatch_of_commits (by simp [build]) hexact)
  · rw [heq] at hexact
    exact h (isTrueMatch_of_commits (by simp [build]) hexact)

/-- A native release with an empty commit hides the build that was asked for. -/
theorem named_build_hidden :
    let build (longVersion commit : String) : Build :=
      { path := "", url := { scheme := "http" }, version := "0.8.9", longVersion,
        commit := some commit, prerelease := none, keccak256 := none, sha256 := none, urls := [] }
    let name : CompilerName := ⟨0, 8, 9, "e5eed63a"⟩
    let unnamed := build "0.8.9" ""
    let named := build "0.8.9+commit.e5eed63a" "e5eed63a"
    let r := ((Releases.ofHost { scheme := "http" } []).keep .wasm (.ofBuilds [named])).keep
      .linux (.ofBuilds [unnamed])
    named.longVersion = name.longVersion ∧ ¬ name.IsTrueMatch unnamed ∧
      (r.resolve .offline name .wasm (some .linux)).2.2 = .ok ⟨.linux, unnamed, name⟩ := by
  intro build name unnamed named r
  have hshadow : name.IsShadow [unnamed] unnamed := ⟨by decide, by decide, rfl⟩
  refine ⟨by decide, hshadow.not_isTrueMatch, CompilerName.select_eq_iff.2 (.exact ?_)⟩
  exact ⟨[], _, _, rfl, hshadow.isExact, by simp [Supply.Nowhere]⟩

end Provenance
