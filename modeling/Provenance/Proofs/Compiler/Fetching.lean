import Mathlib.Tactic.SplitIfs
import Provenance.Compiler.Releases

/-!
What fetching comes to. A file is had or not by what its address answers. A catalog
takes four steps, and it is there only after the last: the place of its list is made
out, the list is fetched, it is read, and the place of every build in it is made out.
-/

namespace Provenance

/-- What fetching a file comes to, by what its address answers. -/
inductive Fetches (network : Net.Network) (url : Url) : Except FetchFault Bytes → Prop
  | delivered {status : Nat} {body : Bytes}
      (hreply : (network.send ⟨.get, url, []⟩).2 = .ok ⟨status, body⟩)
      (hstatus : Net.isSuccess status = true) : Fetches network url (.ok body)
  | missing {body : Bytes} (hreply : (network.send ⟨.get, url, []⟩).2 = .ok ⟨404, body⟩) :
      Fetches network url (.error (.notFound url))
  | refused {status : Nat} {body : Bytes}
      (hreply : (network.send ⟨.get, url, []⟩).2 = .ok ⟨status, body⟩) (hmissing : status ≠ 404)
      (hstatus : Net.isSuccess status = false) :
      Fetches network url (.error (.badStatus url status))
  | unanswered {cause : Net.Fault} (hreply : (network.send ⟨.get, url, []⟩).2 = .error cause) :
      Fetches network url (.error (.request cause))

theorem fetch_eq_iff {network : Net.Network} {url : Url} {result : Except FetchFault Bytes} :
    (fetch network url).2 = result ↔ Fetches network url result := by
  constructor
  · rintro rfl
    unfold fetch
    cases hreply : (network.send ⟨.get, url, []⟩).2 with
    | error cause =>
      simp only [hreply]
      exact .unanswered hreply
    | ok response =>
      obtain ⟨status, body⟩ := response
      simp only [hreply]
      split_ifs with hmissing hstatus
      · exact .missing (hmissing ▸ hreply)
      · exact .delivered hreply hstatus
      · exact .refused hreply hmissing (eq_false_of_ne_true hstatus)
  · intro h
    unfold fetch
    cases h with
    | @delivered status body hreply hstatus =>
      have hfound : status ≠ 404 := by
        rintro rfl
        cases hstatus
      simp only [hreply, if_neg hfound, hstatus, if_true]
    | missing hreply => simp only [hreply, if_true]
    | refused hreply hmissing hstatus =>
      simp only [hreply, if_neg hmissing, hstatus, Bool.false_eq_true, if_false]
    | unanswered hreply => simp only [hreply]

section Lists

variable {ε α β : Type} {f : α → Except ε β} {xs : List α}

theorem mapM_eq_ok_iff {ys : List β} : xs.mapM f = .ok ys ↔ xs.map f = ys.map .ok := by
  induction xs generalizing ys with
  | nil => cases ys <;> simp [pure, Except.pure]
  | cons x xs ih =>
    rw [List.mapM_cons, List.map_cons]
    cases ys with
    | nil => cases f x <;> cases xs.mapM f <;> simp [bind, Except.bind, pure, Except.pure]
    | cons y ys =>
      rw [List.map_cons, List.cons.injEq, ← ih]
      cases f x <;> cases xs.mapM f <;> simp [bind, Except.bind, pure, Except.pure]

/-- The first failure is that of a list. -/
theorem mapM_eq_error_iff {e : ε} :
    xs.mapM f = .error e ↔ ∃ before x behind, xs = before ++ x :: behind ∧
      (∀ x ∈ before, ∃ y, f x = .ok y) ∧ f x = .error e := by
  induction xs with
  | nil => simp [pure, Except.pure]
  | cons x xs ih =>
    rw [List.mapM_cons]
    constructor
    · intro h
      cases hx : f x with
      | error e' =>
        rw [hx] at h
        cases h
        exact ⟨[], x, xs, rfl, nofun, hx⟩
      | ok y =>
        cases hxs : xs.mapM f with
        | error e' =>
          rw [hx, hxs] at h
          cases h
          obtain ⟨before, x', behind, rfl, hbefore, hx'⟩ := ih.1 hxs
          refine ⟨x :: before, x', behind, rfl, fun z hz => ?_, hx'⟩
          rcases List.mem_cons.1 hz with rfl | hz
          · exact ⟨y, hx⟩
          · exact hbefore z hz
        | ok ys =>
          rw [hx, hxs] at h
          cases h
    · rintro ⟨before, x', behind, heq, hbefore, hx'⟩
      cases before with
      | nil =>
        obtain ⟨rfl, rfl⟩ := List.cons.inj heq
        rw [hx']
        rfl
      | cons z before =>
        obtain ⟨rfl, rfl⟩ := List.cons.inj heq
        obtain ⟨y, hx⟩ := hbefore x List.mem_cons_self
        rw [hx, ih.2 ⟨before, x', behind, rfl,
          fun z hz => hbefore z (List.mem_cons_of_mem _ hz), hx'⟩]
        rfl

end Lists

namespace Releases

inductive Loads (r : Releases) (network : Net.Network) (platform : Platform) :
    Except FetchFault Catalog → Prop
  | unlocated {fault : FetchFault} (hlist : r.listUrl platform = .error fault) :
      Loads r network platform (.error fault)
  | unfetched {list : Url} {fault : FetchFault} (hlist : r.listUrl platform = .ok list)
      (hcontent : Fetches network list (.error fault)) : Loads r network platform (.error fault)
  | malformed {list : Url} {content : Bytes} {cause : ManifestFault}
      (hlist : r.listUrl platform = .ok list) (hcontent : Fetches network list (.ok content))
      (hentries : Manifest.read content = .error cause) :
      Loads r network platform (.error (.manifest list cause))
  | misdirected {list : Url} {content : Bytes} {before behind : List ListedBuild}
      {entry : ListedBuild} {cause : Url.Fault}
      (hlist : r.listUrl platform = .ok list) (hcontent : Fetches network list (.ok content))
      (hentries : Manifest.read content = .ok (before ++ entry :: behind))
      (hbefore : ∀ entry ∈ before, ∃ build, entry.toBuild list = .ok build)
      (hentry : entry.toBuild list = .error cause) :
      Loads r network platform (.error (.badUrl cause))
  | loaded {list : Url} {content : Bytes} {entries : List ListedBuild} {builds : List Build}
      (hlist : r.listUrl platform = .ok list) (hcontent : Fetches network list (.ok content))
      (hentries : Manifest.read content = .ok entries)
      (hbuilds : entries.map (ListedBuild.toBuild list) = builds.map .ok) :
      Loads r network platform (.ok (.ofBuilds builds))

theorem fetch_eq_loads {r : Releases} {network : Net.Network} {platform : Platform}
    {result : Except FetchFault Catalog} :
    (r.fetch network platform).2 = result ↔ r.Loads network platform result := by
  constructor
  · rintro rfl
    rw [fetch]
    cases hlist : r.listUrl platform with
    | error fault => exact .unlocated hlist
    | ok list =>
      dsimp only [Catalog.fetch]
      cases hcontent : (Provenance.fetch network list).2 with
      | error fault => exact .unfetched hlist (fetch_eq_iff.1 hcontent)
      | ok content =>
        have hcontent := fetch_eq_iff.1 hcontent
        cases hentries : Manifest.read content with
        | error cause =>
          simp only [Manifest.builds, hentries, Except.mapError, bind, Except.bind]
          exact .malformed hlist hcontent hentries
        | ok entries =>
          cases hbuilds : entries.mapM (ListedBuild.toBuild list) with
          | error cause =>
            obtain ⟨before, entry, behind, rfl, hbefore, hentry⟩ := mapM_eq_error_iff.1 hbuilds
            simp only [Manifest.builds, hentries, hbuilds, Except.mapError, bind, Except.bind]
            exact .misdirected hlist hcontent hentries hbefore hentry
          | ok builds =>
            simp only [Manifest.builds, hentries, hbuilds, Except.mapError, bind, Except.bind]
            exact .loaded hlist hcontent hentries (mapM_eq_ok_iff.1 hbuilds)
  · intro h
    rw [fetch]
    cases h with
    | unlocated hlist => rw [hlist]
    | unfetched hlist hcontent =>
      have hcontent := fetch_eq_iff.2 hcontent
      simp only [hlist, Catalog.fetch, hcontent, bind, Except.bind]
    | malformed hlist hcontent hentries =>
      have hcontent := fetch_eq_iff.2 hcontent
      simp only [hlist, Catalog.fetch, hcontent, Manifest.builds, hentries, Except.mapError, bind,
        Except.bind]
    | @misdirected list _ before behind entry _ hlist hcontent hentries hbefore hentry =>
      have hcontent := fetch_eq_iff.2 hcontent
      have hbuilds := mapM_eq_error_iff.2 ⟨before, entry, behind, rfl, hbefore, hentry⟩
      simp only [hlist, Catalog.fetch, hcontent, Manifest.builds, hentries, hbuilds,
        Except.mapError, bind, Except.bind]
    | loaded hlist hcontent hentries hbuilds =>
      have hcontent := fetch_eq_iff.2 hcontent
      have hbuilds := mapM_eq_ok_iff.2 hbuilds
      simp only [hlist, Catalog.fetch, hcontent, Manifest.builds, hentries, hbuilds,
        Except.mapError, bind, Except.bind]

/-- A request for a catalog fails where it is not there and cannot be fetched. -/
theorem get_eq_error_iff {r : Releases} {network : Net.Network} {platform : Platform}
    {fault : FetchFault} :
    (r.get network platform).2.2 = .error fault ↔
      r.loaded.lookup platform = none ∧ r.Loads network platform (.error fault) := by
  rw [← fetch_eq_loads, get]
  cases hloaded : r.loaded.lookup platform with
  | some catalog => simp
  | none => simp

end Releases

end Provenance
