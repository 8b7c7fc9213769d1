import Mathlib.Logic.Relation
import Provenance.Proofs.Compiler.Catalog

/-!
Overlapping requests for catalogs, in every order of their steps and for every answer
of the network. A request that fetches is the only one of its platform, and nothing is
loaded of the platform while it does. So the fetches of a platform follow each other
until one succeeds, and what that one loads is what every later request ends with.
-/

namespace Provenance.Releases

/-- What is loaded has no part in a fetch. -/
theorem fetch_congr {r r' : Releases} (hbase : r.base = r'.base) (hlists : r.lists = r'.lists)
    (network : Net.Network) (platform : Platform) :
    r.fetch network platform = r'.fetch network platform := by
  unfold fetch listUrl
  rw [hbase, hlists]

/-- A step of a request: which one it is, for which platform, the network that it
finds, and where the request stands before and after. -/
structure Move where
  index : Nat
  platform : Platform
  network : Net.Network
  before : Phase
  after : Phase

namespace Move

def concerns (m : Move) (platform : Platform) : Bool := m.platform = platform

def Brings (m : Move) (result : Except FetchFault Catalog) : Prop :=
  m.before = .fetching ∧ m.after = .ended result

def loads (m : Move) : Bool :=
  match m.before, m.after with
  | .fetching, .ended (.ok _) => true
  | _, _ => false

theorem loads_eq_true_iff {m : Move} : m.loads = true ↔ ∃ catalog, m.Brings (.ok catalog) := by
  obtain ⟨index, platform, network, before, after⟩ := m
  unfold loads Brings
  rcases before with _ | _ | _ <;> rcases after with _ | _ | (_ | _) <;> simp

end Move

namespace Overlap

/-- Requests for catalogs of a host, none of which was fetched yet. One that is made later
is one that waits until then. -/
def start (base : Url) (lists : List (Platform × Url)) (network : Net.Network)
    (platforms : List Platform) : Overlap :=
  ⟨.ofHost base lists, network, platforms.map (·, .waiting)⟩

/-- What a step comes to. Before it the network may have become any other, so that a
fetch may come to whatever a network brings. -/
structure Does (o : Overlap) (m : Move) (next : Overlap) : Prop where
  request : o.requests[m.index]? = some (m.platform, m.before)
  advance : advance { o with network := m.network } m.index = some next
  request_after : next.requests[m.index]? = some (m.platform, m.after)

inductive History (start : Overlap) : List Move → Overlap → Prop
  | refl : History start [] start
  | snoc {moves : List Move} {o next : Overlap} {m : Move} (h : History start moves o)
      (hdoes : o.Does m next) : History start (moves ++ [m]) next

/-- What a step does, by where its request stands. `busy` says whether some request
fetches for the platform. -/
inductive Effect (r : Releases) (busy : Bool) (network : Net.Network) (platform : Platform) :
    Phase → Phase → Releases → Net.Network → Prop
  | served {catalog : Catalog} (hloaded : r.loaded.lookup platform = some catalog) :
      Effect r busy network platform .waiting (.ended (.ok catalog)) r network
  | began (hloaded : r.loaded.lookup platform = none) (hfree : busy = false) :
      Effect r busy network platform .waiting .fetching r network
  | fetched : Effect r busy network platform .fetching
      (.ended (r.fetch network platform).2) (r.settle platform (r.fetch network platform).2)
      (r.fetch network platform).1

section Steps

variable {o next : Overlap} {m : Move} {i j : Nat} {platform : Platform} {phase : Phase}

/-- What a request can do where it stands. -/
theorem effect_of_advance {before : Phase} (h : o.advance i = some next)
    (hrequest : o.requests[i]? = some (platform, before)) :
    ∃ after, next.requests = o.requests.set i (platform, after) ∧
      Effect o.releases (o.isFetching platform) o.network platform before after next.releases
        next.network := by
  cases before with
  | waiting =>
    simp only [advance, hrequest] at h
    cases hloaded : o.releases.loaded.lookup platform with
    | some catalog =>
      rw [hloaded] at h
      cases h
      exact ⟨_, rfl, .served hloaded⟩
    | none =>
      simp only [hloaded] at h
      split_ifs at h with hbusy
      cases h
      exact ⟨_, rfl, .began hloaded (eq_false_of_ne_true hbusy)⟩
  | fetching =>
    simp only [advance, hrequest] at h
    cases h
    exact ⟨_, rfl, .fetched⟩
  | ended result =>
    simp only [advance, hrequest] at h
    cases h

/-- A step is what the place of its request allows. -/
theorem does_iff : o.Does m next ↔ o.requests[m.index]? = some (m.platform, m.before) ∧
    next.requests = o.requests.set m.index (m.platform, m.after) ∧
    Effect o.releases (o.isFetching m.platform) m.network m.platform m.before m.after
      next.releases next.network := by
  constructor
  · rintro ⟨hrequest, hadvance, hafter⟩
    obtain ⟨after, hset, heffect⟩ := effect_of_advance hadvance hrequest
    rw [hset, List.getElem?_set_self (List.getElem?_eq_some_iff.1 hrequest).1] at hafter
    cases hafter
    exact ⟨hrequest, hset, heffect⟩
  · obtain ⟨index, platform, network, before, after⟩ := m
    obtain ⟨releases, network', requests⟩ := next
    rintro ⟨hrequest, hset, heffect⟩
    have hlt := (List.getElem?_eq_some_iff.1 hrequest).1
    dsimp only at hrequest hset heffect hlt
    subst hset
    refine ⟨hrequest, ?_, List.getElem?_set_self hlt⟩
    dsimp only
    cases heffect with
    | served hloaded => simp only [advance, hrequest, hloaded, setPhase]
    | began hloaded hfree =>
      have hfree' : isFetching { o with network } platform = false := hfree
      simp [advance, hrequest, hloaded, hfree', setPhase]
    | fetched => simp only [advance, hrequest]

theorem Does.effect (h : o.Does m next) : Effect o.releases (o.isFetching m.platform) m.network
    m.platform m.before m.after next.releases next.network :=
  (does_iff.1 h).2.2

/-- Where the requests stand after a step. -/
theorem Does.request_cases (h : o.Does m next)
    (hrequest : next.requests[i]? = some (platform, phase)) :
    i = m.index ∧ platform = m.platform ∧ phase = m.after ∨
      i ≠ m.index ∧ o.requests[i]? = some (platform, phase) := by
  by_cases hi : i = m.index
  · subst hi
    cases h.request_after.symm.trans hrequest
    exact .inl ⟨rfl, rfl, rfl⟩
  · rw [(does_iff.1 h).2.1, List.getElem?_set_ne (Ne.symm hi)] at hrequest
    exact .inr ⟨hi, hrequest⟩

/-- A step leaves the other requests where they stand. -/
theorem Does.request_of_ne (h : o.Does m next) (hi : i ≠ m.index) :
    next.requests[i]? = o.requests[i]? := by
  rw [(does_iff.1 h).2.1, List.getElem?_set_ne (Ne.symm hi)]

theorem isFetching_iff : o.isFetching platform = true ↔
    ∃ i : Nat, o.requests[i]? = some (platform, .fetching) := by
  simp only [isFetching, List.any_eq_true, Bool.and_eq_true, decide_eq_true_eq, Prod.exists,
    List.mem_iff_getElem?]
  constructor
  · rintro ⟨_, phase, ⟨i, hrequest⟩, rfl, hphase⟩
    cases phase with
    | fetching => exact ⟨i, hrequest⟩
    | _ => cases hphase
  · rintro ⟨i, hrequest⟩
    exact ⟨platform, .fetching, ⟨i, hrequest⟩, rfl, rfl⟩

end Steps

namespace Effect

variable {r r' : Releases} {busy : Bool} {network network' : Net.Network}
  {platform other : Platform} {before after : Phase} {catalog : Catalog}
  (h : Effect r busy network platform before after r' network')

include h

/-- The place of a list does not depend on what is loaded. -/
theorem hosted : r'.base = r.base ∧ r'.lists = r.lists := by
  cases h with
  | fetched => cases (r.fetch network platform).2 <;> exact ⟨rfl, rfl⟩
  | _ => exact ⟨rfl, rfl⟩

/-- What is loaded of a platform changes where one of its fetches succeeds. -/
theorem lookup (other : Platform) :
    r'.loaded.lookup other = r.loaded.lookup other ∨
      other = platform ∧ before = .fetching ∧ ∃ catalog, after = .ended (.ok catalog) ∧
        r'.loaded.lookup other = some catalog := by
  cases h with
  | fetched =>
    cases hresult : (r.fetch network platform).2 with
    | error fault => exact .inl rfl
    | ok catalog =>
      by_cases hother : other = platform
      · refine .inr ⟨hother, rfl, catalog, rfl, ?_⟩
        rw [settle, lookup_keep, if_pos hother]
      · refine .inl ?_
        rw [settle, lookup_keep, if_neg hother]
  | _ => exact .inl rfl

/-- A fetch begins while nothing is loaded and no other fetches. -/
theorem free_of_fetching (hafter : after = .fetching) :
    r.loaded.lookup platform = none ∧ busy = false := by
  cases h with
  | began hloaded hfree => exact ⟨hloaded, hfree⟩
  | _ => cases hafter

/-- A request that ends with a catalog leaves it loaded. -/
theorem loaded_of_ended (hafter : after = .ended (.ok catalog)) :
    r'.loaded.lookup platform = some catalog := by
  cases h with
  | served hloaded =>
    cases hafter
    exact hloaded
  | began => cases hafter
  | fetched =>
    have hresult : (r.fetch network platform).2 = .ok catalog := by simpa using hafter
    rw [hresult, settle, lookup_keep, if_pos rfl]

/-- A fetch ends with what the list of its platform comes to. -/
theorem of_fetching (hbefore : before = .fetching) :
    after = .ended (r.fetch network platform).2 ∧
      r' = r.settle platform (r.fetch network platform).2 := by
  cases h with
  | fetched => exact ⟨rfl, rfl⟩
  | _ => cases hbefore

/-- A request that waits ends with what is loaded, or else begins a fetch. -/
theorem of_waiting (hbefore : before = .waiting) : r' = r ∧ network' = network ∧
    match r.loaded.lookup platform with
    | some catalog => after = .ended (.ok catalog)
    | none => after = .fetching := by
  cases h with
  | served hloaded =>
    rw [hloaded]
    exact ⟨rfl, rfl, rfl⟩
  | began hloaded hfree =>
    rw [hloaded]
    exact ⟨rfl, rfl, rfl⟩
  | fetched => cases hbefore

/-- A request that has ended makes no step. -/
theorem begins : before = .waiting ∨ before = .fetching := by
  cases h with
  | fetched => exact .inr rfl
  | _ => exact .inl rfl

end Effect

structure Sound (base : Url) (lists : List (Platform × Url)) (o : Overlap) : Prop where
  base_eq : o.releases.base = base
  lists_eq : o.releases.lists = lists
  exclusive : ∀ {i j : Nat} {platform : Platform}, o.requests[i]? = some (platform, .fetching) →
    o.requests[j]? = some (platform, .fetching) → i = j
  unloaded : ∀ {i : Nat} {platform : Platform}, o.requests[i]? = some (platform, .fetching) →
    o.releases.loaded.lookup platform = none
  served : ∀ {i : Nat} {platform : Platform} {catalog : Catalog},
    o.requests[i]? = some (platform, .ended (.ok catalog)) →
    o.releases.loaded.lookup platform = some catalog

namespace Sound

variable {base : Url} {lists : List (Platform × Url)} {o next : Overlap} {m : Move}

theorem start (base : Url) (lists : List (Platform × Url)) (network : Net.Network)
    (platforms : List Platform) : Sound base lists (.start base lists network platforms) := by
  have hwaiting {i : Nat} {platform : Platform} {phase : Phase}
      (h : (Overlap.start base lists network platforms).requests[i]? = some (platform, phase)) :
      phase = .waiting := by
    simp only [Overlap.start, List.getElem?_map, Option.map_eq_some_iff, Prod.mk.injEq] at h
    obtain ⟨-, -, -, rfl⟩ := h
    rfl
  refine ⟨rfl, rfl, fun h => ?_, fun h => ?_, fun h => ?_⟩ <;> cases hwaiting h

theorem does (hs : Sound base lists o) (h : o.Does m next) : Sound base lists next := by
  have heffect := h.effect
  constructor
  case base_eq => exact heffect.hosted.1.trans hs.base_eq
  case lists_eq => exact heffect.hosted.2.trans hs.lists_eq
  case exclusive =>
    have hother {i : Nat} (hafter : m.after = .fetching)
        (hi : o.requests[i]? = some (m.platform, .fetching)) : False := by
      have hbusy := isFetching_iff.2 ⟨i, hi⟩
      rw [(heffect.free_of_fetching hafter).2] at hbusy
      cases hbusy
    intro i j platform hi hj
    rcases h.request_cases hi with ⟨rfl, rfl, hafter⟩ | ⟨-, hi⟩
    · rcases h.request_cases hj with ⟨rfl, -, -⟩ | ⟨-, hj⟩
      · rfl
      · exact (hother hafter.symm hj).elim
    · rcases h.request_cases hj with ⟨rfl, rfl, hafter⟩ | ⟨-, hj⟩
      · exact (hother hafter.symm hi).elim
      · exact hs.exclusive hi hj
  case unloaded =>
    intro i platform hrequest
    rcases heffect.lookup platform with hsame | ⟨rfl, hbefore, catalog, hafter, -⟩
    · rw [hsame]
      rcases h.request_cases hrequest with ⟨-, rfl, hafter⟩ | ⟨-, hrequest⟩
      · exact (heffect.free_of_fetching hafter.symm).1
      · exact hs.unloaded hrequest
    · -- The request that loaded the catalog was the one that fetched.
      rcases h.request_cases hrequest with ⟨-, -, hself⟩ | ⟨hne, hrequest⟩
      · cases hself.trans hafter
      · exact absurd (hs.exclusive hrequest (hbefore ▸ h.request)) hne
  case served =>
    intro i platform catalog hrequest
    rcases h.request_cases hrequest with ⟨-, rfl, hafter⟩ | ⟨-, hrequest⟩
    · exact heffect.loaded_of_ended hafter.symm
    · have hloaded := hs.served hrequest
      rcases heffect.lookup platform with hsame | ⟨rfl, hbefore, -⟩
      · exact hsame.trans hloaded
      · cases (hs.unloaded (hbefore ▸ h.request)).symm.trans hloaded

/-- What a fetch comes to is what the network makes of the list of its platform. -/
theorem loads (hs : Sound base lists o) (h : o.Does m next) (hbefore : m.before = .fetching) :
    ∃ result, m.after = .ended result ∧ (ofHost base lists).Loads m.network m.platform result := by
  refine ⟨_, (h.effect.of_fetching hbefore).1, fetch_eq_loads.1 ?_⟩
  rw [fetch_congr hs.base_eq.symm hs.lists_eq.symm]

/-- What is loaded of a platform stays. -/
theorem loaded (hs : Sound base lists o) (h : o.Does m next) {platform : Platform}
    {catalog : Catalog} (hloaded : o.releases.loaded.lookup platform = some catalog) :
    next.releases.loaded.lookup platform = some catalog := by
  rcases h.effect.lookup platform with hsame | ⟨rfl, hbefore, -⟩
  · exact hsame.trans hloaded
  · cases (hs.unloaded (hbefore ▸ h.request)).symm.trans hloaded

/-- Requests for what is loaded end with it. -/
theorem served_of_loaded (hs : Sound base lists o) (h : o.Does m next) {catalog : Catalog}
    (hloaded : o.releases.loaded.lookup m.platform = some catalog) :
    m.before = .waiting ∧ m.after = .ended (.ok catalog) := by
  rcases h.effect.begins with hbefore | hbefore
  · obtain ⟨-, -, hafter⟩ := h.effect.of_waiting hbefore
    rw [hloaded] at hafter
    exact ⟨hbefore, hafter⟩
  · cases hloaded.symm.trans (hs.unloaded (hbefore ▸ h.request))

/-- A fetch that fails leaves nothing behind, and the platform's next step begins another. -/
theorem retries (hs : Sound base lists o) (h : o.Does m next) {fault : FetchFault}
    (hbrings : m.Brings (.error fault)) : next.releases = o.releases ∧
      (∀ {m' : Move} {later : Overlap}, next.Does m' later → m'.platform = m.platform →
        m'.before = .waiting ∧ m'.after = .fetching) ∧
      ∀ {i : Nat} (network : Net.Network), next.requests[i]? = some (m.platform, .waiting) →
        ∃ later, next.Does ⟨i, m.platform, network, .waiting, .fetching⟩ later := by
  obtain ⟨hbefore, hafter⟩ := hbrings
  obtain ⟨hresult, hreleases⟩ := h.effect.of_fetching hbefore
  have hkept : next.releases = o.releases := by
    rw [hreleases, ← Phase.ended.inj (hafter.symm.trans hresult)]
    rfl
  have hunloaded : next.releases.loaded.lookup m.platform = none := by
    rw [hkept]
    exact hs.unloaded (hbefore ▸ h.request)
  have hfree {i : Nat} (hi : next.requests[i]? = some (m.platform, .fetching)) : False := by
    rcases h.request_cases hi with ⟨-, -, hself⟩ | ⟨hne, hi⟩
    · cases hself.trans hafter
    · exact hne (hs.exclusive hi (hbefore ▸ h.request))
  refine ⟨hkept, fun {m' later} hlater hplatform => ?_, fun {i} network hi => ?_⟩
  · rcases hlater.effect.begins with hwaiting | hfetching
    · obtain ⟨-, -, hnext⟩ := hlater.effect.of_waiting hwaiting
      rw [hplatform, hunloaded] at hnext
      exact ⟨hwaiting, hnext⟩
    · have hi := hlater.request
      rw [hplatform, hfetching] at hi
      exact (hfree hi).elim
  · have hidle : next.isFetching m.platform = false :=
      eq_false_of_ne_true fun hbusy => (isFetching_iff.1 hbusy).elim fun _ => hfree
    exact ⟨⟨next.releases, network, next.requests.set i (m.platform, .fetching)⟩,
      does_iff.2 ⟨hi, rfl, .began hunloaded hidle⟩⟩

end Sound

section Runs

variable {base : Url} {lists : List (Platform × Url)} {start o next : Overlap} {m : Move}
  {moves before behind : List Move} {platform : Platform} {catalog : Catalog}

theorem History.sound (h : History start moves o) (hs : Sound base lists start) :
    Sound base lists o := by
  induction h with
  | refl => exact hs
  | snoc _ hdoes ih => exact ih.does hdoes

theorem history_concat_iff :
    History start (moves ++ [m]) next ↔ ∃ o, History start moves o ∧ o.Does m next := by
  constructor
  · intro h
    generalize hall : moves ++ [m] = all at h
    cases h with
    | refl => simp at hall
    | snoc h hdoes =>
      obtain ⟨rfl, hlast⟩ := List.append_inj' hall rfl
      obtain rfl := List.singleton_inj.1 hlast
      exact ⟨_, h, hdoes⟩
  · rintro ⟨o, h, hdoes⟩
    exact h.snoc hdoes

/-- A step in the midst of others. -/
theorem History.split (h : History start (before ++ m :: behind) o) :
    ∃ p next, History start before p ∧ p.Does m next ∧ History next behind o := by
  induction behind using List.reverseRecOn generalizing o with
  | nil =>
    obtain ⟨p, hp, hdoes⟩ := history_concat_iff.1 h
    exact ⟨p, o, hp, hdoes, .refl⟩
  | append_singleton behind last ih =>
    rw [← List.cons_append, ← List.append_assoc] at h
    obtain ⟨q, hq, hlast⟩ := history_concat_iff.1 h
    obtain ⟨p, next, hp, hdoes, hnext⟩ := ih hq
    exact ⟨p, next, hp, hdoes, hnext.snoc hlast⟩

/-- Once a catalog is loaded, every step of its platform ends a request with it. -/
theorem History.served_of_loaded (h : History start moves o) (hs : Sound base lists start)
    (hloaded : start.releases.loaded.lookup platform = some catalog) :
    o.releases.loaded.lookup platform = some catalog ∧ ∀ m ∈ moves, m.platform = platform →
      m.before = .waiting ∧ m.after = .ended (.ok catalog) := by
  induction h with
  | refl => exact ⟨hloaded, by simp⟩
  | @snoc moves o next m ho hdoes ih =>
    obtain ⟨hthere, hmoves⟩ := ih
    refine ⟨(ho.sound hs).loaded hdoes hthere, fun m' hm' hplatform => ?_⟩
    rcases List.mem_append.1 hm' with hbefore | hlast
    · exact hmoves m' hbefore hplatform
    · obtain rfl := List.mem_singleton.1 hlast
      exact (ho.sound hs).served_of_loaded hdoes (hplatform ▸ hthere)

/-- Nothing is fetched for a platform once a fetch has succeeded. -/
theorem History.served_behind (h : History start (before ++ m :: behind) o)
    (hs : Sound base lists start) (hbrings : m.Brings (.ok catalog)) :
    ∀ m' ∈ behind, m'.platform = m.platform →
      m'.before = .waiting ∧ m'.after = .ended (.ok catalog) := by
  obtain ⟨p, next, hp, hdoes, hnext⟩ := h.split
  have hloaded := hdoes.effect.loaded_of_ended hbrings.2
  exact (hnext.served_of_loaded ((hp.sound hs).does hdoes) hloaded).2

theorem History.loads_le_one (h : History start moves o) (hs : Sound base lists start)
    (platform : Platform) :
    (moves.filter fun m => m.loads && m.concerns platform).length ≤ 1 := by
  cases hfilter : moves.filter fun m => m.loads && m.concerns platform with
  | nil => exact Nat.zero_le 1
  | cons first rest =>
    obtain ⟨before, behind, rfl, -, hfirst, rfl⟩ := List.filter_eq_cons_iff.1 hfilter
    obtain ⟨hloads, hplatform⟩ := Bool.and_eq_true_iff.1 hfirst
    obtain ⟨catalog, hbrings⟩ := Move.loads_eq_true_iff.1 hloads
    have hnone : behind.filter (fun m => m.loads && m.concerns platform) = [] := by
      refine List.filter_eq_nil_iff.2 fun m hm hlater => ?_
      obtain ⟨hloads', hplatform'⟩ := Bool.and_eq_true_iff.1 hlater
      obtain ⟨catalog', hbrings'⟩ := Move.loads_eq_true_iff.1 hloads'
      have hsame := (of_decide_eq_true hplatform').trans (of_decide_eq_true hplatform).symm
      cases (h.served_behind hs hbrings m hm hsame).1.symm.trans hbrings'.1
    rw [hnone]
    exact Nat.le_refl 1

/-- What is loaded was brought by a fetch, out of a whole list. -/
theorem History.brought (h : History start moves o) (hs : Sound base lists start)
    (hstart : start.releases.loaded = [])
    (hloaded : o.releases.loaded.lookup platform = some catalog) :
    ∃ m ∈ moves, m.platform = platform ∧ m.Brings (.ok catalog) ∧
      (ofHost base lists).Loads m.network platform (.ok catalog) := by
  induction h with
  | refl =>
    rw [hstart] at hloaded
    cases hloaded
  | @snoc moves o next m ho hdoes ih =>
    rcases hdoes.effect.lookup platform with hsame | ⟨rfl, hbefore, found, hafter, hfound⟩
    · obtain ⟨m', hm', hbrought⟩ := ih (hsame.symm.trans hloaded)
      exact ⟨m', List.mem_append_left _ hm', hbrought⟩
    · cases hloaded.symm.trans hfound
      obtain ⟨result, hresult, hloads⟩ := (ho.sound hs).loads hdoes hbefore
      cases hafter.symm.trans hresult
      exact ⟨m, by simp, rfl, ⟨hbefore, hafter⟩, hloads⟩

/-- A step on the network as it is. -/
theorem exists_does_of_step (h : Step o next) : ∃ m, o.Does m next := by
  obtain ⟨index, hadvance⟩ := h
  cases hrequest : o.requests[index]? with
  | none =>
    rw [advance, hrequest] at hadvance
    cases hadvance
  | some request =>
    obtain ⟨platform, phase⟩ := request
    obtain ⟨after, hset, heffect⟩ := effect_of_advance hadvance hrequest
    exact ⟨⟨index, platform, o.network, phase, after⟩, does_iff.2 ⟨hrequest, hset, heffect⟩⟩

theorem exists_history (h : Relation.ReflTransGen Step start o) :
    ∃ moves, History start moves o := by
  induction h with
  | refl => exact ⟨[], .refl⟩
  | tail _ hstep ih =>
    obtain ⟨moves, hmoves⟩ := ih
    obtain ⟨m, hdoes⟩ := exists_does_of_step hstep
    exact ⟨moves ++ [m], hmoves.snoc hdoes⟩

end Runs

section Alone

variable {o e next : Overlap} {m : Move} {i : Nat} {platform : Platform} {moves : List Move}
  {start : Overlap}

structure Agree (platform : Platform) (o e : Overlap) : Prop where
  base : o.releases.base = e.releases.base
  lists : o.releases.lists = e.releases.lists
  loaded : o.releases.loaded.lookup platform = e.releases.loaded.lookup platform
  requests : ∀ {i : Nat} {phase : Phase},
    o.requests[i]? = some (platform, phase) ↔ e.requests[i]? = some (platform, phase)

theorem Agree.isFetching (h : Agree platform o e) :
    o.isFetching platform = e.isFetching platform := by
  refine Bool.eq_iff_iff.2 (isFetching_iff.trans (Iff.trans ?_ isFetching_iff.symm))
  exact exists_congr fun _ => h.requests

/-- A step for another platform is not noticed. -/
theorem Agree.does_other (h : Agree platform o e) (hdoes : o.Does m next)
    (hother : m.platform ≠ platform) : Agree platform next e := by
  have heffect := hdoes.effect
  refine ⟨heffect.hosted.1.trans h.base, heffect.hosted.2.trans h.lists, ?_, fun {i phase} => ?_⟩
  · rcases heffect.lookup platform with hsame | ⟨hself, -⟩
    · exact hsame.trans h.loaded
    · exact absurd hself.symm hother
  · rw [← h.requests]
    by_cases hi : i = m.index
    · subst hi
      rw [hdoes.request, hdoes.request_after]
      simp [hother]
    · rw [hdoes.request_of_ne hi]

/-- Where the same is loaded of a platform, its requests can do the same. -/
theorem Effect.agree {r r' u : Releases} {busy : Bool} {network network' : Net.Network}
    {before after : Phase} (h : Effect r busy network platform before after r' network')
    (hbase : r.base = u.base) (hlists : r.lists = u.lists)
    (hloaded : r.loaded.lookup platform = u.loaded.lookup platform) :
    ∃ u', Effect u busy network platform before after u' network' ∧
      r'.loaded.lookup platform = u'.loaded.lookup platform := by
  cases h with
  | served hserved => exact ⟨u, .served (hloaded.symm.trans hserved), hloaded⟩
  | began hnone hfree => exact ⟨u, .began (hloaded.symm.trans hnone) hfree, hloaded⟩
  | fetched =>
    rw [fetch_congr hbase hlists]
    refine ⟨_, .fetched, ?_⟩
    cases (u.fetch network platform).2 with
    | error fault => exact hloaded
    | ok catalog => rw [settle, settle, lookup_keep, lookup_keep, if_pos rfl, if_pos rfl]

/-- A request does the same beside other requests for other platforms. -/
theorem Agree.does_self (h : Agree m.platform o e) (hdoes : o.Does m next) :
    ∃ next', e.Does m next' ∧ Agree m.platform next next' := by
  obtain ⟨u, heffect, hloaded⟩ := hdoes.effect.agree h.base h.lists h.loaded
  rw [h.isFetching] at heffect
  have hdoes' : e.Does m ⟨u, next.network, e.requests.set m.index (m.platform, m.after)⟩ :=
    does_iff.2 ⟨h.requests.1 hdoes.request, rfl, heffect⟩
  refine ⟨_, hdoes', ?_, ?_, hloaded, fun {i phase} => ?_⟩
  · exact hdoes.effect.hosted.1.trans (h.base.trans heffect.hosted.1.symm)
  · exact hdoes.effect.hosted.2.trans (h.lists.trans heffect.hosted.2.symm)
  · by_cases hi : i = m.index
    · subst hi
      rw [hdoes.request_after, hdoes'.request_after]
    · rw [hdoes.request_of_ne hi, hdoes'.request_of_ne hi, h.requests]

/-- The steps for the other platforms can be left out of a run. -/
theorem History.exists_filter (h : History start moves o) (platform : Platform) :
    ∃ e, History start (moves.filter fun m => m.concerns platform) e ∧ Agree platform o e := by
  induction h with
  | refl => exact ⟨start, .refl, rfl, rfl, rfl, Iff.rfl⟩
  | @snoc moves o next m ho hdoes ih =>
    obtain ⟨e, he, hagree⟩ := ih
    rw [List.filter_append]
    by_cases hself : m.platform = platform
    · subst hself
      obtain ⟨next', hdoes', hnext⟩ := hagree.does_self hdoes
      have hlast : [m].filter (fun m' => m'.concerns m.platform) = [m] := by
        simp [Move.concerns]
      rw [hlast]
      exact ⟨next', he.snoc hdoes', hnext⟩
    · have hlast : [m].filter (fun m' => m'.concerns platform) = [] := by
        simp [Move.concerns, hself]
      rw [hlast, List.append_nil]
      exact ⟨e, he, hagree.does_other hdoes hself⟩

/-- A request that is alone with its platform comes to what asking for the catalog gives. -/
theorem reaches_get (hrequest : o.requests[i]? = some (platform, .waiting))
    (hidle : o.isFetching platform = false) :
    Relation.ReflTransGen Step o
      ⟨(o.releases.get o.network platform).1, (o.releases.get o.network platform).2.1,
        o.requests.set i (platform, .ended (o.releases.get o.network platform).2.2)⟩ := by
  have hlt := (List.getElem?_eq_some_iff.1 hrequest).1
  cases hloaded : o.releases.loaded.lookup platform with
  | some catalog =>
    refine .single ⟨i, ?_⟩
    simp only [advance, hrequest, hloaded, get, setPhase]
  | none =>
    refine .head (b := o.setPhase i platform .fetching) ⟨i, ?_⟩ (.single ⟨i, ?_⟩)
    · simp [advance, hrequest, hloaded, hidle]
    · simp only [advance, setPhase, List.getElem?_set_self hlt, List.set_set, get, hloaded]

end Alone

end Overlap

open Overlap in
/-- Overlapping requests for catalogs, in every order of their steps and with every
answer of the network. Of each platform at most one fetch succeeds, and every later step
for the platform ends a request with its catalog and asks nothing of the network. A request
that ends with a catalog has it from that fetch, whose list was read to its end. A fetch
fails where the list has no place, cannot be fetched or is malformed, or where any build
in it has no place. It leaves nothing loaded, and the next step for the platform is a
request that begins another fetch, which each that waits can be. Requests for a platform
come to the same without those for the others, and one that is alone to what asking for the
catalog gives. -/
theorem catalogs_loaded_once {base : Url} {lists : List (Platform × Url)} {network : Net.Network}
    {platforms : List Platform} :
    let start := Overlap.start base lists network platforms
    (∀ o, Relation.ReflTransGen Step start o → ∃ moves, History start moves o) ∧
    (∀ {o : Overlap} {i : Nat} {platform : Platform},
      o.requests[i]? = some (platform, .waiting) → o.isFetching platform = false →
      Relation.ReflTransGen Step o
        ⟨(o.releases.get o.network platform).1, (o.releases.get o.network platform).2.1,
          o.requests.set i (platform, .ended (o.releases.get o.network platform).2.2)⟩) ∧
    ∀ {moves : List Move} {o : Overlap}, History start moves o →
      (∀ platform, (moves.filter fun m => m.loads && m.concerns platform).length ≤ 1) ∧
      (∀ {before behind : List Move} {m : Move} {catalog : Catalog},
        moves = before ++ m :: behind → m.Brings (.ok catalog) → ∀ m' ∈ behind,
        m'.platform = m.platform → m'.before = .waiting ∧ m'.after = .ended (.ok catalog)) ∧
      (∀ {i : Nat} {platform : Platform} {catalog : Catalog},
        o.requests[i]? = some (platform, .ended (.ok catalog)) →
        ∃ m ∈ moves, m.platform = platform ∧ m.Brings (.ok catalog) ∧
          (ofHost base lists).Loads m.network platform (.ok catalog)) ∧
      (∀ {m : Move} {next : Overlap}, o.Does m next →
        (m.before = .waiting → next.releases = o.releases ∧ next.network = m.network) ∧
        (m.before = .fetching → ∃ result, m.after = .ended result ∧
          (ofHost base lists).Loads m.network m.platform result) ∧
        ∀ {fault : FetchFault}, m.Brings (.error fault) → next.releases = o.releases ∧
          (∀ {m' : Move} {later : Overlap}, next.Does m' later → m'.platform = m.platform →
            m'.before = .waiting ∧ m'.after = .fetching) ∧
          ∀ {i : Nat} (network : Net.Network), next.requests[i]? = some (m.platform, .waiting) →
            ∃ later, next.Does ⟨i, m.platform, network, .waiting, .fetching⟩ later) ∧
      ∀ platform, ∃ e, History start (moves.filter fun m => m.concerns platform) e ∧
        ∀ {i : Nat} {phase : Phase},
          o.requests[i]? = some (platform, phase) ↔ e.requests[i]? = some (platform, phase) := by
  intro start
  have hstart := Sound.start base lists network platforms
  refine ⟨fun o => exists_history, reaches_get, fun {moves o} h => ?_⟩
  have hs := h.sound hstart
  refine ⟨h.loads_le_one hstart, ?_, fun hrequest => ?_, ?_, ?_⟩
  · rintro before behind m catalog rfl hbrings
    exact h.served_behind hstart hbrings
  · exact h.brought hstart rfl (hs.served hrequest)
  · intro m next hdoes
    refine ⟨fun hwaiting => ?_, hs.loads hdoes, hs.retries hdoes⟩
    obtain ⟨hreleases, hnetwork, -⟩ := hdoes.effect.of_waiting hwaiting
    exact ⟨hreleases, hnetwork⟩
  · intro platform
    obtain ⟨e, he, hagree⟩ := h.exists_filter platform
    exact ⟨e, he, hagree.requests⟩

deriving instance DecidableEq for Phase

namespace Overlap

def follow (o : Overlap) : List Nat → Option Overlap
  | [] => some o
  | index :: rest => (o.advance index).bind (follow · rest)

theorem reaches_follow {o next : Overlap} {order : List Nat} (h : o.follow order = some next) :
    Relation.ReflTransGen Step o next := by
  induction order generalizing o with
  | nil =>
    cases h
    exact .refl
  | cons index rest ih =>
    obtain ⟨between, hadvance, hrest⟩ := Option.bind_eq_some_iff.1 h
    exact .head ⟨index, hadvance⟩ (ih hrest)

end Overlap

open Overlap in
/-- The first of two requests that overlap fails, and a third comes when the catalog is
there. The one in between is for another platform. -/
theorem catalog_loaded_by_second :
    let content := Bytes.ofText "\x7b\"builds\":[]\x7d"
    let base : Url := { scheme := "http", host := some (.domain "bin"), path := "/" }
    let list : Url := { base with path := "/linux-amd64/list.json" }
    let network := Net.Network.scripted
      [("http://bin/linux-amd64/list.json", [.response ⟨503, []⟩, .response ⟨200, content⟩]),
        ("http://bin/wasm/list.json", [.response ⟨200, content⟩])]
    let start := Overlap.start base [] network [.linux, .linux, .wasm, .linux]
    ∃ o moves e, start.follow [0, 2, 0, 1, 2, 1, 3] = some o ∧ History start moves o ∧
      o.requests[0]? = some (.linux, .ended (.error (.badStatus list 503))) ∧
      o.requests[3]? = some (.linux, .ended (.ok .empty)) ∧
      (moves.filter fun m => m.loads && m.concerns .linux).length ≤ 1 ∧
      (∃ m ∈ moves, m.platform = .linux ∧ m.Brings (.ok .empty)) ∧
      History start (moves.filter fun m => m.concerns .linux) e ∧
      e.requests[3]? = some (.linux, .ended (.ok .empty)) := by
  intro content base list network start
  obtain ⟨o, ho⟩ : ∃ o, start.follow [0, 2, 0, 1, 2, 1, 3] = some o :=
    Option.isSome_iff_exists.1 (by decide +kernel)
  have hrequests : ((start.follow [0, 2, 0, 1, 2, 1, 3]).map fun o =>
      (o.requests[0]?, o.requests[3]?)) =
      some (some (.linux, .ended (.error (.badStatus list 503))),
        some (.linux, .ended (.ok .empty))) := by decide +kernel
  rw [ho] at hrequests
  obtain ⟨hfirst, hlast⟩ := Prod.mk.inj (Option.some.inj hrequests)
  obtain ⟨hhistory, -, hall⟩ :=
    @catalogs_loaded_once base [] network [.linux, .linux, .wasm, .linux]
  obtain ⟨moves, hmoves⟩ := hhistory o (reaches_follow ho)
  obtain ⟨honce, -, hbrought, -, halone⟩ := hall hmoves
  obtain ⟨m, hm, hplatform, hbrings, -⟩ := hbrought hlast
  obtain ⟨e, he, hsame⟩ := halone .linux
  exact ⟨o, moves, e, ho, hmoves, hfirst, hlast, honce .linux, ⟨m, hm, hplatform, hbrings⟩, he,
    hsame.1 hlast⟩

end Provenance.Releases
