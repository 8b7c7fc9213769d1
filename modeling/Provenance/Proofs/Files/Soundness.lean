import Provenance.Proofs.Files.Joining
import Provenance.Proofs.Files.Paving

/-!
Trees as a file system has them: one entry for each place, directories above everything,
and names that files can have. In such a tree the children of a place are exactly what is
right below it, each once.
-/

namespace Provenance.Files.Tree

variable {t u : Tree} {place : Place} {name path : String} {node : Node}

structure IsSound (t : Tree) : Prop where
  nodup : (t.entries.map Prod.fst).Nodup
  root : t.node? [] = some .directory
  above : ∀ {place name}, (t.node? (place ++ [name])).isSome → t.node? place = some .directory
  isName : ∀ {place name}, (t.node? (place ++ [name])).isSome → IsName name

theorem isSound_empty : IsSound empty := by
  have hnone {place : Place} {name : String} : empty.node? (place ++ [name]) = none := by
    simp [empty, node?, List.lookup_cons, beq_eq_false_iff_ne.2]
  refine ⟨by simp [empty], rfl, fun hsome => ?_, fun hsome => ?_⟩
  all_goals
    rw [hnone] at hsome
    cases hsome

/-- A new node in a directory, or a node instead of another, leaves a tree sound if no
directory becomes a file. -/
theorem IsSound.set (h : t.IsSound) (hplace : t.node? place = some .directory)
    (hname : IsName name)
    (hnode : t.node? (place ++ [name]) = some .directory → node = .directory) :
    (t.set (place ++ [name]) node).IsSound := by
  constructor
  · unfold Tree.set
    split
    · rw [List.map_map]
      convert h.nodup using 1
      refine List.map_congr_left fun entry _ => ?_
      simp only [Function.comp_apply]
      split_ifs with hentry
      · exact hentry.symm
      · rfl
    · rename_i hnone
      rw [node?, List.lookup_isSome_iff] at hnone
      rw [List.map_append, List.nodup_append]
      refine ⟨h.nodup, List.nodup_singleton _, fun key hkey other hother => ?_⟩
      rintro rfl
      obtain ⟨entry, hentry, rfl⟩ := List.mem_map.1 hkey
      exact hnone ⟨entry, hentry, beq_iff_eq.2 (List.mem_singleton.1 hother).symm⟩
  · rw [node?_set, if_neg (by simp), h.root]
  · intro other last hsome
    have hdirectory : t.node? other = some .directory := by
      rw [node?_set] at hsome
      split_ifs at hsome with heq
      · rw [(List.append_inj' heq rfl).1, hplace]
      · exact h.above hsome
    rw [node?_set]
    split_ifs with hother
    · rw [hnode (hother ▸ hdirectory)]
    · exact hdirectory
  · intro other last hsome
    rw [node?_set] at hsome
    split_ifs at hsome with heq
    · rwa [← List.singleton_inj.1 (List.append_inj' heq rfl).2] at hname
    · exact h.isName hsome

/-- A path that does not lead to the root leads right below a directory. -/
theorem exists_parent_of_locate (h : t.locate path = .ok place) (hplace : place ≠ []) :
    ∃ home name, place = home ++ [name] ∧ t.node? home = some .directory ∧ IsName name := by
  have hrooted := rooted_of_locate h
  obtain ⟨home, name, rfl⟩ := (List.eq_nil_or_concat place).resolve_left hplace
  rw [List.concat_eq_append] at hrooted ⊢
  have hmem : name ∈ home ++ [name] := List.mem_append_right _ List.mem_cons_self
  obtain ⟨hplain, hwritable⟩ := hrooted.plain name hmem
  obtain ⟨home', hhome, -, hdirectory⟩ := exists_home_of_walk hrooted.walk hplain
  obtain ⟨rfl, -⟩ := List.append_inj' hhome rfl
  have hfits := fits_of_walk hrooted.walk name hmem
  exact ⟨home, name, rfl, hdirectory, hplain, hwritable, hfits.resolve_left hplain⟩

/-! What is in a directory -/

theorem lookup_eq_some_iff_of_nodup {entries : List (Place × Node)}
    (h : (entries.map Prod.fst).Nodup) :
    entries.lookup place = some node ↔ (place, node) ∈ entries := by
  induction entries with
  | nil => simp
  | cons entry entries ih =>
    obtain ⟨key, other⟩ := entry
    obtain ⟨hkey, hentries⟩ := List.nodup_cons.1 h
    rw [List.lookup_cons, List.mem_cons, Prod.mk.injEq]
    by_cases hplace : place = key
    · subst hplace
      have hfresh : (place, node) ∉ entries := fun hmem => hkey (List.mem_map.2 ⟨_, hmem, rfl⟩)
      simp [hfresh, eq_comm]
    · simpa [beq_eq_false_iff_ne.2 hplace, hplace] using ih hentries

theorem IsSound.mem_entries_iff (h : t.IsSound) :
    (place, node) ∈ t.entries ↔ t.node? place = some node :=
  (lookup_eq_some_iff_of_nodup h.nodup).symm

/-- An entry right below a place, as a child of the place. -/
theorem mem_children_iff_entry :
    (name, node) ∈ t.children place ↔ (place ++ [name], node) ∈ t.entries := by
  unfold children
  rw [List.mem_filterMap]
  constructor
  · rintro ⟨⟨other, found⟩, hentry, hchild⟩
    dsimp only at hchild
    split at hchild
    · cases hchild
    · rename_i last above hreverse
      split_ifs at hchild with habove
      obtain ⟨rfl, rfl⟩ := Prod.mk.inj (Option.some.inj hchild)
      rw [← List.reverse_reverse other, hreverse, List.reverse_cons, habove] at hentry
      exact hentry
  · intro hentry
    exact ⟨_, hentry, by simp⟩

theorem IsSound.mem_children_iff (h : t.IsSound) :
    (name, node) ∈ t.children place ↔ t.node? (place ++ [name]) = some node :=
  mem_children_iff_entry.trans h.mem_entries_iff

theorem nodup_children (h : t.entries.Nodup) : (t.children place).Nodup := by
  unfold children
  refine h.filterMap ?_
  rintro ⟨other, node⟩ ⟨other', node'⟩ child hchild hchild'
  dsimp only at hchild hchild'
  split at hchild
  · cases hchild
  · rename_i last above hreverse
    split at hchild'
    · cases hchild'
    · rename_i last' above' hreverse'
      split_ifs at hchild with habove
      · split_ifs at hchild' with habove'
        · obtain rfl := Option.some.inj hchild
          obtain ⟨rfl, hnode⟩ := Prod.mk.inj (Option.some.inj hchild')
          refine Prod.ext ?_ hnode.symm
          rw [List.reverse_eq_cons_iff.1 hreverse, List.reverse_eq_cons_iff.1 hreverse', habove,
            habove']
        · cases hchild'
      · cases hchild

/-- No two children have one name. -/
theorem IsSound.nodup_names (h : t.IsSound) : ((t.children place).map Prod.fst).Nodup := by
  refine (nodup_children (List.Nodup.of_map _ h.nodup)).map_on ?_
  rintro ⟨name, node⟩ hchild ⟨other, node'⟩ hchild' hsame
  obtain rfl : name = other := hsame
  rw [h.mem_children_iff] at hchild hchild'
  rw [Option.some.inj (hchild.symm.trans hchild')]

end Provenance.Files.Tree
