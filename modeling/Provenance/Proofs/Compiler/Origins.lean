import Provenance.Proofs.Compiler.Interruption

/-!
Where the files of a directory come from. Calls follow one another, each in a network of
its own, and some break off. What a name leads to was transferred by a call for this very
name and is never changed again. One name is the exception: that of the directory in which
files are put together. It is a valid name, and before a transfer it is only asked whether
something is there, not whether it is a file, so the path of the directory is given out
once the directory was made.
-/

namespace Provenance.Artifacts

open Files

structure Call where
  order : ArtifactOrder
  network : Net.Network

def Call.around (call : Call) (t : Tree) : Surroundings := ⟨t, call.network⟩

variable {a a' a'' : Artifacts} {t t' t'' u : Tree} {call : Call} {calls behind : List Call}
  {result : Except FetchFault String} {name path : String} {file : Bytes}

/-- What a call leaves. Its download comes to its end, or breaks off where the system
refuses to go on. -/
inductive Leaves (a : Artifacts) (t : Tree) (call : Call) :
    Artifacts → Tree → Except FetchFault String → Prop
  | ended : Leaves a t call (a.download (call.around t) call.order).1
      (a.download (call.around t) call.order).2.1.files
      (a.download (call.around t) call.order).2.2
  | brokenOff {w : Surroundings} {fault : FetchFault}
      (hname : FileName.isValid call.order.fileName = true)
      (hunpublished : a.published? call.order.fileName = none)
      (hbreaks : a.BreaksOff (call.around t) call.order w fault) :
      Leaves a t call a.countLookup w.files (.error fault)

inductive Calls (a : Artifacts) (t : Tree) : List Call → Artifacts → Tree → Prop
  | none : Calls a t [] a t
  | next {calls : List Call} {call : Call} {a' a'' : Artifacts} {t' t'' : Tree}
      {result : Except FetchFault String} (h : Calls a t calls a' t')
      (hcall : a'.Leaves t' call a'' t'' result) : Calls a t (calls ++ [call]) a'' t''

/-- What a call comes to, by the way its download takes. -/
inductive Comes (a : Artifacts) (t : Tree) (call : Call) :
    Artifacts → Tree → Except FetchFault String → Prop
  | misnamed {fault : FetchFault} (hname : FileName.isValid call.order.fileName = false) :
      Comes a t call a t (.error fault)
  | published {path : String} (hname : FileName.isValid call.order.fileName = true)
      (hpublished : a.published? call.order.fileName = some path) :
      Comes a t call a.countLookup.countHit t (.ok path)
  | present (hname : FileName.isValid call.order.fileName = true)
      (hpresent : a.isPresent t call.order.fileName = .ok true) :
      Comes a t call (a.countLookup.publish call.order.fileName) t
        (.ok (a.path call.order.fileName))
  | transferred {data : Bytes} (hwants : a.Wants (call.around t) call.order)
      (hpath : (a.download (call.around t) call.order).2.2 = .ok (a.path call.order.fileName))
      (hfetch : Fetches call.network call.order.url (.ok data))
      (hstored : (a.store t call.order data).2 = .ok ())
      (hartifacts : (a.download (call.around t) call.order).1 =
        a.countLookup.publish call.order.fileName)
      (hfiles : (a.download (call.around t) call.order).2.1.files =
        (a.store t call.order data).1) :
      Comes a t call (a.countLookup.publish call.order.fileName) (a.store t call.order data).1
        (.ok (a.path call.order.fileName))
  | brokenOff {w : Surroundings} {fault : FetchFault}
      (hname : FileName.isValid call.order.fileName = true)
      (hunpublished : a.published? call.order.fileName = none)
      (hbreaks : a.BreaksOff (call.around t) call.order w fault) :
      Comes a t call a.countLookup w.files (.error fault)

theorem comes_of_download (a : Artifacts) (t : Tree) (call : Call) :
    a.Comes t call (a.download (call.around t) call.order).1
      (a.download (call.around t) call.order).2.1.files
      (a.download (call.around t) call.order).2.2 := by
  by_cases hname : FileName.isValid call.order.fileName = true
  · cases hresult : (a.download (call.around t) call.order).2.2 with
    | error fault =>
      obtain ⟨hunpublished, hsame, hbreaks⟩ := breaksOff_of_download hname hresult
      rw [hsame]
      exact .brokenOff hname hunpublished hbreaks
    | ok path =>
      have hdownload := download_of_isValid (a := a) (w := call.around t) hname
      cases hpublished : a.published? call.order.fileName with
      | some found =>
        rw [hpublished] at hdownload
        rw [hdownload] at hresult ⊢
        obtain rfl : found = path := Except.ok.inj hresult
        exact .published hname hpublished
      | none =>
        rw [hpublished] at hdownload
        unfold Artifacts.obtain at hdownload
        have hlooked : a.countLookup.isPresent (call.around t).files call.order.fileName =
          a.isPresent t call.order.fileName := rfl
        rw [hlooked] at hdownload
        cases hpresent : a.isPresent t call.order.fileName with
        | error fault =>
          rw [hpresent] at hdownload
          rw [hdownload] at hresult
          cases hresult
        | ok found =>
          cases found with
          | true =>
            rw [hpresent] at hdownload
            rw [hdownload] at hresult ⊢
            obtain rfl : a.path call.order.fileName = path := Except.ok.inj hresult
            exact .present hname hpresent
          | false =>
            have hwants : a.Wants (call.around t) call.order := ⟨hname, hpublished, hpresent⟩
            obtain ⟨data, hfetch, hstored, rfl, hartifacts, hfiles⟩ := hwants.exists_store hresult
            rw [hartifacts, hfiles]
            exact .transferred hwants hresult hfetch hstored hartifacts hfiles
  · have hinvalid : FileName.isValid call.order.fileName = false := eq_false_of_ne_true hname
    unfold download
    rw [hinvalid]
    exact .misnamed hinvalid

theorem Leaves.comes (h : a.Leaves t call a' t' result) : a.Comes t call a' t' result := by
  cases h with
  | ended => exact comes_of_download a t call
  | brokenOff hname hunpublished hbreaks => exact .brokenOff hname hunpublished hbreaks

namespace Comes

variable (h : a.Comes t call a' t' result)

include h

theorem directory_eq : a'.directory = a.directory := by
  cases h <;> rfl

/-- A call takes nothing away. -/
theorem keeps : t.Keeps t' := by
  cases h with
  | misnamed | published | present => exact Tree.Keeps.refl t
  | transferred => exact (a.stores_of_store t _ _).keeps
  | brokenOff _ _ hbreaks => exact hbreaks.adds.keeps

theorem isStraight (hstraight : a.IsStraight t) : a'.IsStraight t' := by
  cases h with
  | misnamed | published | present => exact hstraight
  | transferred => exact (a.stores_of_store t _ _).isStraight hstraight
  | brokenOff _ _ hbreaks => exact hbreaks.isStraight hstraight

/-- What is in a file does not change. -/
theorem read (hstraight : a.IsStraight t) (hname : FileName.isValid name = true)
    (hread : t.read (a.path name) = .ok file) : t'.read (a.path name) = .ok file := by
  cases h with
  | misnamed | published | present => exact hread
  | transferred hwants =>
    apply (a.stores_of_store t _ _).read_other hstraight hwants.valid hname _ hread
    intro hself
    have habsent := isPresent_eq_ok_iff.1 hwants.absent
    obtain ⟨place, executable, hlocate, hfile⟩ := Tree.read_eq_ok_iff.1 hread
    have hthere := Tree.exists?_eq_true_iff.2 ⟨place, hlocate, by rw [hfile, Option.isSome_some]⟩
    rw [hself] at hthere
    cases hthere.symm.trans habsent
  | brokenOff _ _ hbreaks => exact hbreaks.adds.read hread

end Comes

theorem Calls.keeps (h : a.Calls t calls a' t') : t.Keeps t' := by
  induction h with
  | none => exact Tree.Keeps.refl t
  | next _ hcall ih => exact ih.trans hcall.comes.keeps

/-- Calls change no file that is there. -/
theorem Calls.read (h : a.Calls t calls a' t') (hstraight : a.IsStraight t)
    (hname : FileName.isValid name = true) (hread : t.read (a.path name) = .ok file) :
    t'.read (a.path name) = .ok file := by
  suffices hall : a'.directory = a.directory ∧ a'.IsStraight t' ∧
      t'.read (a.path name) = .ok file from hall.2.2
  induction h with
  | none => exact ⟨rfl, hstraight, hread⟩
  | next _ hcall ih =>
    obtain ⟨hdirectory, hstraight, hread⟩ := ih
    refine ⟨hcall.comes.directory_eq.trans hdirectory, hcall.comes.isStraight hstraight, ?_⟩
    rw [path, ← hdirectory] at hread ⊢
    exact hcall.comes.read hstraight hname hread

/-! Where files come from -/

/-- A file that one of several calls transferred under its name. -/
inductive IsBrought (a : Artifacts) (t : Tree) (calls : List Call) (a' : Artifacts) (t' : Tree)
    (name : String) (file : Bytes) : Prop
  | intro {before behind : List Call} {call : Call} {b : Artifacts} {u : Tree} {path : String}
      {data : Bytes} (hcalls : calls = before ++ call :: behind)
      (hname : call.order.fileName = name) (hbefore : a.Calls t before b u)
      (hwants : b.Wants (call.around u) call.order)
      (hpath : (b.download (call.around u) call.order).2.2 = .ok path)
      (hfetch : Fetches call.network call.order.url (.ok data))
      (hfile : IsFileOf call.order data file)
      (hbehind : (b.download (call.around u) call.order).1.Calls
        (b.download (call.around u) call.order).2.1.files behind a' t') :
      IsBrought a t calls a' t' name file

theorem IsBrought.next (h : a.IsBrought t calls a' t' name file)
    (hcall : a'.Leaves t' call a'' t'' result) :
    a.IsBrought t (calls ++ [call]) a'' t'' name file := by
  obtain ⟨rfl, hname, hbefore, hwants, hpath, hfetch, hfile, hbehind⟩ := h
  exact .intro (by rw [List.append_assoc, List.cons_append]) hname hbefore hwants hpath hfetch
    hfile (hbehind.next hcall)

structure Traces (a : Artifacts) (t : Tree) (calls : List Call) (a' : Artifacts) (t' : Tree) :
    Prop where
  run : a.Calls t calls a' t'
  straight : a'.IsStraight t'
  published : ∀ name path, a'.published? name = some path →
    path = a'.path name ∧ a'.isPresent t' name = .ok true
  staging : ∀ node, t'.find a'.stagingPath = .ok node → node = .directory
  origin : ∀ name, FileName.isValid name = true → name ≠ stagingName →
    a'.isPresent t' name = .ok true →
      ∃ file, a.IsBrought t calls a' t' name file ∧ t'.read (a'.path name) = .ok file

theorem IsEmpty.traces (h : a.IsEmpty t) (hnew : a.published = []) : a.Traces t [] a t where
  run := .none
  straight := h.straight
  published name path hpath := by simp [published?, hnew] at hpath
  staging node hnode := by
    have hthere : a.isPresent t stagingName = .ok true := by
      rw [isPresent_eq_ok_iff, Tree.exists?, ← stagingPath, hnode]
    exact absurd hthere (h.missing stagingName (by decide))
  origin name hname _ hpresent := absurd hpresent (h.missing name hname)

/-- What is there after a download that broke off was there before. -/
theorem BreaksOff.isPresent_before {w w' : Surroundings} {order : ArtifactOrder}
    {fault : FetchFault} (h : a.BreaksOff w order w' fault) (hstraight : a.IsStraight w.files)
    (hname : FileName.isValid name = true) (hne : name ≠ stagingName)
    (hpresent : a.isPresent w'.files name = .ok true) : a.isPresent w.files name = .ok true := by
  have hplaced : a.IsWellPlaced w.files := ⟨hstraight, fits_of_isPresent hname hpresent⟩
  rw [← isPresent_of_find (h.find_eq hplaced hname hne), hpresent]

/-- When a file was stored, its staging directory is one. -/
theorem find_staging_of_store {order : ArtifactOrder} {data : Bytes}
    (hstored : (a.store t order data).2 = .ok ()) {node : Node}
    (hnode : (a.store t order data).1.find a.stagingPath = .ok node) : node = .directory := by
  have hstores := a.stores_of_store t order data
  rw [hstored] at hstores
  generalize (a.store t order data).1 = v at hstores hnode
  cases hstores with
  | settled hpave _ htarget hmoved =>
    obtain ⟨-, hwalk, hdirectory⟩ := Tree.pave_eq_ok hpave
    have hkeeps := keeps_of_target htarget hmoved
    rw [Tree.find_eq] at hnode
    split_ifs at hnode
    obtain ⟨place, hplace, hthere⟩ := Tree.seek_eq_ok_iff.1 hnode
    rw [Tree.walk_of_directories hkeeps.directory hwalk] at hplace
    obtain rfl := Except.ok.inj hplace
    exact Option.some.inj (hthere.symm.trans (hkeeps.directory hdirectory))

namespace Traces

variable (h : a.Traces t calls a' t')

include h

/-- A path that is given out leads to something. -/
theorem delivered (hcall : a'.Comes t' call a'' t'' (.ok path)) :
    FileName.isValid call.order.fileName = true ∧ path = a'.path call.order.fileName ∧
      a''.isPresent t'' call.order.fileName = .ok true := by
  cases hcall with
  | published hname hpublished =>
    obtain ⟨hpath, hpresent⟩ := h.published _ _ hpublished
    exact ⟨hname, hpath, hpresent⟩
  | present hname hpresent => exact ⟨hname, rfl, hpresent⟩
  | transferred hwants _ _ hstored => exact ⟨hwants.valid, rfl, isPresent_of_store hstored⟩

theorem published_next (hcall : a'.Comes t' call a'' t'' result) {path : String}
    (hpath : a''.published? name = some path) :
    path = a''.path name ∧ a''.isPresent t'' name = .ok true := by
  have hkept (path : String) (hpath : a'.published? name = some path) :
      path = a'.path name ∧ a'.isPresent t'' name = .ok true := by
    obtain ⟨rfl, hpresent⟩ := h.published name path hpath
    rw [isPresent_eq_ok_iff] at hpresent ⊢
    exact ⟨rfl, Tree.exists?_keeps hcall.keeps hpresent⟩
  cases hcall with
  | misnamed | published => exact hkept _ hpath
  | present _ hpresent =>
    rcases published?_publish hpath with ⟨rfl, rfl⟩ | hbefore
    · exact ⟨rfl, hpresent⟩
    · exact hkept _ hbefore
  | transferred _ _ _ hstored =>
    rcases published?_publish hpath with ⟨rfl, rfl⟩ | hbefore
    · exact ⟨rfl, isPresent_of_store hstored⟩
    · exact hkept _ hbefore
  | brokenOff => exact hkept _ hpath

theorem staging_next (hcall : a'.Comes t' call a'' t'' result) {node : Node}
    (hnode : t''.find a''.stagingPath = .ok node) : node = .directory := by
  cases hcall with
  | misnamed | published | present => exact h.staging node hnode
  | transferred _ _ _ hstored => exact find_staging_of_store hstored hnode
  | brokenOff _ _ hbreaks =>
    have hnames : Tree.namesOf a'.stagingPath = a'.above ++ [stagingName] :=
      a'.namesOf_path (by decide)
    rcases h.straight.find_of_adds hnames (by decide) hbreaks.adds hnode with hbefore | hnew
    · exact h.staging node hbefore
    · exact hnew

theorem origin_next (hcall : a'.Leaves t' call a'' t'' result)
    (hname : FileName.isValid name = true) (hne : name ≠ stagingName)
    (hpresent : a''.isPresent t'' name = .ok true) :
    ∃ file, a.IsBrought t (calls ++ [call]) a'' t'' name file ∧
      t''.read (a''.path name) = .ok file := by
  have hkept (hbefore : a'.isPresent t' name = .ok true) :
      ∃ file, a.IsBrought t (calls ++ [call]) a'' t'' name file ∧
        t''.read (a'.path name) = .ok file := by
    obtain ⟨file, hbrought, hread⟩ := h.origin name hname hne hbefore
    exact ⟨file, hbrought.next hcall, hcall.comes.read h.straight hname hread⟩
  cases hcall.comes with
  | misnamed | published | present => exact hkept hpresent
  | transferred hwants hpath hfetch hstored hartifacts hfiles =>
    by_cases hself : name = call.order.fileName
    · subst hself
      obtain ⟨file, hholds⟩ := holds_of_store hstored
      refine ⟨file, ?_, hholds.read⟩
      refine .intro rfl rfl h.run hwants hpath hfetch hholds.isFileOf ?_
      rw [hartifacts, hfiles]
      exact .none
    · have hstores := a'.stores_of_store t' call.order
      apply hkept
      exact (hstores _).isPresent_before h.straight hwants.valid hname hne
        (fun heq => absurd heq hself) hpresent
  | brokenOff _ _ hbreaks => exact hkept (hbreaks.isPresent_before h.straight hname hne hpresent)

theorem next (hcall : a'.Leaves t' call a'' t'' result) :
    a.Traces t (calls ++ [call]) a'' t'' where
  run := h.run.next hcall
  straight := hcall.comes.isStraight h.straight
  published _ _ hpath := h.published_next hcall.comes hpath
  staging _ hnode := h.staging_next hcall.comes hnode
  origin _ hname hne hpresent := h.origin_next hcall hname hne hpresent

end Traces

/-- Of what is made for putting files together, only its own name leads to any part. -/
theorem IsStraight.beside_staging_iff {staging place : Place} (hstraight : a.IsStraight t)
    (hpave : t.makeDirectories a.stagingPath = .ok (u, staging))
    (hname : FileName.isValid name = true) (hplace : u.locate (a.path name) = .ok place) :
    place <+: staging ∨ staging <+: place ↔ name = stagingName := by
  obtain ⟨home, hhome, -⟩ := hstraight.exists_home hpave
  have hstaging : staging = home ++ [stagingName] := by
    have hwalk := hhome.walk_path (show FileName.isValid stagingName = true by decide)
    exact Except.ok.inj ((Tree.pave_eq_ok hpave).2.1.symm.trans hwalk)
  have hplace : place = home ++ [name] := hhome.eq_of_locate hname hplace
  rw [hstaging, hplace]
  constructor
  · intro h
    have heq : home ++ [name] = home ++ [stagingName] := by
      rcases h with h | h
      · exact h.eq_of_length (by simp)
      · exact (h.eq_of_length (by simp)).symm
    simpa using heq
  · rintro rfl
    exact .inl (List.prefix_refl _)

/-- If nothing is in a directory at first, then whatever calls follow, each path that one
of them gives out for a name other than that of the staging directory leads to a file. A
call for this very name transferred it, and later calls do not change it. Nothing else
is ever at such a name. The path of the staging directory leads to this directory if it
is given out, and no other name leads to it, into it, or to a directory around it. -/
theorem delivered_file_was_transferred (hempty : a.IsEmpty t) (hnew : a.published = [])
    (hcalls : a.Calls t calls a' t') :
    (∀ call a'' t'' path, a'.Leaves t' call a'' t'' (.ok path) →
      FileName.isValid call.order.fileName = true ∧ path = a'.path call.order.fileName ∧
      (call.order.fileName ≠ stagingName →
        ∃ file, a.IsBrought t (calls ++ [call]) a'' t'' call.order.fileName file ∧
          ∀ behind b u, a''.Calls t'' behind b u → u.read path = .ok file) ∧
      (call.order.fileName = stagingName →
        ∀ behind b u, a''.Calls t'' behind b u → u.find path = .ok .directory)) ∧
    (∀ name, FileName.isValid name = true → name ≠ stagingName →
      a'.isPresent t' name = .ok true →
        ∃ file, a.IsBrought t calls a' t' name file ∧ t'.read (a'.path name) = .ok file) ∧
    (∀ name u staging place, FileName.isValid name = true →
      t'.makeDirectories a'.stagingPath = .ok (u, staging) →
        u.locate (a'.path name) = .ok place →
          (place <+: staging ∨ staging <+: place ↔ name = stagingName)) := by
  have htraces : a.Traces t calls a' t' := by
    induction hcalls with
    | none => exact hempty.traces hnew
    | next _ hcall ih => exact ih.next hcall
  refine ⟨fun call a'' t'' path hcall => ?_, htraces.origin, ?_⟩
  · have hcomes := hcall.comes
    have hlast := htraces.next hcall
    obtain ⟨hname, rfl, hpresent⟩ := htraces.delivered hcomes
    have hpath : a''.path call.order.fileName = a'.path call.order.fileName := by
      rw [Artifacts.path, Artifacts.path, hcomes.directory_eq]
    refine ⟨hname, rfl, fun hne => ?_, fun heq behind b u hbehind => ?_⟩
    · obtain ⟨file, hbrought, hread⟩ := hlast.origin _ hname hne hpresent
      refine ⟨file, hbrought, fun behind b u hbehind => ?_⟩
      rw [← hpath]
      exact hbehind.read hlast.straight hname hread
    · rw [← hpath]
      obtain ⟨place, hlocate, hsome⟩ := Tree.exists?_eq_true_iff.1 (isPresent_eq_ok_iff.1 hpresent)
      obtain ⟨node, hnode⟩ := Option.isSome_iff_exists.1 hsome
      have hfind := Tree.find_eq_ok_iff.2 ⟨place, hlocate, hnode⟩
      obtain rfl := hlast.staging node (by rwa [stagingPath, ← heq])
      exact Tree.find_directory_keeps hbehind.keeps hfind
  · intro name u staging place hname hpave hplace
    exact htraces.straight.beside_staging_iff hpave hname hplace

/-! An empty directory -/

def asked (name file : String) (content : Bytes) : Call where
  order := { orderFor file with fileName := name }
  network := .scripted [("http://bin/" ++ file, [.response ⟨200, content⟩])]

/-- A file is transferred, and then the staging directory is asked for. -/
theorem transferred_before_staging_directory :
    let a := inDirectory "cache"
    let t := Tree.empty.set ["cache"] .directory
    let first := a.download ((asked "x" "x" [65]).around t) (asked "x" "x" [65]).order
    let call := asked "downloads" "x" [65]
    let second := first.1.download (call.around first.2.1.files) call.order
    (∃ file, a.IsBrought t [asked "x" "x" [65]] first.1 first.2.1.files "x" file ∧
      second.2.1.files.read "cache/x" = .ok file) ∧
      second.2.1.files.find "cache/downloads" = .ok .directory := by
  intro a t first call second
  have hhome : a.IsHome t ["cache"] := ⟨by decide +kernel, by decide +kernel⟩
  have hempty : a.IsEmpty t := hhome.isEmpty fun _ => rfl
  have hfirst : first.2.2 = .ok "cache/x" := by decide +kernel
  have hsecond : second.2.2 = .ok "cache/downloads" := by decide +kernel
  have hcall : a.Leaves t (asked "x" "x" [65]) first.1 first.2.1.files (.ok "cache/x") := by
    rw [← hfirst]
    exact .ended
  have hnext : first.1.Leaves first.2.1.files call second.1 second.2.1.files
      (.ok "cache/downloads") := by
    rw [← hsecond]
    exact .ended
  obtain ⟨hdelivered, -⟩ := delivered_file_was_transferred hempty rfl .none
  obtain ⟨-, -, hfile, -⟩ := hdelivered _ _ _ _ hcall
  obtain ⟨file, hbrought, hread⟩ := hfile (by decide)
  obtain ⟨hdelivered, -⟩ := delivered_file_was_transferred hempty rfl (Calls.none.next hcall)
  obtain ⟨-, -, -, hstaging⟩ := hdelivered _ _ _ _ hnext
  exact ⟨⟨file, hbrought, hread _ _ _ (Calls.none.next hnext)⟩, hstaging rfl _ _ _ .none⟩

/-- A download that fails makes the staging directory, which is given out as a file. -/
theorem staging_directory_delivered :
    let a := inDirectory "cache"
    let t := Tree.empty.set ["cache"] .directory
    let call := asked "x" "x.zip" [1]
    let failed := a.download (call.around t) call.order
    let next := asked "downloads" "x.zip" [1]
    let again := failed.1.download (next.around failed.2.1.files) next.order
    a.IsEmpty t ∧ failed.2.2 = .error (.archive "invalid Zip archive") ∧
      FileName.isValid "downloads" = true ∧ again.2.2 = .ok "cache/downloads" ∧
      again.2.1.files.find "cache/downloads" = .ok .directory := by
  intro a t call failed next again
  have hhome : a.IsHome t ["cache"] := ⟨by decide +kernel, by decide +kernel⟩
  exact ⟨hhome.isEmpty fun _ => rfl, by decide +kernel⟩

end Provenance.Artifacts
