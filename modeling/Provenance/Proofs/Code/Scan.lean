import Provenance.Proofs.Code.Appended

/-!
What a scan finds, said without the scan. Its trailers come in order and apart
from each other, and no trailer of the code begins outside them. Only one list
is like that. So a code in which trailers are marked is cut at just these marks,
provided that no other trailer begins in the main code between them.

Which first bytes a scan looks for is a parameter.
-/

namespace Provenance.Code

structure Trailer.IsIn (looks : UInt8 → Bool) (t : Trailer) (code : Bytes) : Prop
    extends t.OccursIn code where
  head : ∃ byte ∈ code[t.start]?, looks byte = true

/-- Trailers in order, none of them within another, such that every trailer that
begins at the place or behind it begins within one of them. -/
structure IsScan (looks : UInt8 → Bool) (code : Bytes) (place : Nat) (found : List Trailer) :
    Prop where
  ordered : found.Pairwise fun t u => t.stop ≤ u.start
  sound : ∀ t ∈ found, t.IsIn looks code ∧ place ≤ t.start
  complete : ∀ t : Trailer, t.IsIn looks code → place ≤ t.start →
    ∃ u ∈ found, u.start ≤ t.start ∧ t.start < u.stop

def trailerAt? (looks : UInt8 → Bool) (code : Bytes) : Option (Metadata × Nat) :=
  match code with
  | [] => none
  | head :: _ => if looks head then trailer? code else none

def scan (looks : UInt8 → Bool) (code : Bytes) : List Part :=
  match code with
  | [] => []
  | head :: rest =>
    match trailerAt? looks (head :: rest) with
    | some (record, size + 1) =>
      .trailer record (head :: rest.take size) :: scan looks (rest.drop size)
    | _ => .main head :: scan looks rest
  termination_by code.length
  decreasing_by all_goals simp; try omega

theorem parts_eq_scan (code : Bytes) : parts code = scan isRecordHead code := by
  fun_induction parts code with
  | case1 => rw [scan]
  | case2 head rest record size hfound ih =>
    have hscan : trailerAt? isRecordHead (head :: rest) = some (record, size + 1) := hfound
    rw [scan, hscan, ih]
  | case3 head rest hnone ih =>
    rw [scan]
    split
    · rename_i record size hfound
      exact absurd hfound (hnone record size)
    · rw [ih]

section Scan

variable {looks : UInt8 → Bool} {code : Bytes} {t u : Trailer}

theorem trailerAt?_eq_some_iff {found : Metadata × Nat} :
    trailerAt? looks code = some found ↔
      (∃ head ∈ code.head?, looks head = true) ∧ trailer? code = some found := by
  cases code with
  | nil => simp [trailerAt?]
  | cons head tail => by_cases h : looks head = true <;> simp [trailerAt?, h]

theorem Trailer.IsIn.start_lt (h : t.IsIn looks code) : t.start < t.stop := by
  have := h.stop_eq
  unfold suffixSize at this
  omega

/-- What begins at a place is a single trailer. -/
theorem Trailer.IsIn.eq_of_start (h : t.IsIn looks code) (h' : u.IsIn looks code)
    (hstart : t.start = u.start) : t = u := by
  have hdecoded := h.decoded
  rw [hstart, h'.decoded] at hdecoded
  obtain ⟨hrecord, hsize⟩ := Prod.mk.inj (Except.ok.inj hdecoded)
  have hstop : t.stop = u.stop := by rw [h.stop_eq, h'.stop_eq, hstart, hsize]
  obtain ⟨start, stop, record⟩ := t
  exact Trailer.mk.injEq .. ▸ ⟨hstart, hstop, hrecord.symm⟩

/-- A trailer at some place is one at the front of the code from there on. -/
theorem isIn_append_iff {before : Bytes} {stop : Nat} {record : Metadata} :
    Trailer.IsIn looks ⟨before.length, stop, record⟩ (before ++ code) ↔
      ∃ total, stop = before.length + total ∧ trailerAt? looks code = some (record, total) := by
  have hhead : (before ++ code)[before.length]? = code.head? := by
    rw [List.getElem?_append_right (Nat.le_refl _), Nat.sub_self, List.head?_eq_getElem?]
  constructor
  · rintro ⟨⟨hdecoded, hstop, hle, hsuffix⟩, hlooks⟩
    rw [hhead] at hlooks
    generalize Trailer.size _ = size at hdecoded hstop hsuffix
    rw [List.drop_left] at hdecoded
    rw [← List.drop_drop, List.drop_left] at hsuffix
    dsimp only at hstop hle
    rw [List.length_append, hstop] at hle
    refine ⟨size + suffixSize, by rw [hstop, Nat.add_assoc], ?_⟩
    have hfound := trailer?_eq_some_iff.2 ⟨size, hdecoded, rfl, by omega, hsuffix⟩
    exact trailerAt?_eq_some_iff.2 ⟨hlooks, hfound⟩
  · rintro ⟨total, rfl, hfound⟩
    obtain ⟨hlooks, htrailer⟩ := trailerAt?_eq_some_iff.1 hfound
    exact ⟨trailer_occursIn htrailer, by rwa [hhead]⟩

namespace IsScan

variable {place : Nat} {found found' : List Trailer}

/-- The first trailer is the first of all from the place on. -/
theorem start_le (h : IsScan looks code place (t :: found)) (hu : u.IsIn looks code)
    (hplace : place ≤ u.start) : t.start ≤ u.start := by
  obtain ⟨v, hv, hle, -⟩ := h.complete u hu hplace
  rcases List.mem_cons.1 hv with rfl | hv
  · exact hle
  · have hbehind := List.rel_of_pairwise_cons h.ordered hv
    have hlt := (h.sound t List.mem_cons_self).1.start_lt
    omega

theorem tail (h : IsScan looks code place (t :: found)) : IsScan looks code t.stop found := by
  obtain ⟨ht, hplace⟩ := h.sound t List.mem_cons_self
  refine ⟨h.ordered.tail, fun u hu => ?_, fun u hu hbehind => ?_⟩
  · exact ⟨(h.sound u (List.mem_cons_of_mem _ hu)).1, List.rel_of_pairwise_cons h.ordered hu⟩
  · have hlt := ht.start_lt
    obtain ⟨v, hv, hcovers⟩ := h.complete u hu (by omega)
    rcases List.mem_cons.1 hv with rfl | hv
    · omega
    · exact ⟨v, hv, hcovers⟩

theorem cons (h : IsScan looks code t.stop found) (ht : t.IsIn looks code)
    (hplace : place ≤ t.start)
    (hfirst : ∀ u : Trailer, u.IsIn looks code → place ≤ u.start → t.start ≤ u.start) :
    IsScan looks code place (t :: found) := by
  have hbehind (u : Trailer) (hu : u ∈ found) : t.stop ≤ u.start := (h.sound u hu).2
  refine ⟨List.pairwise_cons.2 ⟨hbehind, h.ordered⟩, fun u hu => ?_, fun u hu hle => ?_⟩
  · rcases List.mem_cons.1 hu with rfl | hu
    · exact ⟨ht, hplace⟩
    · have hlt := ht.start_lt
      have hle := hbehind u hu
      exact ⟨(h.sound u hu).1, by omega⟩
  · by_cases hwithin : u.start < t.stop
    · exact ⟨t, List.mem_cons_self, hfirst u hu hle, hwithin⟩
    · obtain ⟨v, hv, hcovers⟩ := h.complete u hu (Nat.le_of_not_lt hwithin)
      exact ⟨v, List.mem_cons_of_mem _ hv, hcovers⟩

/-- Nothing begins at the place itself. -/
theorem of_succ (h : IsScan looks code (place + 1) found)
    (hnone : ∀ u : Trailer, u.IsIn looks code → u.start ≠ place) :
    IsScan looks code place found := by
  refine ⟨h.ordered, fun t ht => ?_, fun t ht hle => ?_⟩
  · exact ⟨(h.sound t ht).1, Nat.le_of_succ_le (h.sound t ht).2⟩
  · have hne := hnone t ht
    exact h.complete t ht (by omega)

/-- No two scans differ: the first trailer of either is the first of all, and behind
it the others follow by induction. -/
theorem unique (h : IsScan looks code place found) (h' : IsScan looks code place found') :
    found = found' := by
  induction found generalizing place found' with
  | nil =>
    cases found' with
    | nil => rfl
    | cons t ts =>
      obtain ⟨ht, hplace⟩ := h'.sound t List.mem_cons_self
      obtain ⟨u, hu, -⟩ := h.complete t ht hplace
      cases hu
  | cons t ts ih =>
    obtain ⟨ht, hplace⟩ := h.sound t List.mem_cons_self
    cases found' with
    | nil =>
      obtain ⟨u, hu, -⟩ := h'.complete t ht hplace
      cases hu
    | cons u us =>
      obtain ⟨hu, hplace'⟩ := h'.sound u List.mem_cons_self
      have hstart := Nat.le_antisymm (h.start_le hu hplace') (h'.start_le ht hplace)
      obtain rfl : t = u := ht.eq_of_start hu hstart
      exact congrArg (t :: ·) (ih h.tail h'.tail)

end IsScan

/-- By induction on the scan, with the code that has been passed in front. -/
theorem isScan_locate (looks : UInt8 → Bool) (before code : Bytes) :
    IsScan looks (before ++ code) before.length (locate before.length (scan looks code)) := by
  fun_induction scan looks code generalizing before with
  | case1 =>
    refine ⟨.nil, nofun, fun t ht hbefore => ?_⟩
    have hstart := ht.start_lt
    have hstop := ht.stop_le
    rw [List.append_nil] at hstop
    omega
  | case2 head rest record size hfound ih =>
    obtain ⟨-, -, -, hlen, -⟩ := trailer?_eq_some_iff.1 (trailerAt?_eq_some_iff.1 hfound).2
    have hcontent : (head :: rest.take size).length = size + 1 := by
      simp only [List.length_cons, List.length_take] at hlen ⊢
      omega
    have hcode : before ++ head :: rest = (before ++ head :: rest.take size) ++ rest.drop size := by
      simp
    have hbehind := ih (before ++ head :: rest.take size)
    rw [← hcode, List.length_append, hcontent] at hbehind
    rw [locate, hcontent]
    exact hbehind.cons (isIn_append_iff.2 ⟨size + 1, rfl, hfound⟩) (Nat.le_refl _)
      fun u _ hplace => hplace
  | case3 head rest hnone ih =>
    have hcode : before ++ head :: rest = (before ++ [head]) ++ rest := by simp
    have hbehind := ih (before ++ [head])
    rw [← hcode, List.length_append, List.length_singleton] at hbehind
    rw [locate]
    refine hbehind.of_succ fun t ht hhere => ?_
    -- A trailer that begins here would have been found.
    obtain ⟨start, stop, record⟩ := t
    obtain rfl : start = before.length := hhere
    obtain ⟨total, -, hfound⟩ := isIn_append_iff.1 ht
    obtain ⟨n, -, rfl, -⟩ := trailer?_eq_some_iff.1 (trailerAt?_eq_some_iff.1 hfound).2
    exact hnone record (n + 1) hfound

end Scan

/-- The trailers of a scan are those that a scan has to find. -/
theorem trailers_eq_iff {code : Bytes} {found : List Trailer} :
    trailers code = found ↔ IsScan isRecordHead code 0 found := by
  have hscan : IsScan isRecordHead code 0 (trailers code) := by
    rw [trailers, parts_eq_scan]
    exact isScan_locate isRecordHead [] code
  exact ⟨fun h => h ▸ hscan, hscan.unique⟩

/-! Code in which trailers are marked -/

structure Stretch where
  trailer : Bytes
  main : Bytes

namespace Stretch

def bytes (front : Bytes) (stretches : List Stretch) : Bytes :=
  front ++ stretches.flatMap fun s => s.trailer ++ s.main

def mainBytes (front : Bytes) (stretches : List Stretch) : Bytes :=
  front ++ stretches.flatMap Stretch.main

/-- Where the trailers start and stop, the first of them at the given place. -/
def places (place : Nat) : List Stretch → List (Nat × Nat)
  | [] => []
  | s :: stretches =>
    (place, place + s.trailer.length) ::
      places (place + s.trailer.length + s.main.length) stretches

end Stretch

def Trailer.place (t : Trailer) : Nat × Nat := (t.start, t.stop)

structure IsHeadedTrailer (bytes : Bytes) : Prop where
  trailer : IsTrailer bytes
  head : ∃ head ∈ bytes.head?, isRecordHead head = true

/-- Whether bytes of the code are a trailer of it, they show by themselves. -/
theorem exists_isIn_iff (before content behind : Bytes) :
    (∃ record, Trailer.IsIn isRecordHead ⟨before.length, before.length + content.length, record⟩
        (before ++ (content ++ behind))) ↔ IsHeadedTrailer content := by
  constructor
  · rintro ⟨record, hin⟩
    obtain ⟨total, htotal, hfound⟩ := isIn_append_iff.1 hin
    obtain rfl : content.length = total := Nat.add_left_cancel htotal
    obtain ⟨hhead, htrailer⟩ := trailerAt?_eq_some_iff.1 hfound
    obtain ⟨n, hdecoded, hlen, -, hsuffix⟩ := trailer?_eq_some_iff.1 htrailer
    unfold suffixSize at hlen hsuffix
    have hback : (content.drop n).length = 2 := by
      rw [List.length_drop]
      omega
    obtain ⟨high, low, hpair⟩ := List.length_eq_two.1 hback
    have htake : (content ++ behind).take n = content.take n :=
      List.take_append_of_le_length (by omega)
    have hbody : (content.take n).length = n := by
      rw [List.length_take]
      omega
    have hdecoded := Metadata.decode_take hdecoded
    rw [htake] at hdecoded
    rw [List.drop_append_of_le_length (by omega), hpair] at hsuffix
    refine ⟨⟨content.take n, record, high, low, ?_, ?_, ?_⟩, ?_⟩
    · rw [← hpair, List.take_append_drop]
    · rw [hbody]
      exact hdecoded
    · rw [hbody, ← bigEndian_pair]
      exact hsuffix
    · have hne : content ≠ [] := by
        rintro rfl
        simp at hlen
      rwa [List.head?_append_of_ne_nil _ hne] at hhead
  · rintro ⟨htrailer, head, hmem, hhead⟩
    obtain ⟨record, hfound⟩ := htrailer.trailer?_append behind
    refine ⟨record, isIn_append_iff.2 ⟨_, rfl,
      trailerAt?_eq_some_iff.2 ⟨⟨head, ?_, hhead⟩, hfound⟩⟩⟩
    cases content with
    | nil => cases hmem
    | cons first tail => exact hmem

/-- The trailers of stretches, where they are in the code. -/
theorem exists_located (before front : Bytes) {stretches : List Stretch}
    (htrailers : ∀ s ∈ stretches, IsHeadedTrailer s.trailer) :
    ∃ found : List Trailer,
      found.map Trailer.place = Stretch.places (before ++ front).length stretches ∧
      (found.Pairwise fun t u => t.stop ≤ u.start) ∧
      ∀ t ∈ found, t.IsIn isRecordHead (before ++ Stretch.bytes front stretches) ∧
        (before ++ front).length ≤ t.start := by
  induction stretches generalizing before front with
  | nil => exact ⟨[], rfl, .nil, nofun⟩
  | cons s stretches ih =>
    have hcode : before ++ Stretch.bytes front (s :: stretches) =
        (before ++ front ++ s.trailer) ++ Stretch.bytes s.main stretches := by
      simp [Stretch.bytes]
    obtain ⟨found, hplaces, hordered, hsound⟩ :=
      ih (before ++ front ++ s.trailer) s.main
        fun u hu => htrailers u (List.mem_cons_of_mem _ hu)
    obtain ⟨record, hin⟩ := (exists_isIn_iff (before ++ front) s.trailer
      (Stretch.bytes s.main stretches)).2 (htrailers s List.mem_cons_self)
    rw [← List.append_assoc, ← hcode] at hin
    rw [← hcode] at hsound
    simp only [List.length_append] at hplaces hsound hin ⊢
    let first : Trailer := ⟨before.length + front.length,
      before.length + front.length + s.trailer.length, record⟩
    refine ⟨first :: found, ?_, List.pairwise_cons.2 ⟨fun t ht => ?_, hordered⟩, fun t ht => ?_⟩
    · rw [List.map_cons, hplaces]
      rfl
    · exact Nat.le_trans (Nat.le_add_right _ s.main.length) (hsound t ht).2
    · rcases List.mem_cons.1 ht with rfl | ht
      · exact ⟨hin, Nat.le_refl _⟩
      · have hbehind := (hsound t ht).2
        exact ⟨(hsound t ht).1, by omega⟩

theorem cut_of_places (before front : Bytes) {stretches : List Stretch} {found : List Trailer}
    (h : found.map Trailer.place = Stretch.places (before ++ front).length stretches) :
    cut before.length (before ++ Stretch.bytes front stretches) found =
      Stretch.mainBytes front stretches := by
  induction stretches generalizing before front found with
  | nil =>
    obtain rfl : found = [] := List.map_eq_nil_iff.1 h
    simp [cut, Stretch.bytes, Stretch.mainBytes]
  | cons s stretches ih =>
    cases found with
    | nil => cases h
    | cons t found =>
      obtain ⟨hplace, hplaces⟩ := List.cons.inj h
      obtain ⟨hstart, hstop⟩ := Prod.mk.inj hplace
      have hcode : before ++ Stretch.bytes front (s :: stretches) =
          (before ++ front ++ s.trailer) ++ Stretch.bytes s.main stretches := by
        simp [Stretch.bytes]
      have hrest := ih (before ++ front ++ s.trailer) s.main
        (by simpa only [List.length_append] using hplaces)
      rw [← hcode, List.length_append, ← hstop] at hrest
      have hfront : ((before ++ Stretch.bytes front (s :: stretches)).take t.start).drop
          before.length = front := by
        rw [hcode, List.append_assoc, hstart, List.take_left, List.drop_left]
      rw [cut, hfront, hrest]
      simp [Stretch.mainBytes]

theorem strip_stripOnce (code : Bytes) : strip (stripOnce code) = strip code := by
  by_cases h : trailers code = []
  · rw [stripOnce_eq_cut, h]
    rfl
  · rw [strip_of_trailers h]

/-- A scan finds the trailers of the code in order, in bounds and apart from each
other, and no trailer begins outside of them; no other list is like that. Bytes of
the code are such a trailer exactly if they are one by themselves. Where trailers
are marked in a code and no other begins in the main code between them, a scan finds
those that are marked, and stripping comes to what it comes to without them. -/
theorem scan_finds_trailers (code : Bytes) :
    (∀ found, trailers code = found ↔ IsScan isRecordHead code 0 found) ∧
    (∀ t ∈ trailers code, t.IsIn isRecordHead code ∧ t.start < t.stop ∧ t.stop ≤ code.length) ∧
    (∀ before content behind, code = before ++ (content ++ behind) →
      ((∃ record, Trailer.IsIn isRecordHead
          ⟨before.length, before.length + content.length, record⟩ code) ↔
        IsHeadedTrailer content)) ∧
    ∀ front stretches, code = Stretch.bytes front stretches →
      (∀ s ∈ stretches, IsHeadedTrailer s.trailer) →
      (∀ t : Trailer, t.IsIn isRecordHead code →
        ∃ place ∈ Stretch.places front.length stretches,
          place.1 ≤ t.start ∧ t.start < place.2) →
      (trailers code).map Trailer.place = Stretch.places front.length stretches ∧
        strip code = strip (Stretch.mainBytes front stretches) := by
  have hscan : IsScan isRecordHead code 0 (trailers code) := trailers_eq_iff.1 rfl
  refine ⟨fun found => trailers_eq_iff, fun t ht => ?_, ?_, ?_⟩
  · have hin := (hscan.sound t ht).1
    exact ⟨hin, hin.start_lt, hin.stop_le⟩
  · rintro before content behind rfl
    exact exists_isIn_iff before content behind
  · rintro front stretches rfl htrailers hclear
    obtain ⟨found, hplaces, hordered, hsound⟩ := exists_located [] front htrailers
    simp only [List.nil_append] at hplaces hsound
    have hfound : IsScan isRecordHead (Stretch.bytes front stretches) 0 found := by
      refine ⟨hordered, fun t ht => ⟨(hsound t ht).1, Nat.zero_le _⟩, fun t ht _ => ?_⟩
      obtain ⟨place, hplace, hcovers⟩ := hclear t ht
      rw [← hplaces] at hplace
      obtain ⟨u, hu, rfl⟩ := List.mem_map.1 hplace
      exact ⟨u, hu, hcovers⟩
    rw [trailers_eq_iff.2 hfound]
    refine ⟨hplaces, ?_⟩
    have hcut : cut 0 (Stretch.bytes front stretches) found = Stretch.mainBytes front stretches :=
      cut_of_places [] front hplaces
    rw [← strip_stripOnce, stripOnce_eq_cut, trailers_eq_iff.2 hfound, hcut]

/-- Two trailers behind a record that is cut off by a wrong size, with the front of a
record as main code behind them. -/
theorem scan_finds_releases :
    let front : Bytes := (releaseTrailer 18 5).dropLast ++ [0xFF]
    let stretches : List Stretch :=
      [⟨releaseTrailer 18 5, [0xA1]⟩, ⟨releaseTrailer 8 9, [0xA1, 0x64]⟩]
    let code := Stretch.bytes front stretches
    (trailers code).map Trailer.place = [(12, 24), (25, 37)] ∧
      strip code = strip (Stretch.mainBytes front stretches) := by
  intro front stretches code
  have hfound : (trailers code).map Trailer.place = [(12, 24), (25, 37)] := by decide +kernel
  obtain ⟨hscan, -, -, hmarked⟩ := scan_finds_trailers code
  refine hmarked front stretches rfl ?_ fun t ht => ?_
  · intro s hs
    have hhead : ∃ head ∈ ([0xA1] : Bytes).head?, isRecordHead head = true := ⟨0xA1, rfl, rfl⟩
    rcases List.mem_cons.1 hs with rfl | hs
    · exact ⟨isTrailer_release_18_5, hhead⟩
    · obtain rfl := List.mem_singleton.1 hs
      exact ⟨isTrailer_release_8_9, hhead⟩
  · obtain ⟨u, hu, hcovers⟩ := ((hscan _).1 rfl).complete t ht (Nat.zero_le _)
    have hplace := List.mem_map_of_mem (f := Trailer.place) hu
    rw [hfound] at hplace
    exact ⟨u.place, hplace, hcovers⟩

end Provenance.Code
