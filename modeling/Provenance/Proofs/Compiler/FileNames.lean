import Provenance.Proofs.Compiler.Installed
import Provenance.Proofs.Files.Joining
import Provenance.Text.Basic

/-!
The file names of builds. The long version in the name is foreign text, so a name is
used only if it is valid, and what valid names are does not mention what could go wrong.
Here that is spelled out: such a name is safe as a word of a command, it is one part of
a path, and in the directory of artifacts it leads to a place of its own, which is not
where files are put together. No two builds that differ in the platform or in the long
version have one name, valid or not.
-/

namespace Provenance

open Files

namespace FileName

def metacharacters : List Char :=
  "|&;()<>$\x60\\\"\x27*?[]#~=%!\x7b\x7d^, \t\r\n".toList

structure IsSafe (name : String) : Prop where
  front : ∃ first rest, name.toList = first :: rest ∧ first ≠ '.' ∧ first ≠ '-'
  noSeparator : ∀ c ∈ name.toList, c ≠ '/' ∧ c ≠ '\\'
  noParent : ¬ "..".toList <:+: name.toList
  noBlank : ∀ c ∈ name.toList, Cut.isBlank c = false
  noMetacharacter : ∀ c ∈ name.toList, c ∉ metacharacters
  onePart : partsOf name = [.named name]

theorem hasDoublePoint_of_isInfix {cs : List Char} (h : ['.', '.'] <:+: cs) :
    hasDoublePoint cs = true := by
  obtain ⟨before, behind, rfl⟩ := h
  induction before with
  | nil => rfl
  | cons c before ih =>
    rw [List.cons_append, List.cons_append]
    unfold hasDoublePoint
    split
    · rfl
    · rename_i hcons
      cases hcons
      exact ih
    · rename_i hnil
      cases hnil

theorem isPlain_metacharacter : ∀ c ∈ metacharacters, isPlain c = false := by
  have hall : (metacharacters.all fun c => !isPlain c) = true := by decide
  intro c hc
  simpa using List.all_eq_true.1 hall c hc

/-- Plain characters are printed, and none of them is the blank. -/
theorem toNat_of_isPlain {c : Char} (h : isPlain c = true) : 0x20 < c.toNat ∧ c.toNat < 0x7F := by
  have hval (d : Char) : d.val.toNat = d.toNat := rfl
  simp only [isPlain, Ascii.isAlphanumeric, Ascii.isDigit, Ascii.isLetter, Bool.or_eq_true,
    Bool.and_eq_true, decide_eq_true_eq, Char.le_def, UInt32.le_iff_toNat_le, hval] at h
  rcases h with (((((h | h | h) | h) | h) | h) | h)
  · exact ⟨by simp at h; omega, by simp at h; omega⟩
  · exact ⟨by simp at h; omega, by simp at h; omega⟩
  · exact ⟨by simp at h; omega, by simp at h; omega⟩
  all_goals
    subst h
    decide

theorem isBlank_of_isPlain {c : Char} (h : isPlain c = true) : Cut.isBlank c = false := by
  obtain ⟨hlow, hhigh⟩ := toNat_of_isPlain h
  simp only [Cut.isBlank, Bool.or_eq_false_iff, Bool.and_eq_false_iff, decide_eq_false_iff_not]
  omega

theorem isName_of_isValid {name : String} (h : isValid name = true) : Tree.IsName name := by
  obtain ⟨hslash, hplain, -⟩ := plain_of_isValid h
  obtain ⟨-, -, -, hlength, -, hall, -⟩ := exists_of_isValid h
  exact ⟨hplain, ⟨hslash, fun hmem => absurd (hall _ hmem) (by decide)⟩, hlength⟩

theorem isSafe_of_isValid {name : String} (h : isValid name = true) : IsSafe name := by
  obtain ⟨first, rest, hname, -, hfirst, hall, hpoints⟩ := exists_of_isValid h
  constructor
  · refine ⟨first, rest, hname, ?_, ?_⟩
    all_goals
      rintro rfl
      exact absurd hfirst (by decide)
  · intro c hc
    constructor
    all_goals
      rintro rfl
      exact absurd (hall _ hc) (by decide)
  · intro hinfix
    rw [hasDoublePoint_of_isInfix hinfix] at hpoints
    cases hpoints
  · exact fun c hc => isBlank_of_isPlain (hall c hc)
  · intro c hc hmeta
    have hplain := hall c hc
    rw [isPlain_metacharacter c hmeta] at hplain
    cases hplain
  · have hparts := (isName_of_isValid h).partsOf_joinPath ""
    rwa [joinPath_empty] at hparts

end FileName

namespace Artifacts

variable {a : Artifacts} {name : String}

structure IsChild (a : Artifacts) (name : String) : Prop where
  ne_staging : name ≠ stagingName
  parts : partsOf (a.path name) = partsOf a.directory ++ [.named name]
  place : ∀ {t : Tree} {home : Place}, t.locate a.directory = .ok home →
    t.node? home = some .directory → (a.path name).utf8ByteSize ≤ Tree.maxPath →
      t.locate (a.path name) = .ok (home ++ [name])
  apart : ∀ {t : Tree} {place : Place}, t.locate (a.path name) = .ok place →
    t.locate a.stagingPath ≠ .ok place

theorem isChild_of_isValid (a : Artifacts) (h : FileName.isValid name = true)
    (hne : name ≠ stagingName) : a.IsChild name := by
  have hname := FileName.isName_of_isValid h
  have hstaging : Tree.IsName stagingName := FileName.isName_of_isValid (by decide)
  exact ⟨hne, hname.partsOf_joinPath _, Tree.locate_joinPath_of_le hname,
    Tree.locate_joinPath_ne hname hstaging hne⟩

end Artifacts

/-- Files are not put together under the name of a build. -/
theorem Platform.artifactName_ne_staging (platform : Platform) (longVersion : String) :
    platform.artifactName longVersion ≠ Artifacts.stagingName := by
  intro heq
  have hlist := congrArg String.toList heq
  simp [artifactName, Artifacts.stagingName] at hlist

/-- The file names of builds are told apart by the builds, and a valid one is safe and
has a file of its own in the directory. -/
theorem artifact_file_is_child (a : Artifacts) (platform : Platform) (longVersion : String) :
    (∀ other longVersion', platform.artifactName longVersion = other.artifactName longVersion' →
      platform = other ∧ longVersion = longVersion') ∧
      (FileName.isValid (platform.artifactName longVersion) = true →
        FileName.IsSafe (platform.artifactName longVersion) ∧
          a.IsChild (platform.artifactName longVersion)) :=
  ⟨fun _ _ hname => Platform.artifactName_inj hname, fun hvalid =>
    ⟨FileName.isSafe_of_isValid hvalid,
      a.isChild_of_isValid hvalid (platform.artifactName_ne_staging longVersion)⟩⟩

/-- A build for Windows in a directory that is written with a separator at its end. -/
theorem artifact_file_is_child_windows :
    FileName.isValid (Platform.windows.artifactName "0.8.9+commit.e5eed63a") = true ∧
      FileName.IsSafe "solc-windows-amd64-v0.8.9+commit.e5eed63a.exe" ∧
        (⟨[([], .directory), (["cache"], .directory)]⟩ : Tree).locate
          "/cache/solc-windows-amd64-v0.8.9+commit.e5eed63a.exe" =
            .ok ["cache", "solc-windows-amd64-v0.8.9+commit.e5eed63a.exe"] := by
  have hvalid : FileName.isValid (Platform.windows.artifactName "0.8.9+commit.e5eed63a") = true := by
    decide
  obtain ⟨-, hchild⟩ := artifact_file_is_child (.inDirectory "/cache/") .windows
    "0.8.9+commit.e5eed63a"
  obtain ⟨hsafe, hchild⟩ := hchild hvalid
  exact ⟨hvalid, hsafe, @hchild.place _ ["cache"] rfl rfl (by decide)⟩

end Provenance
