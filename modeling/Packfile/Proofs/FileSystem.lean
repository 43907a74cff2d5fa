import Packfile.FileSystem.Basic
import Packfile.Proofs.Text
import Packfile.Proofs.Traversal

/-!
# Files and directories at a path

A path that exists leads to a file or to a directory. Its last step tells something about which: a
path that ends with a slash asks what it has come to for an entry, so it leads to a directory or
nowhere. The path of an empty name is of this kind, whatever it is seen from, and it exists wherever
it is seen from a directory.
-/

namespace Packfile

namespace Path

/-- An empty name is seen as the place that it is seen from, with a slash at the end. -/
theorem join_empty (base : String) :
    (join base "" = base ∧ (base = "" ∨ ∃ front, base = front ++ "/")) ∨
      (join base "" = base ++ "/" ∧ base ≠ "") := by
  have relative : isAbsolute "" = false := rfl
  cases final : base.toList.getLast? with
  | none =>
      obtain rfl : base = "" := String.toList_eq_nil_iff.mp (List.getLast?_eq_none_iff.mp final)
      exact .inl ⟨rfl, .inl rfl⟩
  | some last =>
      by_cases slash : last = '/'
      · obtain ⟨front, split⟩ := List.getLast?_eq_some_iff.mp final
        have ends : base = String.ofList front ++ "/" := by
          rw [← String.toList_inj, split, slash, String.toList_append, String.toList_ofList]
          rfl
        exact .inl ⟨by simp [join, relative, final, slash], .inr ⟨_, ends⟩⟩
      · have some : base ≠ "" := by
          rintro rfl
          cases final
        exact .inr ⟨by simp [join, relative, final, slash], some⟩

end Path

namespace FileSystem

/-- Whether a path leads to a file. -/
def hasFile (fs : FileSystem) (path : String) : Bool :=
  match fs.find path with
  | .ok (.file ..) => true
  | .ok .directory | .error _ => false

/-- Whether a path leads to a directory. -/
def hasDirectory (fs : FileSystem) (path : String) : Bool :=
  match fs.find path with
  | .ok .directory => true
  | .ok (.file ..) | .error _ => false

variable {fs : FileSystem} {path base part : String} {entry : Entry} {location here : Location}

/-- What exists is a file or a directory. -/
theorem pathExists_eq (fs : FileSystem) (path : String) :
    fs.pathExists path = (fs.hasFile path || fs.hasDirectory path) := by
  unfold pathExists hasFile hasDirectory
  cases fs.find path with
  | error e => rfl
  | ok entry => cases entry <;> rfl

/-- Nothing is both. -/
theorem not_hasFile_of_hasDirectory (directory : fs.hasDirectory path = true) :
    fs.hasFile path = false := by
  unfold hasDirectory at directory
  unfold hasFile
  split at directory <;> simp_all

theorem find_eq_ok :
    fs.find path = .ok entry ↔
      ∃ location, fs.locate path = .ok location ∧ fs.entry? location = some entry := by
  rw [find, bind_eq_ok]
  refine exists_congr fun location => and_congr_right fun _ => ?_
  split <;> simp_all

theorem hasDirectory_iff :
    fs.hasDirectory path = true ↔
      ∃ location, fs.locate path = .ok location ∧ fs.entry? location = some .directory := by
  rw [← find_eq_ok, hasDirectory]
  split <;> simp_all

/-! ## A slash at the end -/

theorem step_eq_ok_of_isIdle (idle : Path.isIdle part = true) :
    fs.step here part = .ok location ↔ fs.entry? here = some .directory ∧ here = location := by
  unfold step
  split <;> simp_all

theorem locate_eq_ok :
    fs.locate path = .ok location ↔
      ('\x00' ∉ path.toList ∧ path ≠ "" ∧ path.utf8ByteSize ≤ maxPathBytes) ∧
        (Text.splitFields '/' path).foldlM fs.step
          (if Path.isAbsolute path then [] else fs.current) = .ok location := by
  unfold locate
  split
  · simp_all
  · split
    · simp_all
    · split
      · next long => simp [Nat.not_le.mpr long]
      · simp_all

theorem splitFields_slash (base : String) :
    Text.splitFields '/' (base ++ "/") = Text.splitFields '/' base ++ [""] := by
  have text : (base ++ "/").toList = base.toList ++ '/' :: [] := String.toList_append
  rw [Text.splitFields, text, Text.fields_append, List.map_append]
  rfl

/-- A slash at the end asks for a directory, and does not lead on. -/
theorem foldlM_step_slash (start : Location) :
    (Text.splitFields '/' (base ++ "/")).foldlM fs.step start = .ok location ↔
      (Text.splitFields '/' base).foldlM fs.step start = .ok location ∧
        fs.entry? location = some .directory := by
  have idle : Path.isIdle "" = true := rfl
  simp only [splitFields_slash, List.foldlM_append, bind_eq_ok, List.foldlM_cons, List.foldlM_nil,
    step_eq_ok_of_isIdle idle]
  constructor
  · rintro ⟨here, walked, _, ⟨directory, rfl⟩, ⟨⟩⟩
    exact ⟨walked, directory⟩
  · rintro ⟨walked, directory⟩
    exact ⟨location, walked, location, ⟨directory, rfl⟩, rfl⟩

/-- A path with a slash at the end leads to no file. -/
theorem hasFile_slash (fs : FileSystem) (base : String) : fs.hasFile (base ++ "/") = false := by
  unfold hasFile
  split
  · next content mode found =>
      obtain ⟨location, located, entry⟩ := find_eq_ok.mp found
      have directory := ((foldlM_step_slash _).mp (locate_eq_ok.mp located).2).2
      cases entry.symm.trans directory
  · rfl
  · rfl

/-- An empty name is the name of no file. -/
theorem hasFile_join_empty (fs : FileSystem) (base : String) :
    fs.hasFile (Path.join base "") = false := by
  rcases Path.join_empty base with ⟨same, rfl | ⟨front, rfl⟩⟩ | ⟨longer, -⟩
  · rfl
  · rw [same]
    exact hasFile_slash fs front
  · rw [longer]
    exact hasFile_slash fs base

/-- An empty name, seen from a directory, leads to it. -/
theorem hasDirectory_join_empty (directory : fs.hasDirectory base = true)
    (short : base.utf8ByteSize < maxPathBytes) : fs.hasDirectory (Path.join base "") = true := by
  rcases Path.join_empty base with ⟨same, -⟩ | ⟨longer, some⟩
  · rwa [same]
  · obtain ⟨location, located, here⟩ := hasDirectory_iff.mp directory
    obtain ⟨⟨clean, -, -⟩, walked⟩ := locate_eq_ok.mp located
    have start : Path.isAbsolute (base ++ "/") = Path.isAbsolute base := by
      obtain ⟨c, rest, first⟩ : ∃ c rest, base.toList = c :: rest :=
        List.exists_cons_of_ne_nil (mt String.toList_eq_nil_iff.mp some)
      simp [Path.isAbsolute, first]
    rw [longer, hasDirectory_iff]
    refine ⟨location, locate_eq_ok.mpr ⟨⟨?_, ?_, ?_⟩, ?_⟩, here⟩
    · simp [clean]
    · simp [some]
    · have size : (base ++ "/").utf8ByteSize = base.utf8ByteSize + 1 := String.utf8ByteSize_append
      omega
    · rw [start]
      exact (foldlM_step_slash _).mpr ⟨walked, here⟩

end FileSystem

end Packfile
