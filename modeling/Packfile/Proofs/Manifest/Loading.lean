import Packfile.Manifest.Load
import Packfile.Proofs.Traversal

/-!
# Loading a manifest

A manifest cannot be loaded if nothing is at its path, if what is there has no text, or if the text
is not that of a manifest. Otherwise it is loaded, and what is left of it depends on the selection:
all environments or the one that is asked for, whether it is declared or not, and all releases or
those of the name that is asked for. To ask for an empty name is to ask for nothing.
-/

namespace Packfile

namespace FileSystem

variable {fs : FileSystem} {path text : String}

/-- The path leads to a file with this text. -/
def HasText (fs : FileSystem) (path text : String) : Prop :=
  ∃ content mode, fs.find path = .ok (.file content mode) ∧ String.fromUTF8? content = some text

/-- The path leads to a directory, or to a file that is not text. -/
def HasNoText (fs : FileSystem) (path : String) : Prop :=
  fs.find path = .ok .directory ∨
    ∃ content mode, fs.find path = .ok (.file content mode) ∧ String.fromUTF8? content = none

theorem readText_eq_ok : fs.readText path = .ok text ↔ fs.HasText path text := by
  unfold readText read HasText
  cases fs.find path with
  | error e => simp [bind, Except.bind]
  | ok found =>
      cases found with
      | directory => simp [bind, Except.bind]
      | file content mode =>
          cases decoded : String.fromUTF8? content <;> simp [bind, Except.bind, decoded]

/-- What exists and cannot be read has no text. -/
theorem exists_readText_eq_error (present : fs.pathExists path = true) :
    (∃ e, fs.readText path = .error e) ↔ fs.HasNoText path := by
  unfold pathExists at present
  unfold readText read HasNoText
  cases found : fs.find path with
  | error e => simp [found] at present
  | ok entry =>
      cases entry with
      | directory => simp [bind, Except.bind]
      | file content mode =>
          cases decoded : String.fromUTF8? content <;> simp [bind, Except.bind, decoded]

theorem HasText.pathExists (read : fs.HasText path text) : fs.pathExists path = true := by
  obtain ⟨content, mode, found, -⟩ := read
  simp [FileSystem.pathExists, found]

end FileSystem

namespace Manifest

variable {fs : FileSystem} {selection : Selection} {path name : String}
variable {whole part other : Manifest}

/-- The manifest at the path is missing, is no text, or is not a manifest. -/
def Unloadable (fs : FileSystem) (path : String) : Prop :=
  fs.pathExists path = false ∨ fs.HasNoText path ∨
    ∃ text cause, fs.HasText path text ∧ parse text = .error cause

/-- What is left of the environments when one is asked for: that one, with the settings that it is
declared with, or with empty ones if it is not declared. -/
def Isolates (name : String) (whole part : OrderedMap ConnectionOverride) : Prop :=
  ∃ settings, part.entries = [(name, settings)] ∧
    ((name, settings) ∈ whole.entries ∨ name ∉ whole.keys ∧ settings = {})

/-- What is left of a manifest. -/
structure Remains (selection : Selection) (whole part : Manifest) : Prop where
  registries : part.registries = whole.registries
  path : part.path = whole.path
  /-- Releases stay unless another name is asked for. -/
  releases : part.releases = whole.releases.filter fun release =>
    selection.release = none ∨ selection.release = some "" ∨ selection.release = some release.name
  /-- All environments stay where none is asked for. -/
  environments : selection.environment = none ∨ selection.environment = some "" →
    part.environments = whole.environments
  environment : ∀ name, name ≠ "" → selection.environment = some name →
    Isolates name whole.environments part.environments

/-- The file at the path has the text of a manifest, and this is what is left of it. -/
def Loads (fs : FileSystem) (selection : Selection) (path : String) (part : Manifest) : Prop :=
  ∃ text whole, fs.HasText path text ∧ parse text = .ok whole ∧
    Remains selection { whole with path } part

/-! ## Selections -/

theorem isolates_selectEnvironment (whole : Manifest) (name : String) :
    Isolates name whole.environments (whole.selectEnvironment name).environments := by
  refine ⟨(whole.environments.get? name).getD {}, rfl, ?_⟩
  cases found : whole.environments.get? name with
  | some settings => exact .inl ((whole.environments.get?_eq_some_iff name settings).mp found)
  | none => exact .inr ⟨(whole.environments.get?_eq_none_iff name).mp found, rfl⟩

theorem Isolates.eq {environments left left' : OrderedMap ConnectionOverride}
    (isolates : Isolates name environments left) (isolates' : Isolates name environments left') :
    left = left' := by
  obtain ⟨settings, single, source⟩ := isolates
  obtain ⟨settings', single', source'⟩ := isolates'
  refine OrderedMap.ext (single.trans (.trans ?_ single'.symm))
  have same : settings = settings' := by
    rcases source with listed | ⟨absent, rfl⟩
    · rcases source' with listed' | ⟨absent, rfl⟩
      · rw [← OrderedMap.get?_eq_some_iff] at listed listed'
        exact Option.some.inj (listed.symm.trans listed')
      · exact absurd (List.mem_map_of_mem listed) absent
    · rcases source' with listed' | ⟨_, rfl⟩
      · exact absurd (List.mem_map_of_mem listed') absent
      · rfl
  rw [same]

/-- A name is asked for or not. -/
theorem asked_cases (name? : Option String) :
    (name?.filter (· ≠ "") = none ∧ (name? = none ∨ name? = some "")) ∨
      ∃ name, name?.filter (· ≠ "") = some name ∧ name? = some name ∧ name ≠ "" := by
  cases name? with
  | none => exact .inl ⟨rfl, .inl rfl⟩
  | some name =>
      by_cases empty : name = ""
      · exact .inl ⟨by simp [empty], .inr (by rw [empty])⟩
      · exact .inr ⟨name, by simp [Option.filter, empty], rfl, empty⟩

/-- The two selections do not bear on each other, nor on anything else. -/
theorem select_eq (selection : Selection) (whole : Manifest) :
    select selection whole =
      { whole with
        environments := match selection.environment.filter (· ≠ "") with
          | some name => (whole.selectEnvironment name).environments
          | none => whole.environments
        releases := match selection.release.filter (· ≠ "") with
          | some name => whole.releases.filter fun release => release.name = name
          | none => whole.releases } := by
  simp only [select]
  cases selection.environment.filter (· ≠ "") <;> cases selection.release.filter (· ≠ "") <;> rfl

theorem remains_select (selection : Selection) (whole : Manifest) :
    Remains selection whole (select selection whole) := by
  rw [select_eq]
  refine ⟨rfl, rfl, ?_, ?_, ?_⟩
  · rcases asked_cases selection.release with ⟨all, unasked⟩ | ⟨name, one, asked, named⟩
    · simp only [all]
      refine (List.filter_eq_self.mpr fun release _ => decide_eq_true ?_).symm
      exact unasked.imp_right .inl
    · simp only [one]
      refine List.filter_congr fun release _ => ?_
      simp [asked, named, eq_comm]
  · intro unasked
    rcases asked_cases selection.environment with ⟨all, -⟩ | ⟨name, -, asked, named⟩
    · simp only [all]
    · simp [asked, named] at unasked
  · intro name named asked
    have one : selection.environment.filter (· ≠ "") = some name := by simp [asked, named]
    simp only [one]
    exact isolates_selectEnvironment whole name

/-- A selection leaves one manifest. -/
theorem Remains.eq (remains : Remains selection whole part)
    (remains' : Remains selection whole other) : part = other := by
  have environments : part.environments = other.environments := by
    rcases asked_cases selection.environment with ⟨-, unasked⟩ | ⟨name, -, asked, named⟩
    · rw [remains.environments unasked, remains'.environments unasked]
    · exact (remains.environment name named asked).eq (remains'.environment name named asked)
  have registries := remains.registries.trans remains'.registries.symm
  have path := remains.path.trans remains'.path.symm
  have releases := remains.releases.trans remains'.releases.symm
  cases part
  cases other
  simp_all only

theorem remains_iff : Remains selection whole part ↔ select selection whole = part :=
  ⟨(remains_select selection whole).eq, fun same => same ▸ remains_select selection whole⟩

/-! ## Loading -/

theorem load_eq_ok : load fs selection path = .ok part ↔ Loads fs selection path part := by
  unfold load Loads
  by_cases present : fs.pathExists path = true
  · simp only [present, if_true, bind_eq_ok, mapError_eq_ok, FileSystem.readText_eq_ok, remains_iff,
      pure, Except.pure, Except.ok.injEq, exists_and_left]
  · simp only [present]
    constructor
    · intro loaded
      cases loaded
    · rintro ⟨text, -, read, -⟩
      exact absurd read.pathExists present

theorem exists_load_eq_error (selection : Selection) :
    (∃ e, load fs selection path = .error e) ↔ Unloadable fs path := by
  unfold load Unloadable
  by_cases present : fs.pathExists path = true
  · rw [if_pos present, ← FileSystem.exists_readText_eq_error present]
    constructor
    · rintro ⟨e, failed⟩
      rcases bind_eq_error.mp failed with refused | ⟨text, read, failed⟩
      · obtain ⟨cause, refused, -⟩ := mapError_eq_error.mp refused
        exact .inr (.inl ⟨cause, refused⟩)
      · rcases bind_eq_error.mp failed with refused | ⟨whole, -, failed⟩
        · obtain ⟨cause, refused, -⟩ := mapError_eq_error.mp refused
          exact .inr (.inr ⟨text, cause, FileSystem.readText_eq_ok.mp (mapError_eq_ok.mp read),
            refused⟩)
        · cases failed
    · rintro (absent | ⟨cause, refused⟩ | ⟨text, cause, read, refused⟩)
      · rw [absent] at present
        cases present
      · exact ⟨.io cause, bind_eq_error.mpr (.inl (mapError_eq_error.mpr ⟨cause, refused, rfl⟩))⟩
      · refine ⟨.invalid path cause, bind_eq_error.mpr (.inr ⟨text, ?_, ?_⟩)⟩
        · exact mapError_eq_ok.mpr (FileSystem.readText_eq_ok.mpr read)
        · exact bind_eq_error.mpr (.inl (mapError_eq_error.mpr ⟨cause, refused, rfl⟩))
  · rw [if_neg present]
    exact iff_of_true ⟨_, rfl⟩ (.inl (Bool.not_eq_true _ ▸ present))

end Manifest

end Packfile
