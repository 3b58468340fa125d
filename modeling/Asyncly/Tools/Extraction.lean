import Asyncly.Lib.FileTree
import Asyncly.Tools.Artifacts

/-!
# What is extracted

The names of the members are compared as texts, while a member is extracted to the path its
name denotes, in which empty components and single dots are left out. Two members of an
archive that was accepted may so have one path.
-/

namespace Asyncly.Release

section Members

variable {α : Type} (name : α → String) (regular : α → Bool)

/-- The path a member is extracted to. -/
def memberPath (member : α) : List String := (PurePosixPath.ofString (name member)).tail

/-- What is extracted for a member: a file with its contents, or a directory. -/
def extracted (contents : α → Bytes) (member : α) : FileTree.Item String Bytes where
  path := memberPath name member
  contents := if regular member then some (contents member) else none

/-- All members have their own path, no file is on the way to another member, and from the
members in any order each required file is extracted as it is in the archive. -/
structure ExtractsVerified (members : List α) (required : List String) : Prop where
  distinct : (members.map (memberPath name)).Nodup
  apart : ∀ member ∈ members, regular member = true → ∀ other ∈ members,
    memberPath name member <+: memberPath name other →
      memberPath name member = memberPath name other
  leaves : ∀ (contents : α → Bytes) (order : List α), order.Perm members →
    ∃ tree, FileTree.extractAll FileTree.empty (order.map (extracted name regular contents)) =
        some tree ∧
      ∀ member ∈ members, name member ∈ required →
        tree (memberPath name member) = some (.file (contents member))

/-- The name of a member with a slash after each component that is neither empty nor a
dot. -/
def plainName (member : α) : List Char :=
  (PurePosixPath.components (name member)).flatMap fun part => part.toList ++ ['/']

/-- A name is not spelled plainly: it has an empty component, or a dot. -/
def Respelled (text : String) : Prop := ∃ part ∈ text.toList.splitOn '/', part = [] ∨ part = ['.']

instance (text : String) : Decidable (Respelled text) :=
  inferInstanceAs (Decidable (∃ part ∈ text.toList.splitOn '/', part = [] ∨ part = ['.']))

/-- A name that is not spelled plainly is no other member's name in another spelling, and that of
a file is not the beginning of another name. -/
structure Unambiguous (members : List α) : Prop where
  spellings : ∀ member ∈ members, Respelled (name member) → ∀ other ∈ members,
    name other ≠ name member → plainName name other ≠ plainName name member
  files : ∀ member ∈ members, regular member = true → ∀ other ∈ members,
    name other ≠ name member → ¬ plainName name member <+: plainName name other

variable {name regular}

theorem plainName_prefix_iff {member other : α} :
    plainName name member <+: plainName name other ↔
      memberPath name member <+: memberPath name other := by
  have free (member : α) : ∀ part ∈ (memberPath name member).map String.toList, '/' ∉ part := by
    intro part here
    obtain ⟨component, clean, rfl⟩ := List.mem_map.mp here
    exact (PurePosixPath.components_clean (name member) component clean).2.2
  have split (member : α) : plainName name member =
      ((memberPath name member).map String.toList).flatMap (· ++ ['/']) := by
    rw [plainName, List.flatMap_map]
    rfl
  rw [split, split, flatMap_terminated_prefix_iff (free _) (free _)]
  exact List.prefix_map_iff_of_injective fun _ _ => String.toList_injective

theorem plainName_eq_iff {member other : α} :
    plainName name member = plainName name other ↔
      memberPath name member = memberPath name other := by
  constructor
  · intro same
    have first : plainName name member <+: plainName name other := same ▸ List.prefix_rfl
    have second : plainName name other <+: plainName name member := same ▸ List.prefix_rfl
    exact antisymm (plainName_prefix_iff.mp first) (plainName_prefix_iff.mp second)
  · intro same
    rw [plainName, plainName]
    exact congrArg (List.flatMap _) same

/-- The components of a name that is spelled plainly are its parts between slashes. -/
theorem components_of_not_respelled {text : String} (plain : ¬ Respelled text) :
    PurePosixPath.components text = (text.toList.splitOn '/').map String.ofList := by
  rw [PurePosixPath.components, List.filter_eq_self]
  intro part member
  obtain ⟨chars, split, rfl⟩ := List.mem_map.mp member
  refine decide_eq_true ⟨fun empty => plain ⟨chars, split, .inl ?_⟩,
    fun dot => plain ⟨chars, split, .inr ?_⟩⟩
  · simpa using congrArg String.toList empty
  · simpa using congrArg String.toList dot

/-- Plain spellings of one path are one name, which the comparison of the names finds. -/
theorem eq_of_not_respelled {text other : String} (plain : ¬ Respelled text)
    (plain' : ¬ Respelled other)
    (same : PurePosixPath.components text = PurePosixPath.components other) : text = other := by
  rw [components_of_not_respelled plain, components_of_not_respelled plain'] at same
  have parts := List.map_injective_iff.mpr (fun _ _ => String.ofList_inj.mp) same
  have texts := congrArg (List.intercalate ['/']) parts
  rw [List.intercalate_splitOn, List.intercalate_splitOn] at texts
  exact String.toList_inj.mp texts

/-- Of members with different names, none is in the way of another exactly when they are
unambiguous. -/
theorem unambiguous_iff {members : List α} (unique : (members.map name).Nodup) :
    Unambiguous name regular members ↔
      (members.map (memberPath name)).Nodup ∧
        ∀ member ∈ members, regular member = true → ∀ other ∈ members,
          memberPath name member <+: memberPath name other →
            memberPath name member = memberPath name other := by
  constructor
  · rintro ⟨spellings, files⟩
    refine ⟨unique.of_map.map_on fun member here other there same => ?_, ?_⟩
    · refine List.inj_on_of_nodup_map unique here there ?_
      by_contra differ
      by_cases respelled : Respelled (name member)
      · exact spellings member here respelled other there (Ne.symm differ)
          (plainName_eq_iff.mpr same.symm)
      · by_cases respelled' : Respelled (name other)
        · exact spellings other there respelled' member here differ (plainName_eq_iff.mpr same)
        · exact differ (eq_of_not_respelled respelled respelled' same)
    · intro member here file other there below
      by_contra apart
      refine files member here file other there (fun same => apart ?_)
        (plainName_prefix_iff.mpr below)
      rw [memberPath, memberPath, same]
  · rintro ⟨distinct, apart⟩
    refine ⟨fun member here _ other there differ same => ?_,
      fun member here file other there differ below => ?_⟩
    · exact differ (congrArg name
        (List.inj_on_of_nodup_map distinct there here (plainName_eq_iff.mp same)))
    · have same := apart member here file other there (plainName_prefix_iff.mp below)
      exact differ (congrArg name (List.inj_on_of_nodup_map distinct there here same.symm))

/-- No file is put at the place of the directory all members are extracted to: it would be
in the way of the other members. -/
theorem memberPath_ne_nil {members : List α} (distinct : (members.map (memberPath name)).Nodup)
    {member other : α} (here : member ∈ members) (there : other ∈ members)
    (differ : name other ≠ name member)
    (apart : memberPath name member <+: memberPath name other →
      memberPath name member = memberPath name other) : memberPath name member ≠ [] := by
  intro root
  have same := apart (root ▸ List.nil_prefix)
  exact differ (congrArg name (List.inj_on_of_nodup_map distinct here there same)).symm

/-- Members that are unambiguous are extracted as they are. -/
theorem extractsVerified_iff {members : List α} {required : List String}
    (unique : (members.map name).Nodup) (has : HasRegular name regular members required)
    (several : ∀ key : String, ∃ other ∈ required, other ≠ key) :
    ExtractsVerified name regular members required ↔ Unambiguous name regular members := by
  rw [unambiguous_iff unique]
  constructor
  · intro verified
    exact ⟨verified.distinct, verified.apart⟩
  · rintro ⟨distinct, apart⟩
    refine ⟨distinct, apart, fun contents order perm => ?_⟩
    have isFile {member : α} (file : (extracted name regular contents member).contents.isSome) :
        regular member = true := by
      by_contra directory
      simp [extracted, directory] at file
    have compatible : FileTree.Compatible (members.map (extracted name regular contents)) := by
      refine ⟨by rwa [List.map_map], ?_, ?_⟩
      · rintro _ item file
        obtain ⟨member, here, rfl⟩ := List.mem_map.mp item
        obtain ⟨key, needed, differ⟩ := several (name member)
        obtain ⟨other, there, rfl⟩ := List.mem_map.mp (has.present key needed)
        exact memberPath_ne_nil distinct here there differ
          (apart member here (isFile file) other there)
      · rintro _ item file _ item'
        obtain ⟨member, here, rfl⟩ := List.mem_map.mp item
        obtain ⟨other, there, rfl⟩ := List.mem_map.mp item'
        exact apart member here (isFile file) other there
    obtain ⟨tree, done, files⟩ := FileTree.exists_extractAll compatible (perm.map _)
    refine ⟨tree, done, fun member here needed => ?_⟩
    refine files _ (List.mem_map_of_mem here) _ ?_
    rw [extracted, if_pos (has.regular member here needed)]

end Members

theorem several_wheelRequired (version key : String) :
    ∃ other ∈ wheelRequired version, other ≠ key := by
  by_cases first : key = "asyncly/client/retry.py"
  · exact ⟨"asyncly/srvmocker/responses/faults.py", by simp [wheelRequired], by rw [first]; decide⟩
  · exact ⟨"asyncly/client/retry.py", by simp [wheelRequired], fun same => first same.symm⟩

theorem several_sdistRequired (version key : String) :
    ∃ other ∈ sdistRequired version, other ≠ key := by
  by_cases first : key = sdistPrefix version ++ "PKG-INFO"
  · refine ⟨sdistPrefix version ++ "pyproject.toml", by simp [sdistRequired], ?_⟩
    rw [first]
    intro same
    have texts := congrArg String.toList same
    rw [String.toList_append, String.toList_append, List.append_cancel_left_eq] at texts
    exact absurd texts (by decide)
  · exact ⟨sdistPrefix version ++ "PKG-INFO", by simp [sdistRequired], fun same => first same.symm⟩

section Verified

variable (lib : Library) (host : Host) (s : System) (directory : Path) (version : String)

/-- What was verified is what is extracted exactly when the members are unambiguous, for a wheel
and for an sdist that are accepted. -/
theorem verified_extractsVerified_iff :
    (verifyWheel lib host s directory version = .ok () →
      ∀ archive, openWheel lib host s directory version = .ok archive →
        (ExtractsVerified ZipInfo.filename ZipInfo.regularFile archive.infolist
            (wheelRequired version) ↔
          Unambiguous ZipInfo.filename ZipInfo.regularFile archive.infolist)) ∧
    (verifySdist lib host s directory version = .ok () →
      ∀ archive members, openTar lib host s directory version = .ok archive →
        archive.getmembers = .ok members →
        (ExtractsVerified TarInfo.name TarInfo.isreg members (sdistRequired version) ↔
          Unambiguous TarInfo.name TarInfo.isreg members)) := by
  constructor
  · intro accepted archive opened
    obtain ⟨-, _, opened', checked⟩ := verifyWheel_eq_ok.mp accepted
    cases opened.symm.trans opened'
    obtain ⟨listed, -, complete, -⟩ := checkWheel_eq_ok.mp checked
    exact extractsVerified_iff listed.names.unique complete.required (several_wheelRequired version)
  · intro accepted archive members opened listed
    obtain ⟨-, _, -, -, _, opened', checked⟩ := verifySdist_eq_ok.mp accepted
    cases opened.symm.trans opened'
    obtain ⟨_, listed', passed, -⟩ := checkSdist_eq_ok.mp checked
    cases listed.symm.trans listed'
    exact extractsVerified_iff passed.names.unique passed.required (several_sdistRequired version)

end Verified

namespace Sample

def respelled : ZipInfo := zipFile "./asyncly/client/retry.py"

theorem respelled_accepted :
    verifyWheel (accepting (publicFiles ++ [respelled])) host system directory "0.10.0" =
      .ok () :=
  wheel_accepted ⟨⟨by decide, by decide⟩, by decide⟩ ⟨by decide, by decide, by decide⟩

/-- Two members of the second wheel are extracted to one path. -/
theorem extracted_respelled (contents : ZipInfo → Bytes) :
    (publicFiles ++ [respelled]).map
        (extracted ZipInfo.filename ZipInfo.regularFile contents) =
      [⟨["asyncly", "client", "retry.py"], some (contents (zipFile "asyncly/client/retry.py"))⟩,
        ⟨["asyncly", "srvmocker", "responses", "faults.py"],
          some (contents (zipFile "asyncly/srvmocker/responses/faults.py"))⟩,
        ⟨["asyncly-0.10.0.dist-info", "METADATA"],
          some (contents (zipFile "asyncly-0.10.0.dist-info/METADATA"))⟩,
        ⟨["asyncly", "client", "retry.py"], some (contents respelled)⟩] :=
  rfl

end Sample

/-- The members of the accepted wheel and sdist are spelled plainly, and no file is on the way to
another member. -/
theorem verified_extractsVerified_iff_sample :
    ExtractsVerified ZipInfo.filename ZipInfo.regularFile Sample.publicFiles
        (wheelRequired "0.10.0") ∧
      ExtractsVerified TarInfo.name TarInfo.isreg Sample.sdistFiles (sdistRequired "0.10.0") := by
  obtain ⟨wheel, sdist⟩ := verified_extractsVerified_iff (Sample.accepting Sample.publicFiles)
    Sample.host Sample.system Sample.directory "0.10.0"
  constructor
  · exact (wheel Sample.publicFiles_accepted _ rfl).mpr ⟨by decide, by decide⟩
  · exact (sdist (Sample.sdist_accepted _) _ _ rfl rfl).mpr ⟨by decide, by decide⟩

/-- A wheel is accepted with a second member at the path of a required file, and it is the
second one that is there after the extraction. -/
theorem verified_extractsVerified_fails :
    verifyWheel (Sample.accepting (Sample.publicFiles ++ [Sample.respelled])) Sample.host
        Sample.system Sample.directory "0.10.0" = .ok () ∧
      openWheel (Sample.accepting (Sample.publicFiles ++ [Sample.respelled])) Sample.host
        Sample.system Sample.directory "0.10.0" =
          .ok (Sample.wheel (Sample.publicFiles ++ [Sample.respelled])) ∧
      ¬ ExtractsVerified ZipInfo.filename ZipInfo.regularFile
        (Sample.publicFiles ++ [Sample.respelled]) (wheelRequired "0.10.0") ∧
      ∀ contents : ZipInfo → Bytes, ∃ tree,
        FileTree.extractAll FileTree.empty ((Sample.publicFiles ++ [Sample.respelled]).map
          (extracted ZipInfo.filename ZipInfo.regularFile contents)) = some tree ∧
        tree ["asyncly", "client", "retry.py"] = some (.file (contents Sample.respelled)) := by
  refine ⟨Sample.respelled_accepted, rfl, fun verified => ?_, fun contents => ?_⟩
  · exact absurd verified.distinct (by decide)
  · -- with the paths read once, the extraction only compares them
    rw [Sample.extracted_respelled]
    exact ⟨_, rfl, rfl⟩

end Asyncly.Release
