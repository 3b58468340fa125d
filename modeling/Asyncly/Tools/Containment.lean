import Asyncly.Lib.LexicalPath
import Asyncly.Tools.Extraction
import Mathlib.Data.List.TakeWhile

/-!
# Where members are extracted to

A member is extracted to its name joined to a directory. The names that are accepted have
no component that goes up and no root, so that they are resolved inside the directory,
whatever the directory is called.
-/

namespace Asyncly

namespace PurePosixPath

/-- `os.path.join(directory, name)` -/
def joinText (directory name : String) : String :=
  if name.toList.head? = some '/' ∨ directory = "" then name
  else if directory.toList.getLast? = some '/' then directory ++ name
  else directory ++ "/" ++ name

/-- The slashes a text starts with. -/
def leading (text : String) : List Char := text.toList.takeWhile fun c => c = '/'

theorem root_eq (text : String) :
    (ofString text).root =
      match (leading text).length with
      | 0 => ""
      | 2 => "//"
      | _ => "/" := by
  rw [ofString, leading]
  dsimp only
  rcases text.toList with _ | ⟨first, _ | ⟨second, rest⟩⟩
  · rfl
  · by_cases slash : first = '/' <;> simp [slash]
  · by_cases slash : first = '/' ∧ second = '/'
    · obtain ⟨rfl, rfl⟩ := slash
      rcases rest with _ | ⟨third, rest⟩
      · rfl
      · by_cases slash : third = '/' <;> simp [slash]
    · by_cases slash : first = '/' <;> simp_all

theorem components_join (directory name : String) :
    components (directory ++ "/" ++ name) = components directory ++ components name := by
  have slash : "/".toList = ['/'] := rfl
  simp only [components, String.toList_append, slash, List.append_assoc, List.singleton_append]
  rw [List.splitOn_append_cons_self, List.map_append, List.filter_append]

variable {directory name : String}

theorem components_joinText (relative : name.toList.head? ≠ some '/') :
    components (joinText directory name) = components directory ++ components name := by
  have slash : "/".toList = ['/'] := rfl
  rw [joinText]
  by_cases here : directory = ""
  · rw [if_pos (.inr here), here]
    rfl
  rw [if_neg (not_or.mpr ⟨relative, here⟩)]
  by_cases closed : directory.toList.getLast? = some '/'
  · rw [if_pos closed]
    obtain ⟨start, split⟩ := List.getLast?_eq_some_iff.mp closed
    have same : directory = String.ofList start ++ "/" ++ "" := by
      rw [← String.toList_inj]
      simp [split]
    have joined : directory ++ name = String.ofList start ++ "/" ++ name := by
      rw [same, String.append_empty]
    rw [joined, components_join, same, components_join]
    have empty : components "" = [] := rfl
    rw [empty, List.append_nil]
  · rw [if_neg closed, components_join]

theorem leading_of_relative (relative : name.toList.head? ≠ some '/') : leading name = [] := by
  rw [leading]
  cases first : name.toList with
  | nil => rfl
  | cons c rest =>
      have other : c ≠ '/' := fun same => relative (by rw [first, same]; rfl)
      exact List.takeWhile_cons_of_neg (by simpa using other)

/-- A text with nothing but slashes is what it starts with. -/
theorem leading_eq_toList {text : String}
    (whole : (leading text).length = text.toList.length) : leading text = text.toList :=
  (List.takeWhile_prefix _).eq_of_length whole

theorem getLast?_of_leading {text : String} (nonempty : text ≠ "")
    (whole : (leading text).length = text.toList.length) : text.toList.getLast? = some '/' := by
  have chars : text.toList ≠ [] := fun empty => nonempty (String.toList_eq_nil_iff.mp empty)
  have member : text.toList.getLast chars ∈ leading text := by
    rw [leading_eq_toList whole]
    exact List.getLast_mem chars
  have slash : text.toList.getLast chars = '/' := by
    simpa using List.mem_takeWhile_imp member
  rw [List.getLast?_eq_some_getLast chars, slash]

theorem leading_joinText (relative : name.toList.head? ≠ some '/') :
    leading (joinText directory name) = leading directory := by
  rw [joinText]
  by_cases here : directory = ""
  · rw [if_pos (.inr here), here]
    exact leading_of_relative relative
  rw [if_neg (not_or.mpr ⟨relative, here⟩)]
  by_cases closed : directory.toList.getLast? = some '/'
  · rw [if_pos closed, leading, String.toList_append, List.takeWhile_append, ← leading]
    split
    · rename_i whole
      rw [← leading, leading_of_relative relative, List.append_nil, leading_eq_toList whole]
    · rfl
  · rw [if_neg closed, String.append_assoc, leading, String.toList_append, List.takeWhile_append,
      ← leading]
    exact if_neg fun whole => closed (getLast?_of_leading here whole)

/-- A path without a root does not start with a slash. -/
theorem relative_of_not_isAbsolute {text : String} (h : (ofString text).isAbsolute = false) :
    text.toList.head? ≠ some '/' := by
  intro slash
  obtain ⟨rest, split⟩ := List.head?_eq_some_iff.mp slash
  have counted : (leading text).length = (rest.takeWhile fun c => c = '/').length + 1 := by
    rw [leading, split, List.takeWhile_cons_of_pos (by decide), List.length_cons]
  have root : (ofString text).root = "" := by simpa [isAbsolute] using h
  rw [root_eq, counted] at root
  split at root
  · omega
  · exact absurd root (by decide)
  · exact absurd root (by decide)

/-- The root of a path, and its components when it is resolved lexically: `os.path.normpath`. -/
def resolved (text : String) : String × List String :=
  let path := ofString text
  (path.root, LexicalPath.resolve ".." path.isAbsolute path.tail)

/-- A path is resolved to the directory `below` a directory, or inside of that. -/
def Within (directory : String) (below : List String) (text : String) : Prop :=
  ∃ rest, resolved text = ((resolved directory).1, (resolved directory).2 ++ below ++ rest)

/-- A relative name without `..` is resolved to its components inside of the directory. -/
theorem resolved_joinText (relative : name.toList.head? ≠ some '/')
    (free : ".." ∉ components name) (directory : String) :
    resolved (joinText directory name) =
      ((resolved directory).1, (resolved directory).2 ++ components name) := by
  have root : (ofString (joinText directory name)).root = (ofString directory).root := by
    rw [root_eq, root_eq, leading_joinText relative]
  have tail : (ofString (joinText directory name)).tail =
      (ofString directory).tail ++ components name := components_joinText relative
  rw [resolved, isAbsolute, root, tail, LexicalPath.resolve_append free]
  rfl

end PurePosixPath

namespace Release

/-- What a name that is not refused is like. -/
theorem safe_of_not_unsafeName {name : String} (safe : unsafeName name = false) :
    name.toList.head? ≠ some '/' ∧ ".." ∉ PurePosixPath.components name ∧
      Char.ofNat 92 ∉ name.toList ∧ Char.ofNat 0 ∉ name.toList := by
  simp only [unsafeName, Bool.or_eq_false_iff, List.contains_eq_mem, decide_eq_false_iff_not]
    at safe
  obtain ⟨⟨⟨⟨-, relative⟩, backslash⟩, nul⟩, up⟩ := safe
  refine ⟨PurePosixPath.relative_of_not_isAbsolute relative, fun climbs => ?_, backslash, nul⟩
  have rootless : (PurePosixPath.ofString name).root = "" := by
    simpa [PurePosixPath.isAbsolute] using relative
  rw [PurePosixPath.parts, if_pos rootless] at up
  exact up climbs

variable {version : String}

/-- The directory of an sdist is one component. -/
theorem components_sdistRoot (text : VersionText version) :
    PurePosixPath.components s!"asyncly-{version}" = [s!"asyncly-{version}"] := by
  have spelled : s!"asyncly-{version}".toList = "asyncly-".toList ++ version.toList :=
    String.toList_append
  have free : '/' ∉ s!"asyncly-{version}".toList := by
    rw [spelled, List.mem_append, not_or]
    exact ⟨by decide, text.not_mem rfl (by decide)⟩
  have long : 8 ≤ s!"asyncly-{version}".toList.length := by
    rw [spelled, List.length_append]
    exact Nat.le_add_right 8 _
  refine PurePosixPath.components_of_free ?_ ?_ free
  · intro empty
    rw [empty] at long
    exact absurd long (by decide)
  · intro dot
    rw [dot] at long
    exact absurd long (by decide)

/-- A member of an sdist is the directory of its version or is inside of it. -/
theorem components_of_inside (text : VersionText version) {member : TarInfo}
    (inside : member.inside version = true) :
    ∃ rest, PurePosixPath.components member.name = s!"asyncly-{version}" :: rest := by
  rw [TarInfo.inside, Bool.or_eq_true, Bool.and_eq_true] at inside
  rcases inside with under | ⟨-, root⟩
  · obtain ⟨rest, split⟩ := List.isPrefixOf_iff_prefix.mp under
    have name : member.name = s!"asyncly-{version}" ++ "/" ++ String.ofList rest := by
      rw [← String.toList_inj, ← split]
      rw [sdistPrefix]
      simp only [String.toList_append, String.toList_ofList]
      rfl
    rw [name, PurePosixPath.components_join, components_sdistRoot text]
    exact ⟨_, rfl⟩
  · rw [of_decide_eq_true root, components_sdistRoot text]
    exact ⟨[], rfl⟩

/-- The names that are accepted stay inside of the directory they are extracted to, and the
members of an accepted sdist inside of the one of its version. -/
theorem accepted_staysInside :
    (∀ names archiveName, validateMemberNames names archiveName = .ok () → ∀ name ∈ names,
      (∀ directory,
        PurePosixPath.Within directory [] (PurePosixPath.joinText directory name)) ∧
      Char.ofNat 0 ∉ name.toList ∧ Char.ofNat 92 ∉ name.toList) ∧
    ∀ lib host s artifacts version, verifySdist lib host s artifacts version = .ok () →
      ∀ archive members, openTar lib host s artifacts version = .ok archive →
        archive.getmembers = .ok members → ∀ member ∈ members, ∀ directory,
          PurePosixPath.Within directory [s!"asyncly-{version}"]
            (PurePosixPath.joinText directory member.name) := by
  constructor
  · intro names archiveName accepted name member
    obtain ⟨relative, free, backslash, nul⟩ :=
      safe_of_not_unsafeName ((validateMemberNames_eq_ok.mp accepted).safe name member)
    refine ⟨fun directory => ⟨PurePosixPath.components name, ?_⟩, nul, backslash⟩
    rw [PurePosixPath.resolved_joinText relative free directory, List.append_nil]
  · intro lib host s artifacts version accepted archive members opened listed member there directory
    obtain ⟨stable, _, -, -, _, opened', checked⟩ := verifySdist_eq_ok.mp accepted
    cases opened.symm.trans opened'
    obtain ⟨_, listed', passed, -⟩ := checkSdist_eq_ok.mp checked
    cases listed.symm.trans listed'
    obtain ⟨numbers, read⟩ := stableVersion_ok_iff.mpr stable
    obtain ⟨rest, components⟩ :=
      components_of_inside (versionText_of_stable read) (passed.inside member there)
    obtain ⟨relative, free, -⟩ :=
      safe_of_not_unsafeName (passed.names.safe _ (List.mem_map_of_mem there))
    refine ⟨rest, ?_⟩
    rw [PurePosixPath.resolved_joinText relative free directory, components, List.append_assoc,
      List.singleton_append]

/-- A name with dots and doubled slashes below a directory that is left on the way, and the
members of an sdist. -/
theorem accepted_staysInside_sample :
    PurePosixPath.Within "/srv/../tmp" [] (PurePosixPath.joinText "/srv/../tmp" "a//./b/") ∧
    ∀ member ∈ Sample.sdistFiles, PurePosixPath.Within "out" ["asyncly-0.10.0"]
      (PurePosixPath.joinText "out" member.name) := by
  constructor
  · exact (accepted_staysInside.1 ["a//./b/"] "wheel" (by rfl) _ (List.mem_singleton_self _)).1 _
  · intro member there
    exact accepted_staysInside.2 (Sample.accepting Sample.publicFiles) Sample.host Sample.system
      Sample.directory "0.10.0" (Sample.sdist_accepted _) Sample.sdist _ rfl rfl member there "out"

end Release

end Asyncly
