import Asyncly.Lib.Lines
import Asyncly.Tools.Versions
import Mathlib.Data.Prod.Lex

/-!
# Comparison links of the changelog

A changelog ends in link definitions: one for what is not released yet, and one for each
release. A release replaces the former and puts the definition of the new version below it.
-/

namespace Asyncly.Release

/-- Versions are compared number by number. -/
def versionOrder (version : Nat × Nat × Nat) : Nat ×ₗ Nat ×ₗ Nat :=
  toLex (version.1, toLex version.2)

/-- `validate_next_version` -/
def validateNextVersion (limit : Nat) (version previous : String) : Except Exn Unit := do
  let next ← stableVersion limit version
  let last ← stableVersion limit previous
  if versionOrder next ≤ versionOrder last then
    throw (.releaseError s!"version {version} must be greater than {previous}")

/-- `_COMPARE_ROOT` -/
def compareRoot : String := "https://github.com/andy-takker/asyncly/compare"

def unreleasedLink (version : String) : String :=
  "[Unreleased]: " ++ compareRoot ++ "/" ++ version ++ "...HEAD"

def releaseLink (previous version : String) : String :=
  "[" ++ version ++ "]: " ++ compareRoot ++ "/" ++ previous ++ "..." ++ version

/-- How the definition of a link starts. -/
def linkStart (name : String) : List Char := ("[" ++ name ++ "]:").toList

/-- A line matches the start of a link, then `[^\r\n]*$`. A carriage return is not matched,
and the end of a line is before its newline. -/
def isDefinition (name : String) (line : List Char) : Bool :=
  (linkStart name).isPrefixOf line && !line.contains '\r'

def missingLink (previous : String) : Exn :=
  .releaseError (s!"missing unique Unreleased link for {previous}; " ++
    "expected exactly one Unreleased definition")

/-- `update_comparison_links` -/
def updateComparisonLinks (limit : Nat) (text previous version : String) :
    Except Exn String := do
  validateNextVersion limit version previous
  let old := unreleasedLink previous
  match Lines.find (isDefinition "Unreleased") text.toList with
  | [definition] =>
      if definition.group ≠ old.toList then throw (missingLink previous)
      else if Lines.find (isDefinition version) text.toList ≠ [] then
        throw (.releaseError s!"comparison link for {version} already exists")
      else
        let replacement := unreleasedLink version ++ "\n" ++ releaseLink previous version
        pure (String.ofList
          (Lines.splice text.toList definition.start definition.stop replacement.toList))
  | _ => throw (missingLink previous)

/-- A series of releases, each on the text the one before has left. -/
def updateAll (limit : Nat) (text previous : String) : List String → Except Exn String
  | [] => .ok text
  | version :: rest => do
      let text ← updateComparisonLinks limit text previous version
      updateAll limit text version rest

/-! ### What links look like -/

/-- A version is a later one than another, and both are stable. -/
def Precedes (limit : Nat) (previous version : String) : Prop :=
  ∃ last next, stableVersion limit previous = .ok last ∧ stableVersion limit version = .ok next ∧
    versionOrder last < versionOrder next

namespace VersionText

variable {version : String} (h : VersionText version)

include h

theorem ne_unreleased : version ≠ "Unreleased" := by
  rintro rfl
  exact h.not_mem (c := 'U') rfl (by decide) (by decide)

theorem free : ']' ∉ version.toList := h.not_mem rfl (by decide)

end VersionText

theorem linkStart_eq (name : String) :
    linkStart name = '[' :: (name.toList ++ ']' :: [':']) := by
  simp [linkStart, String.toList_append]

/-- A line is the definition of one name at most. -/
theorem linkStart_inj {name other : String} {line : List Char} (free : ']' ∉ name.toList)
    (free' : ']' ∉ other.toList) (here : linkStart name <+: line)
    (there : linkStart other <+: line) : name = other := by
  have read {name : String} (free : ']' ∉ name.toList) (start : linkStart name <+: line) :
      line.tail.takeWhile (fun c => c ≠ ']') = name.toList := by
    obtain ⟨rest, rfl⟩ := start
    have others (c : Char) (member : c ∈ name.toList) : decide (c ≠ ']') = true :=
      decide_eq_true (ne_of_mem_of_not_mem member free)
    rw [linkStart_eq, List.cons_append, List.tail_cons, List.append_assoc,
      List.takeWhile_append_of_pos others, List.cons_append,
      List.takeWhile_cons_of_neg (by simp), List.append_nil]
  exact String.toList_inj.mp ((read free here).symm.trans (read free' there))

theorem unreleasedLink_eq (version : String) : (unreleasedLink version).toList =
    linkStart "Unreleased" ++ (" ".toList ++ compareRoot.toList ++ "/".toList ++
      version.toList ++ "...HEAD".toList) := by
  have start : "[Unreleased]: ".toList = linkStart "Unreleased" ++ " ".toList := by decide
  change ("[Unreleased]: " ++ compareRoot ++ "/" ++ version ++ "...HEAD").toList = _
  simp only [String.toList_append, start, List.append_assoc]

theorem releaseLink_eq (previous version : String) : (releaseLink previous version).toList =
    linkStart version ++ (" ".toList ++ compareRoot.toList ++ "/".toList ++ previous.toList ++
      "...".toList ++ version.toList) := by
  have start : "]: ".toList = "]:".toList ++ " ".toList := by decide
  simp only [releaseLink, linkStart, String.toList_append, start, List.append_assoc]

theorem unreleasedLink_inj {version other : String}
    (same : (unreleasedLink version).toList = (unreleasedLink other).toList) : version = other := by
  rw [unreleasedLink_eq, unreleasedLink_eq, List.append_cancel_left_eq, List.append_cancel_right_eq,
    List.append_cancel_left_eq] at same
  exact String.toList_inj.mp same

/-- A link takes one line. -/
theorem not_mem_unreleasedLink {version : String} (h : VersionText version) {c : Char}
    (lineEnd : c = '\n' ∨ c = '\r') : c ∉ (unreleasedLink version).toList := by
  have free : c ∉ version.toList := by
    rcases lineEnd with rfl | rfl
    · exact h.not_mem rfl (by decide)
    · exact h.not_mem rfl (by decide)
  rw [unreleasedLink_eq]
  simp only [List.mem_append, free, or_false]
  rcases lineEnd with rfl | rfl
  · decide
  · decide

theorem not_mem_releaseLink {previous version : String} (h : VersionText previous)
    (h' : VersionText version) {c : Char} (lineEnd : c = '\n' ∨ c = '\r') :
    c ∉ (releaseLink previous version).toList := by
  have free {version : String} (h : VersionText version) : c ∉ version.toList := by
    rcases lineEnd with rfl | rfl
    · exact h.not_mem rfl (by decide)
    · exact h.not_mem rfl (by decide)
  rw [releaseLink_eq, linkStart_eq]
  simp only [List.mem_append, List.mem_cons, free h, free h', or_false]
  rcases lineEnd with rfl | rfl
  · decide
  · decide

theorem isDefinition_of_linkStart {name : String} {line : List Char}
    (start : linkStart name <+: line) (free : '\r' ∉ line) : isDefinition name line = true := by
  simp [isDefinition, List.isPrefixOf_iff_prefix.mpr start, free]

theorem isDefinition_of_not_linkStart {name : String} {line : List Char}
    (start : ¬ linkStart name <+: line) : isDefinition name line = false := by
  rw [isDefinition, Bool.eq_false_iff.mpr (mt List.isPrefixOf_iff_prefix.mp start), Bool.false_and]

/-! ### One release -/

/-- One line of the text is the link from this version on to what is not released, and no
other line defines that link. -/
structure UniqueUnreleased (version : String) (before after : List (List Char)) (text : String) :
    Prop where
  split : Lines.lines text.toList = before ++ (unreleasedLink version).toList :: after
  unique : ∀ line ∈ before ++ after, ¬ linkStart "Unreleased" <+: line

section Release

variable {limit : Nat} {previous version text : String} {before after : List (List Char)}

theorem Precedes.versionText (h : Precedes limit previous version) :
    VersionText previous ∧ VersionText version := by
  obtain ⟨last, next, first, second, -⟩ := h
  exact ⟨versionText_of_stable first, versionText_of_stable second⟩

theorem Precedes.ne (h : Precedes limit previous version) : previous ≠ version := by
  rintro rfl
  obtain ⟨last, next, first, second, less⟩ := h
  rw [first] at second
  obtain rfl := Except.ok.inj second
  exact lt_irrefl _ less

theorem Precedes.validate (h : Precedes limit previous version) :
    validateNextVersion limit version previous = .ok () := by
  obtain ⟨last, next, first, second, less⟩ := h
  rw [validateNextVersion, second, first]
  exact if_neg (not_le.mpr less)

theorem precedes_of_validate (h : validateNextVersion limit version previous = .ok ()) :
    Precedes limit previous version := by
  obtain ⟨next, second, h⟩ := Fallible.bind_eq_ok.mp h
  obtain ⟨last, first, h⟩ := Fallible.bind_eq_ok.mp h
  refine ⟨last, next, first, second, ?_⟩
  by_contra other
  rw [if_pos (not_lt.mp other)] at h
  cases h

/-- What a call that returns has found, and what it returns. -/
theorem updateComparisonLinks_inv {released : String}
    (h : updateComparisonLinks limit text previous version = .ok released) :
    Precedes limit previous version ∧ Lines.find (isDefinition version) text.toList = [] ∧
      ∃ start stop, Lines.find (isDefinition "Unreleased") text.toList =
        [⟨start, stop, (unreleasedLink previous).toList⟩] ∧
        released = String.ofList (Lines.splice text.toList start stop
          (unreleasedLink version ++ "\n" ++ releaseLink previous version).toList) := by
  obtain ⟨_, valid, rest⟩ := Fallible.bind_eq_ok.mp h
  dsimp only at rest
  split at rest
  · rename_i definition found
    split at rest
    · cases rest
    rename_i same
    split at rest
    · cases rest
    rename_i none
    refine ⟨precedes_of_validate valid, not_not.mp none, definition.start, definition.stop, ?_,
      (Except.ok.inj rest).symm⟩
    rw [found, ← not_not.mp same]
  · cases rest

theorem UniqueUnreleased.find (h : UniqueUnreleased version before after text)
    (stable : VersionText version) : Lines.find (isDefinition "Unreleased") text.toList =
      [⟨(Lines.above before).length,
        (Lines.above before).length + (unreleasedLink version).toList.length,
        (unreleasedLink version).toList⟩] := by
  refine Lines.find_of_unique h.split (isDefinition_of_linkStart ?_ ?_)
    fun other member => isDefinition_of_not_linkStart (h.unique other member)
  · rw [unreleasedLink_eq]
    exact List.prefix_append _ _
  · exact not_mem_unreleasedLink stable (.inr rfl)

/-- The two links that take the place of one are two lines. -/
theorem lines_release (h : UniqueUnreleased previous before after text)
    (stable : VersionText previous) (stable' : VersionText version) :
    Lines.lines (Lines.unlines (before ++ (unreleasedLink version).toList ::
      (releaseLink previous version).toList :: after)) =
      before ++ (unreleasedLink version).toList :: (releaseLink previous version).toList ::
        after := by
  refine Lines.lines_unlines (by simp) fun line member => ?_
  have kept (line : List Char) (member : line ∈ before ∨ line ∈ after) : '\n' ∉ line := by
    refine @not_mem_of_mem_splitOn _ _ _ _ text.toList _ ?_
    rw [← Lines.lines, h.split]
    simp only [List.mem_append, List.mem_cons]
    tauto
  simp only [List.mem_append, List.mem_cons] at member
  rcases member with here | rfl | rfl | here
  · exact kept line (.inl here)
  · exact not_mem_unreleasedLink stable' (.inl rfl)
  · exact not_mem_releaseLink stable stable' (.inl rfl)
  · exact kept line (.inr here)

/-- A release puts two links in the place of one, and leaves the rest. -/
theorem updateComparisonLinks_ok (precedes : Precedes limit previous version)
    (h : UniqueUnreleased previous before after text)
    (fresh : ∀ line ∈ Lines.lines text.toList, ¬ linkStart version <+: line) :
    ∃ released, updateComparisonLinks limit text previous version = .ok released ∧
      UniqueUnreleased version before ((releaseLink previous version).toList :: after)
        released := by
  obtain ⟨stable, stable'⟩ := precedes.versionText
  have unreleased : Lines.find (isDefinition version) text.toList = [] :=
    Lines.find_eq_nil_iff.mpr fun line member => isDefinition_of_not_linkStart (fresh line member)
  have replacement : (unreleasedLink version ++ "\n" ++ releaseLink previous version).toList =
      Lines.unlines [(unreleasedLink version).toList, (releaseLink previous version).toList] := by
    rw [Lines.unlines, List.intercalate_cons_cons, List.intercalate_singleton,
      String.toList_append, String.toList_append]
    rfl
  have spliced := Lines.splice_line h.split
    (Lines.unlines [(unreleasedLink version).toList, (releaseLink previous version).toList])
  rw [Lines.unlines_nested (by simp), List.append_assoc, List.cons_append, List.cons_append,
    List.nil_append] at spliced
  refine ⟨String.ofList (Lines.unlines (before ++ (unreleasedLink version).toList ::
    (releaseLink previous version).toList :: after)), ?_, ?_, ?_⟩
  · rw [updateComparisonLinks, precedes.validate, h.find stable]
    simp only [unreleased, replacement, spliced, ne_eq, not_true_eq_false, if_false]
    rfl
  · rw [String.toList_ofList, lines_release h stable stable']
  · intro line member start
    rcases List.mem_append.mp member with here | here
    · exact h.unique line (List.mem_append_left after here) start
    · rcases List.mem_cons.mp here with rfl | here
      · refine stable'.ne_unreleased (linkStart_inj stable'.free (by decide) ?_ start)
        rw [releaseLink_eq]
        exact List.prefix_append _ _
      · exact h.unique line (List.mem_append_right before here) start

/-- The same release again finds the link of the version before missing. -/
theorem updateComparisonLinks_again (precedes : Precedes limit previous version)
    (h : UniqueUnreleased version before after text) :
    updateComparisonLinks limit text previous version = .error (missingLink previous) := by
  have other : (unreleasedLink version).toList ≠ (unreleasedLink previous).toList :=
    fun same => precedes.ne (unreleasedLink_inj same).symm
  rw [updateComparisonLinks, precedes.validate, h.find precedes.versionText.2]
  exact if_pos other

end Release

/-! ### A series of releases -/

/-- The links of a series of releases, the newest first. -/
def releaseLinks : String → List String → List (List Char)
  | _, [] => []
  | previous, version :: rest =>
      releaseLinks version rest ++ [(releaseLink previous version).toList]

/-- What takes the place of the link of the first version. -/
def chainLinks (first : String) (versions : List String) : List (List Char) :=
  (unreleasedLink (versions.getLastD first)).toList :: releaseLinks first versions

variable {limit : Nat} {text first : String} {versions : List String}
  {before after : List (List Char)}

/-- No later version is defined after a release if none was before. -/
theorem fresh_of_released {version released : String} {rest : List String}
    (later : ∀ next ∈ rest, Precedes limit version next)
    (h : UniqueUnreleased first before after text)
    (h' : UniqueUnreleased version before ((releaseLink first version).toList :: after) released)
    (fresh : ∀ next ∈ rest, ∀ line ∈ Lines.lines text.toList, ¬ linkStart next <+: line) :
    ∀ next ∈ rest, ∀ line ∈ Lines.lines released.toList, ¬ linkStart next <+: line := by
  intro next member line listed start
  have free := (later next member).versionText
  rw [h'.split] at listed
  rw [h.split] at fresh
  rcases List.mem_append.mp listed with here | here
  · exact fresh next member line (List.mem_append_left _ here) start
  · rcases List.mem_cons.mp here with rfl | here
    · refine free.2.ne_unreleased (linkStart_inj free.2.free (by decide) start ?_)
      rw [unreleasedLink_eq]
      exact List.prefix_append _ _
    · rcases List.mem_cons.mp here with rfl | here
      · refine (later next member).ne (linkStart_inj free.1.free free.2.free ?_ start)
        rw [releaseLink_eq]
        exact List.prefix_append _ _
      · exact fresh next member line (by simp [here]) start

/-- Every release of a series succeeds, and each adds its link above those before it. -/
theorem updateAll_ok (increasing : (first :: versions).Pairwise (Precedes limit))
    (h : UniqueUnreleased first before after text)
    (fresh : ∀ version ∈ versions, ∀ line ∈ Lines.lines text.toList,
      ¬ linkStart version <+: line) :
    ∃ released, updateAll limit text first versions = .ok released ∧
      UniqueUnreleased (versions.getLastD first) before (releaseLinks first versions ++ after)
        released := by
  induction versions generalizing text first after with
  | nil => exact ⟨text, rfl, h⟩
  | cons version rest ih =>
      obtain ⟨earlier, increasing⟩ := List.pairwise_cons.mp increasing
      obtain ⟨new, fresh⟩ := List.forall_mem_cons.mp fresh
      have precedes := earlier version (List.mem_cons_self ..)
      obtain ⟨middle, released, h'⟩ := updateComparisonLinks_ok precedes h new
      have later := (List.pairwise_cons.mp increasing).1
      obtain ⟨final, done, chain⟩ := ih increasing h'
        (fresh_of_released later h h' fresh)
      refine ⟨final, ?_, ?_⟩
      · rw [updateAll, released]
        exact done
      · rw [List.getLastD_cons, releaseLinks, List.append_assoc]
        exact chain

/-- A series of releases turns the one link of what is not released into a chain of links and
changes nothing else, and no release of the series can be repeated. -/
theorem comparisonLinks_chain (increasing : (first :: versions).Pairwise (Precedes limit))
    (h : UniqueUnreleased first before after text)
    (fresh : ∀ version ∈ versions, ∀ line ∈ Lines.lines text.toList,
      ¬ linkStart version <+: line) :
    updateAll limit text first versions =
      .ok (String.ofList (Lines.unlines (before ++ chainLinks first versions ++ after))) ∧
    ∀ done version rest, versions = done ++ version :: rest →
      ∃ output, updateAll limit text first (done ++ [version]) = .ok output ∧
        updateComparisonLinks limit output (done.getLastD first) version =
          .error (missingLink (done.getLastD first)) := by
  constructor
  · obtain ⟨released, done, chain⟩ := updateAll_ok increasing h fresh
    rw [done, chainLinks, List.append_assoc, List.cons_append, ← chain.split, Lines.unlines_lines,
      String.ofList_toList]
  · rintro done version rest rfl
    have split : done ++ version :: rest = done ++ [version] ++ rest := by simp
    rw [split] at increasing fresh
    have upTo : (first :: (done ++ [version])).Pairwise (Precedes limit) :=
      (List.pairwise_append.mp (List.cons_append ▸ increasing)).1
    obtain ⟨output, released, chain⟩ := updateAll_ok upTo h
      fun version member => fresh version (List.mem_append_left rest member)
    refine ⟨output, released, ?_⟩
    rw [List.getLastD_concat] at chain
    have precedes : Precedes limit (done.getLastD first) version :=
      (List.pairwise_append.mp (List.cons_append ▸ upTo)).2.2 _ List.getLastD_mem_cons _
        (List.mem_singleton_self version)
    exact updateComparisonLinks_again precedes chain

namespace Sample

/-- A changelog that ends in the link of version 0.9.0. -/
def changelog : String := "# Changelog\n\n" ++ unreleasedLink "0.9.0" ++ "\n"

theorem changelog_unique :
    UniqueUnreleased "0.9.0" ["# Changelog".toList, []] [[]] changelog := by
  refine ⟨by decide, fun line member => ?_⟩
  have cases : line = "# Changelog".toList ∨ line = [] := by
    simpa using member
  rcases cases with rfl | rfl
  · decide
  · decide

theorem precedes_minor : Precedes 4300 "0.9.0" "0.10.0" :=
  ⟨(0, 9, 0), (0, 10, 0), rfl, rfl, by decide⟩

theorem precedes_major : Precedes 4300 "0.10.0" "1.0.0" :=
  ⟨(0, 10, 0), (1, 0, 0), rfl, rfl, by decide⟩

theorem precedes_both : Precedes 4300 "0.9.0" "1.0.0" :=
  ⟨(0, 9, 0), (1, 0, 0), rfl, rfl, by decide⟩

end Sample

theorem comparisonLinks_chain_sample :
    updateAll 4300 Sample.changelog "0.9.0" ["0.10.0", "1.0.0"] =
      .ok (String.ofList (Lines.unlines
        (["# Changelog".toList, []] ++ chainLinks "0.9.0" ["0.10.0", "1.0.0"] ++ [[]]))) ∧
    ∀ done version rest, ["0.10.0", "1.0.0"] = done ++ version :: rest →
      ∃ output, updateAll 4300 Sample.changelog "0.9.0" (done ++ [version]) = .ok output ∧
        updateComparisonLinks 4300 output (done.getLastD "0.9.0") version =
          .error (missingLink (done.getLastD "0.9.0")) :=
  comparisonLinks_chain
    (by simp [Sample.precedes_minor, Sample.precedes_major, Sample.precedes_both])
    Sample.changelog_unique (by decide)

end Asyncly.Release
