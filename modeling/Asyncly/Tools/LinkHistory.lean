import Asyncly.Tools.Commands
import Asyncly.Tools.Extraction

/-!
# The history of the comparison links

Whatever else the tool is called for, the links in the changelog are the history of the calls
of `update-links` that returned 0: one link for each version, from the one released before it.
-/

namespace Asyncly.Release

/-! ### The text of a file -/

namespace System

/-- The path is a regular file, and this is the text that is read from it. -/
def Reads (s : System) (path : Path) (text : String) : Prop :=
  ∃ contents mode decoded, s.lookup path = some (.file contents mode) ∧
    decodeUtf8 contents = .ok decoded ∧
    text = String.ofList (universalNewlines decoded.toList)

namespace Reads

variable {host : Host} {s t : System} {path : Path} {text : String}

theorem free (h : s.Reads path text) : '\r' ∉ text.toList := by
  obtain ⟨contents, mode, decoded, -, -, rfl⟩ := h
  rw [String.toList_ofList]
  exact not_mem_universalNewlines _

theorem congr (h : s.Reads path text) (same : t.lookup path = s.lookup path) :
    t.Reads path text := by
  obtain ⟨contents, mode, decoded, found, read⟩ := h
  exact ⟨contents, mode, decoded, same.trans found, read⟩

/-- Under every path that names it. -/
theorem of_sameEntry {other : Path} (h : s.Reads path text) (same : s.SameEntry other path) :
    s.Reads other text := by
  obtain ⟨contents, mode, decoded, found, read⟩ := h
  exact ⟨contents, mode, decoded, (System.lookup_congr same).trans found, read⟩

/-- A text that was written is read again, as far as it has no carriage returns. -/
theorem of_encoded {mode : Nat} (written : t.lookup path = some (.file (encodeUtf8 text) mode))
    (free : '\r' ∉ text.toList) : t.Reads path text := by
  refine ⟨_, mode, text, written, decodeUtf8_encodeUtf8 text, ?_⟩
  rw [universalNewlines_of_free free, String.ofList_toList]

theorem readText_eq (h : s.Reads path text) {description other : String}
    (read : readText host s path description = .ok other) : other = text := by
  obtain ⟨contents, mode, decoded, found, bytes, rfl⟩ := h
  have read := Fallible.translating_eq_ok.mp read
  rw [decodedText, Fallible.bind_eq_ok] at read
  obtain ⟨raw, attempted, read⟩ := read
  have bytesRead := Host.attempt_eq_ok attempted
  rw [System.readBytes, System.follow, found] at bytesRead
  obtain rfl := Except.ok.inj bytesRead
  rw [bytes] at read
  exact (Except.ok.inj read).symm

end Reads

end System

/-! ### One release -/

section Release

variable {limit : Nat} {current previous version text released : String}
  {before after : List (List Char)}

theorem mem_lines {line : List Char} {c : Char} (listed : line ∈ Lines.lines text.toList)
    (member : c ∈ line) : c ∈ text.toList := by
  rw [← Lines.unlines_lines text.toList, ← List.count_pos_iff]
  have other : c ≠ '\n' := by
    rintro rfl
    exact not_mem_of_mem_splitOn listed member
  rw [Lines.count_unlines other, List.count_pos_iff]
  exact List.mem_flatten_of_mem listed member

theorem not_mem_of_lines {c : Char} (other : c ≠ '\n')
    (free : ∀ line ∈ Lines.lines text.toList, c ∉ line) : c ∉ text.toList := by
  rw [← Lines.unlines_lines text.toList, ← List.count_eq_zero, Lines.count_unlines other,
    List.count_eq_zero, List.mem_flatten]
  rintro ⟨line, listed, member⟩
  exact free line listed member

theorem UniqueUnreleased.find_of_free (h : UniqueUnreleased current before after text)
    (free : '\r' ∉ text.toList) : Lines.find (isDefinition "Unreleased") text.toList =
      [⟨(Lines.above before).length,
        (Lines.above before).length + (unreleasedLink current).toList.length,
        (unreleasedLink current).toList⟩] := by
  refine Lines.find_of_unique h.split (isDefinition_of_linkStart ?_ fun member => ?_)
    fun other member => isDefinition_of_not_linkStart (h.unique other member)
  · rw [unreleasedLink_eq]
    exact List.prefix_append _ _
  · refine free (mem_lines ?_ member)
    rw [h.split]
    simp

/-- What a release that goes through was given, and what it makes of the text. -/
structure Releases (limit : Nat) (current previous version : String)
    (before after : List (List Char)) (text released : String) : Prop where
  previous : previous = current
  precedes : Precedes limit current version
  fresh : ∀ line ∈ Lines.lines text.toList, ¬ linkStart version <+: line
  links : UniqueUnreleased version before ((releaseLink current version).toList :: after) released
  free : '\r' ∉ released.toList

theorem releases_of_ok (free : '\r' ∉ text.toList)
    (h : UniqueUnreleased current before after text)
    (done : updateComparisonLinks limit text previous version = .ok released) :
    Releases limit current previous version before after text released := by
  obtain ⟨precedes, none, start, stop, found, -⟩ := updateComparisonLinks_inv done
  rw [h.find_of_free free] at found
  obtain rfl := unreleasedLink_inj (congrArg Lines.Found.group (List.cons.inj found).1)
  have fresh : ∀ line ∈ Lines.lines text.toList, ¬ linkStart version <+: line := by
    intro line listed start
    have undefined := Lines.find_eq_nil_iff.mp none line listed
    rw [isDefinition_of_linkStart start fun member => free (mem_lines listed member)] at undefined
    cases undefined
  obtain ⟨released', done', links⟩ := updateComparisonLinks_ok precedes h fresh
  obtain rfl := Except.ok.inj (done'.symm.trans done)
  refine ⟨rfl, precedes, fresh, links, not_mem_of_lines (by decide) fun line listed => ?_⟩
  obtain ⟨stable, stable'⟩ := precedes.versionText
  have kept (line : List Char) (member : line ∈ before ∨ line ∈ after) : '\r' ∉ line := by
    refine fun here => free (mem_lines ?_ here)
    rw [h.split]
    simp only [List.mem_append, List.mem_cons]
    tauto
  rw [links.split] at listed
  simp only [List.mem_append, List.mem_cons] at listed
  rcases listed with here | rfl | rfl | here
  · exact kept line (.inl here)
  · exact not_mem_unreleasedLink stable' (.inr rfl)
  · exact not_mem_releaseLink stable stable' (.inr rfl)
  · exact kept line (.inr here)

theorem Precedes.trans (h : Precedes limit current previous)
    (h' : Precedes limit previous version) : Precedes limit current version := by
  obtain ⟨first, middle, read, read', less⟩ := h
  obtain ⟨middle', last, read'', read''', less'⟩ := h'
  obtain rfl := Except.ok.inj (read'.symm.trans read'')
  exact ⟨first, last, read, read''', less.trans less'⟩

/-- A name that no line defines after a release was not defined before it. -/
theorem fresh_before {next : String} (h : UniqueUnreleased current before after text)
    (releases : Releases limit current previous version before after text released)
    (stable : VersionText next)
    (fresh : ∀ line ∈ Lines.lines released.toList, ¬ linkStart next <+: line) :
    ∀ line ∈ Lines.lines text.toList, ¬ linkStart next <+: line := by
  intro line listed start
  rw [h.split] at listed
  rw [releases.links.split] at fresh
  simp only [List.mem_append, List.mem_cons] at listed
  rcases listed with here | rfl | here
  · exact fresh line (by simp [here]) start
  · refine stable.ne_unreleased (linkStart_inj stable.free (by decide) start ?_)
    rw [unreleasedLink_eq]
    exact List.prefix_append _ _
  · exact fresh line (by simp [here]) start

end Release

/-- The chain grows at its top. -/
theorem chainLinks_cons (first version : String) (rest : List String)
    (before after : List (List Char)) :
    before ++ chainLinks first (version :: rest) ++ after =
      before ++ chainLinks version rest ++ (releaseLink first version).toList :: after := by
  rw [chainLinks, chainLinks, List.getLastD_cons, releaseLinks]
  simp

/-! ### All calls -/

namespace Call

variable (kit : Toolkit) (path : Path)

/-- The version a call releases in a changelog, when it returns 0. -/
def released? (call : Call) (s : System) : Option String :=
  match call.command, (call.main kit s).1 with
  | .updateLinks version _ changelog, .ok 0 =>
      if s.SameEntry changelog path then some version else none
  | _, _ => none

/-- The versions that are released in a changelog, in order. -/
def released : System → List Call → List String
  | _, [] => []
  | s, call :: rest =>
      (call.released? kit path s).toList ++ released (call.main kit s).2 rest

/-- Nothing but `update-links` is told to write to the changelog, under whichever path. -/
def OnlyLinks (directories : Directories) (call : Call) : Prop :=
  ∀ output, call.command.output = some output →
    directories.entryOf output = directories.entryOf path →
      ∃ version previous, call.command = .updateLinks version previous output

variable {kit path}

/-- A call releases a version in the changelog, or leaves the changelog as it is. -/
theorem released?_cases (kit : Toolkit) {call : Call} {s : System} {current text : String}
    {before after : List (List Char)} (only : call.OnlyLinks path s.directories)
    (reads : s.Reads path text) (h : UniqueUnreleased current before after text) :
    (call.released? kit path s = none ∧ (call.main kit s).2.Reads path text) ∨
      ∃ previous version released', call.released? kit path s = some version ∧
        Releases kit.intMaxStrDigits current previous version before after text released' ∧
        (call.main kit s).2.Reads path released' := by
  have ends := call.main_ends kit s
  by_cases replaces : call.Replaces kit s path
  · obtain ⟨text', mode, planned, written⟩ := lookup_of_replaces replaces
    obtain ⟨returned, changelog, output, same⟩ := replaces
    obtain ⟨version, previous, command⟩ := only changelog output same
    rw [command] at planned
    obtain ⟨other, read, planned⟩ := Fallible.bind_eq_ok.mp planned
    obtain ⟨updated, done, planned⟩ := Fallible.map_eq_ok.mp planned
    obtain rfl := (reads.of_sameEntry same).readText_eq read
    obtain rfl := Option.some.inj planned
    have releases := releases_of_ok reads.free h done
    refine .inr ⟨previous, version, updated, ?_, releases, .of_encoded written releases.free⟩
    rw [released?, command, returned]
    exact if_pos same
  · refine .inl ⟨?_, reads.congr ((call.main_ends kit s).lookup_eq (.inl ?_)
      fun returned output given same => replaces ⟨returned, output, given, same⟩)⟩
    · rw [released?]
      split
      · rename_i version previous changelog command returned
        refine if_neg fun same => replaces ⟨returned, changelog, ?_, same⟩
        rw [command]
        rfl
      · rfl
    · obtain ⟨contents, mode, decoded, found, -⟩ := reads
      simp [found]

/-- Whatever the tool is called for, and whichever file operations fail: the changelog keeps
all its lines, with the chain of the versions that were released in the place of the link of
what is not released. The versions are increasing, and none of them was defined before. -/
theorem afterAll_links {s : System} {calls : List Call} {first text : String}
    {before after : List (List Char)} (only : ∀ call ∈ calls, call.OnlyLinks path s.directories)
    (reads : s.Reads path text) (h : UniqueUnreleased first before after text) :
    (∃ final, (afterAll kit s calls).Reads path final ∧ Lines.lines final.toList =
        before ++ chainLinks first (released kit path s calls) ++ after) ∧
      (first :: released kit path s calls).Pairwise (Precedes kit.intMaxStrDigits) ∧
      ∀ version ∈ released kit path s calls, ∀ line ∈ Lines.lines text.toList,
        ¬ linkStart version <+: line := by
  induction calls generalizing s first text after with
  | nil =>
      refine ⟨⟨text, reads, ?_⟩, List.pairwise_singleton _ _, by simp [released]⟩
      rw [h.split]
      simp [released, chainLinks, releaseLinks]
  | cons call rest ih =>
      obtain ⟨here, later⟩ := List.forall_mem_cons.mp only
      rw [← (call.main_ends kit s).directories_eq] at later
      rcases released?_cases kit here reads h with
        ⟨none, kept⟩ | ⟨previous, version, middle, some, releases, written⟩
      · rw [released, none]
        exact ih later kept h
      · obtain ⟨⟨final, read, lines⟩, increasing, fresh⟩ := ih later written releases.links
        rw [released, some]
        refine ⟨⟨final, read, ?_⟩, ?_, ?_⟩
        · rw [Option.toList_some, List.singleton_append, chainLinks_cons]
          exact lines
        · refine List.pairwise_cons.mpr ⟨?_, increasing⟩
          refine List.forall_mem_cons.mpr ⟨releases.precedes, fun next member => ?_⟩
          exact releases.precedes.trans ((List.pairwise_cons.mp increasing).1 next member)
        · refine List.forall_mem_cons.mpr ⟨releases.fresh, fun next member => ?_⟩
          have stable := ((List.pairwise_cons.mp increasing).1 next member).versionText.2
          exact fresh_before h releases stable (fresh next member)

end Call

namespace Sample

def changelogPath : Path := .ofString "CHANGELOG.md"

/-- A directory with nothing but the changelog. -/
def checkoutOf (text stderr : String) : System where
  entries := [(.ofString ".", .directory 0o755), (changelogPath, .file (encodeUtf8 text) 0o644)]
  directories := .literal
  stderr := stderr

def checkout : System := checkoutOf changelog ""

def release (host : Host) (version previous : String) : Call where
  host := host
  command := .updateLinks version previous changelogPath
  noNul path member := by
    rw [List.mem_singleton.mp member]
    decide

/-- Two releases, between them one that cannot read the file, and notes. -/
def calls : List Call :=
  [release host "0.10.0" "0.9.0",
    release { host with fails := fun _ => some "Permission denied" } "0.11.0" "0.10.0",
    release host "1.0.0" "0.10.0",
    ⟨host, .notes "0.10.0" changelogPath (.ofString "notes.md"), by decide⟩]

theorem calls_only : ∀ call ∈ calls, call.OnlyLinks changelogPath checkout.directories := by
  intro call member output given same
  simp only [calls, List.mem_cons, List.not_mem_nil, or_false] at member
  rcases member with rfl | rfl | rfl | rfl
  · exact Option.some.inj given ▸ ⟨_, _, rfl⟩
  · exact Option.some.inj given ▸ ⟨_, _, rfl⟩
  · exact Option.some.inj given ▸ ⟨_, _, rfl⟩
  · rw [← Option.some.inj given] at same
    exact absurd same (by decide)

theorem checkoutOf_reads {text : String} (free : '\r' ∉ text.toList) (stderr : String) :
    (checkoutOf text stderr).Reads changelogPath text :=
  have written : (checkoutOf text stderr).lookup changelogPath =
      some (.file (encodeUtf8 text) 0o644) := rfl
  .of_encoded written free

/-- A release that goes through. -/
theorem main_updateLinks {text updated previous version : String} (free : '\r' ∉ text.toList)
    (done : updateComparisonLinks 4300 text previous version = .ok updated) (stderr : String) :
    (release host version previous).main kit (checkoutOf text stderr) =
      (.ok 0, checkoutOf updated stderr) := by
  have read : readText host (checkoutOf text stderr) changelogPath "changelog" = .ok text := by
    refine Fallible.translating_eq_ok.mpr ?_
    rw [decodedText, show host.attempt (.readBytes changelogPath)
      ((checkoutOf text stderr).readBytes changelogPath) = .ok (encodeUtf8 text) from rfl,
      Fallible.ok_bind, decodeUtf8_encodeUtf8, Fallible.ok_bind, universalNewlines_of_free free,
      String.ofList_toList]
    rfl
  refine call_main_of_ok ?_
  rw [Command.call_run, release, Command.plan, read, Fallible.ok_bind,
    show kit.intMaxStrDigits = 4300 from rfl, done]
  rfl

/-- Of the four calls two are releases that go through. -/
theorem released_calls :
    Call.released kit changelogPath checkout calls = ["0.10.0", "1.0.0"] := by
  have free : '\r' ∉ changelog.toList := by decide
  obtain ⟨first, done, links⟩ := updateComparisonLinks_ok precedes_minor changelog_unique
    (by decide)
  have free' := (releases_of_ok free changelog_unique done).free
  obtain ⟨second, done', -⟩ := updateComparisonLinks_ok precedes_major links (by
    rw [links.split]
    decide)
  obtain ⟨line, refused⟩ : ∃ line, (release { host with fails := fun _ => some "Permission denied" }
      "0.11.0" "0.10.0").main kit (checkoutOf first "") = (.ok 1, checkoutOf first line) := ⟨_, rfl⟩
  rw [calls, checkout, Call.released, Call.released?, main_updateLinks free done "",
    Call.released, Call.released?, refused, Call.released, Call.released?,
    main_updateLinks free' done' line]
  rfl

end Sample

/-- The changelog has the two versions that were released. -/
theorem afterAll_links_sample :
    Call.released Sample.kit Sample.changelogPath Sample.checkout Sample.calls =
        ["0.10.0", "1.0.0"] ∧
    (∃ final, (Call.afterAll Sample.kit Sample.checkout Sample.calls).Reads
        Sample.changelogPath final ∧
      Lines.lines final.toList = ["# Changelog".toList, []] ++ chainLinks "0.9.0"
        (Call.released Sample.kit Sample.changelogPath Sample.checkout Sample.calls) ++ [[]]) ∧
      ("0.9.0" :: Call.released Sample.kit Sample.changelogPath Sample.checkout
        Sample.calls).Pairwise (Precedes 4300) ∧
      ∀ version ∈ Call.released Sample.kit Sample.changelogPath Sample.checkout Sample.calls,
        ∀ line ∈ Lines.lines Sample.changelog.toList, ¬ linkStart version <+: line :=
  ⟨Sample.released_calls, Call.afterAll_links Sample.calls_only
    (Sample.checkoutOf_reads (by decide) "") Sample.changelog_unique⟩

end Asyncly.Release
