import Asyncly.Lib.Runs
import Asyncly.Tools.Artifacts
import Asyncly.Tools.Changelog
import Asyncly.Tools.ReleaseNotes

/-!
# The commands of the release tool

A command reads texts, checks them and decides what it writes; only then it replaces its
output. So a call of the tool is a plan, which leaves the files alone, and at most one write.
-/

namespace Asyncly.Release

/-! ### Reading texts -/

/-- A carriage return, and the newline behind it if there is one, are read as one newline. -/
def universalNewlines : List Char → List Char
  | '\r' :: '\n' :: rest => '\n' :: universalNewlines rest
  | '\r' :: rest => '\n' :: universalNewlines rest
  | c :: rest => c :: universalNewlines rest
  | [] => []

theorem not_mem_universalNewlines (text : List Char) : '\r' ∉ universalNewlines text := by
  fun_induction universalNewlines text with
  | case1 rest ih => simpa using ih
  | case2 rest _ ih => simpa using ih
  | case3 c rest _ other ih =>
      rw [List.mem_cons, not_or]
      exact ⟨fun same => other same.symm, ih⟩
  | case4 => exact List.not_mem_nil

/-- A text without carriage returns is read as it is. -/
theorem universalNewlines_of_free {text : List Char} (free : '\r' ∉ text) :
    universalNewlines text = text := by
  fun_induction universalNewlines text with
  | case1 rest ih => exact absurd (List.mem_cons_self ..) free
  | case2 rest _ ih => exact absurd (List.mem_cons_self ..) free
  | case3 c rest _ _ ih => rw [ih fun later => free (List.mem_cons_of_mem c later)]
  | case4 => rfl

/-- A value of a TOML document. Of a number, a truth value or a date, `str` and `repr` are
given. -/
inductive TomlValue
  | string (text : String)
  | table (members : List (String × TomlValue))
  | array (items : List TomlValue)
  | other (str repr : String)

namespace TomlValue

mutual

/-- What is told apart where only texts and tables are. -/
def forget : TomlValue → Toml
  | string text => .string text
  | table members => .table (forgetMembers members)
  | array _ => .other
  | other _ _ => .other

def forgetMembers : List (String × TomlValue) → List (String × Toml)
  | [] => []
  | (key, value) :: rest => (key, forget value) :: forgetMembers rest

end

mutual

/-- `repr(value)` -/
def repr : TomlValue → String
  | string text => quoted text
  | table members => "\x7b" ++ ", ".intercalate (reprMembers members) ++ "\x7d"
  | array items => "[" ++ ", ".intercalate (reprItems items) ++ "]"
  | other _ repr => repr

def reprMembers : List (String × TomlValue) → List String
  | [] => []
  | (key, value) :: rest => (quoted key ++ ": " ++ repr value) :: reprMembers rest

def reprItems : List TomlValue → List String
  | [] => []
  | value :: rest => repr value :: reprItems rest

end

/-- `str(value)` -/
def str : TomlValue → String
  | string text => text
  | other str _ => str
  | value => value.repr

/-- A table, as a `dict`. -/
def table? : TomlValue → Option (Dict String TomlValue)
  | table members => some members
  | _ => none

/-- `value == text` of a value that may be missing. -/
def isText (text : String) : Option TomlValue → Bool
  | some (string value) => value = text
  | _ => false

end TomlValue

/-- The library functions, with all that `toml.loads` returns. -/
structure Toolkit extends Library where
  loads : String → Except Exn (Dict String TomlValue)
  tomlLoads_eq : ∀ text, tomlLoads text = (loads text).map TomlValue.forgetMembers

section Reading

variable (kit : Toolkit) (host : Host) (s : System) (path : Path)

/-- `path.read_text(encoding="utf-8")` -/
def decodedText : Except Exn String := do
  let contents ← host.attempt (.readBytes path) (s.readBytes path)
  let text ← decodeUtf8 contents
  pure (String.ofList (universalNewlines text.toList))

/-- `_read_text` -/
def readText (description : String) : Except Exn String :=
  Fallible.translating (fun exc => exc.isinstance [.osError, .unicodeDecodeError])
    (fun exc => .releaseError s!"unable to read {description} {path.str}: {exc.str}")
    (decodedText host s path)

/-- `toml.load(path)` -/
def tomlLoad : Except Exn (Dict String TomlValue) := do
  let text ← decodedText host s path
  kit.loads text

/-- `toml.load(path)` where what it raises is reported. -/
def loadReported (description : String) : Except Exn (Dict String TomlValue) :=
  Fallible.translating
    (fun exc => exc.isinstance [.osError, .tomlDecodeError, .unicodeDecodeError])
    (fun exc => .releaseError s!"unable to read {description} {path.str}: {exc.str}")
    (tomlLoad kit host s path)

/-- `project_version` -/
def projectVersion : Except Exn String := do
  let data ← loadReported kit host s path "pyproject"
  match data.get? "project" with
  | some (.table project) =>
      match Dict.get? "version" project with
      | some version => pure version.str
      | none => throw (.releaseError "invalid pyproject version schema")
  | _ => throw (.releaseError "invalid pyproject version schema")

/-- `lock_version` -/
def lockVersion : Except Exn String := do
  let data ← loadReported kit host s path "uv.lock"
  let invalid := Exn.releaseError "invalid uv.lock package schema"
  match data.get? "package" with
  | some (.array items) =>
      match items.mapM TomlValue.table? with
      | some packages =>
          match packages.filter fun item => TomlValue.isText "asyncly" (item.get? "name") with
          | [package] =>
              match package.get? "version" with
              | some version => pure version.str
              | none => throw invalid
          | _ => throw (.releaseError "uv.lock must contain exactly one asyncly package")
      | none => throw invalid
  | _ => throw invalid

/-- `validate_release` -/
def validateRelease (version : String) (pyproject lockfile changelog : Path) :
    Except Exn Unit := do
  let _ ← stableVersion kit.intMaxStrDigits version
  let project ← projectVersion kit host s pyproject
  Fallible.refuseIf (project ≠ version)
    (.releaseError "tag does not match pyproject version")
  let locked ← lockVersion kit host s lockfile
  Fallible.refuseIf (locked ≠ version) (.releaseError "tag does not match uv.lock version")
  let text ← readText host s changelog "changelog"
  let _ ← extractReleaseNotes kit.unicode kit.intMaxStrDigits text version

end Reading

/-! ### The commands -/

/-- The arguments of a call, once they are parsed. -/
inductive Command
  | validateNext (version : String) (pyproject : Path)
  | updateLinks (version previous : String) (changelog : Path)
  | validateRelease (version : String) (pyproject lockfile changelog : Path)
  | notes (version : String) (changelog output : Path)
  | artifacts (version : String) (directory output : Path)

namespace Command

variable (kit : Toolkit) (host : Host)

/-- The branches of `main`. -/
def run : Command → FileM Unit
  | validateNext version pyproject => do
      let s ← get
      let previous ← Stateful.ofExcept (projectVersion kit host s pyproject)
      Stateful.ofExcept (validateNextVersion kit.intMaxStrDigits version previous)
  | updateLinks version previous changelog => do
      let s ← get
      let text ← Stateful.ofExcept (readText host s changelog "changelog")
      let updated ← Stateful.ofExcept
        (updateComparisonLinks kit.intMaxStrDigits text previous version)
      writeTextAtomic host changelog updated "changelog"
  | validateRelease version pyproject lockfile changelog => do
      let s ← get
      Stateful.ofExcept
        (Release.validateRelease kit host s version pyproject lockfile changelog)
  | notes version changelog output => do
      let s ← get
      let text ← Stateful.ofExcept (readText host s changelog "changelog")
      let notes ← Stateful.ofExcept
        (extractReleaseNotes kit.unicode kit.intMaxStrDigits text version)
      writeTextAtomic host output notes "release notes"
  | artifacts version directory output =>
      Release.artifacts kit.toLibrary host version directory output

/-- The file a command replaces. -/
def output : Command → Option Path
  | updateLinks _ _ changelog => some changelog
  | notes _ _ output | artifacts _ _ output => some output
  | validateNext _ _ | validateRelease _ _ _ _ => none

/-- The paths among the arguments. -/
def paths : Command → List Path
  | validateNext _ pyproject => [pyproject]
  | updateLinks _ _ changelog => [changelog]
  | validateRelease _ pyproject lockfile changelog => [pyproject, lockfile, changelog]
  | notes _ changelog output => [changelog, output]
  | artifacts _ directory output => [directory, output]

/-- What a command calls its output in a message. -/
def description : Command → String
  | updateLinks _ _ _ => "changelog"
  | notes _ _ _ => "release notes"
  | artifacts _ _ _ => "artifact manifest"
  | validateNext _ _ | validateRelease _ _ _ _ => ""

/-- What a command makes of the files: the text for its output, if it has one. -/
def plan (s : System) : Command → Except Exn (Option String)
  | validateNext version pyproject => do
      let previous ← projectVersion kit host s pyproject
      validateNextVersion kit.intMaxStrDigits version previous
      pure none
  | updateLinks version previous changelog => do
      let text ← readText host s changelog "changelog"
      some <$> updateComparisonLinks kit.intMaxStrDigits text previous version
  | validateRelease version pyproject lockfile changelog => do
      Release.validateRelease kit host s version pyproject lockfile changelog
      pure none
  | notes version changelog _ => do
      let text ← readText host s changelog "changelog"
      some <$> extractReleaseNotes kit.unicode kit.intMaxStrDigits text version
  | artifacts version directory output => do
      let manifest ← checkArtifacts kit.toLibrary host s version directory output
      pure (some (dumps manifest ++ "\n"))

/-- Writing what is planned. -/
def commit (command : Command) : Option String → FileM Unit
  | none => pure ()
  | some text =>
      match command.output with
      | some path => writeTextAtomic host path text command.description
      | none => pure ()

/-- A command plans a text exactly when it has an output. -/
theorem isSome_of_plan {command : Command} {s : System} {text? : Option String}
    (h : command.plan kit host s = .ok text?) : text?.isSome = command.output.isSome := by
  cases command with
  | validateNext version pyproject =>
      obtain ⟨_, -, h⟩ := Fallible.bind_eq_ok.mp h
      obtain ⟨_, -, h⟩ := Fallible.bind_eq_ok.mp h
      exact Except.ok.inj h ▸ rfl
  | updateLinks version previous changelog =>
      obtain ⟨text, -, h⟩ := Fallible.bind_eq_ok.mp h
      obtain ⟨updated, -, h⟩ := Fallible.map_eq_ok.mp h
      exact h ▸ rfl
  | validateRelease version pyproject lockfile changelog =>
      obtain ⟨_, -, h⟩ := Fallible.bind_eq_ok.mp h
      exact Except.ok.inj h ▸ rfl
  | notes version changelog output =>
      obtain ⟨text, -, h⟩ := Fallible.bind_eq_ok.mp h
      obtain ⟨notes, -, h⟩ := Fallible.map_eq_ok.mp h
      exact h ▸ rfl
  | artifacts version directory output =>
      obtain ⟨manifest, -, h⟩ := Fallible.bind_eq_ok.mp h
      exact Except.ok.inj h ▸ rfl

/-- A command plans, and then commits. -/
theorem call_run (command : Command) (s : System) : (command.run kit host).call s =
    match command.plan kit host s with
    | .ok planned => (command.commit host planned).call s
    | .error exc => (.error exc, s) := by
  cases command with
  | validateNext version pyproject =>
      rw [run, plan, Stateful.call_get_bind, Stateful.call_ofExcept_bind]
      cases projectVersion kit host s pyproject with
      | error exc => rfl
      | ok previous =>
          simp only [Fallible.ok_bind, Stateful.call_ofExcept]
          cases validateNextVersion kit.intMaxStrDigits version previous with
          | error exc => rfl
          | ok _ => rfl
  | updateLinks version previous changelog =>
      rw [run, plan, Stateful.call_get_bind, Stateful.call_ofExcept_bind]
      cases readText host s changelog "changelog" with
      | error exc => rfl
      | ok text =>
          simp only [Fallible.ok_bind, Stateful.call_ofExcept_bind]
          cases updateComparisonLinks kit.intMaxStrDigits text previous version with
          | error exc => rfl
          | ok updated => rfl
  | validateRelease version pyproject lockfile changelog =>
      rw [run, plan, Stateful.call_get_bind, Stateful.call_ofExcept]
      cases Release.validateRelease kit host s version pyproject lockfile changelog with
      | error exc => rfl
      | ok _ => rfl
  | notes version changelog output =>
      rw [run, plan, Stateful.call_get_bind, Stateful.call_ofExcept_bind]
      cases readText host s changelog "changelog" with
      | error exc => rfl
      | ok text =>
          simp only [Fallible.ok_bind, Stateful.call_ofExcept_bind]
          cases extractReleaseNotes kit.unicode kit.intMaxStrDigits text version with
          | error exc => rfl
          | ok notes => rfl
  | artifacts version directory output =>
      rw [run, plan, Release.artifacts, Stateful.call_get_bind, Stateful.call_ofExcept_bind]
      cases checkArtifacts kit.toLibrary host s version directory output with
      | error exc => rfl
      | ok manifest => rfl

end Command

/-! ### The error stream -/

section Stderr

variable (host : Host) (path : Path)

/-- The tool writes to the error stream when it reports, and at no other time. -/
abbrev Silent {α : Type} (command : FileM α) : Prop := Stateful.Keeps System.stderr command

theorem silent_perform {α : Type} (op : FileOp) {operation : System → Except Exn α × System}
    (kept : ∀ s, (operation s).2.stderr = s.stderr) : Silent (host.perform op operation) := by
  intro s
  rcases perform_call host s op operation with ⟨text, failed⟩ | done
  · rw [failed]
  · rw [done, kept]

theorem silent_destinationMode : Silent (destinationMode host path) := by
  refine .tryCatch (.bind (silent_perform host .stat fun s => ?_) fun mode => .pure _) fun exc => ?_
  · split <;> rfl
  · exact .ite (.pure _) (.throw exc)

theorem silent_namedTemporaryFile : Silent (namedTemporaryFile host path) := by
  refine silent_perform host .createTemporary fun s => ?_
  split
  · split <;> rfl
  · rfl

theorem silent_moveIntoPlace (temporary : Path) (mode : Option Nat) (text : String) :
    Silent (moveIntoPlace host path temporary mode text) := by
  have replaced : Silent (replace host path temporary) := by
    refine silent_perform host .replace fun s => ?_
    split <;> rfl
  refine .bind (silent_perform host .write fun _ => rfl) fun _ => ?_
  cases mode with
  | none => exact replaced
  | some mode =>
      refine .bind (silent_perform host .chmod fun s => ?_) fun _ => replaced
      split <;> rfl

theorem silent_cleanUp (temporary : Path) : Silent (cleanUp host temporary) :=
  .tryCatch (silent_perform host .unlink fun _ => rfl) fun exc => .ite (.pure _) (.throw exc)

theorem silent_writeTextAtomic (text description : String) :
    Silent (writeTextAtomic host path text description) := by
  refine .tryCatch (.bind (silent_perform host .replacesSymlink fun _ => rfl) fun symlink => ?_)
    fun exc => .ite (.throw _) (.throw exc)
  refine .ite (.throw _) (.bind (silent_destinationMode host path) fun mode => ?_)
  refine .bind (silent_namedTemporaryFile host path) fun temporary => ?_
  exact .tryCatch (silent_moveIntoPlace host path temporary mode text) fun exc =>
    .bind (silent_cleanUp host temporary) fun _ => .throw exc

end Stderr

/-- A command says nothing itself. -/
theorem Command.silent_run (kit : Toolkit) (host : Host) (command : Command) :
    Silent (command.run kit host) := by
  intro s
  rw [command.call_run kit host s]
  cases command.plan kit host s with
  | error exc => rfl
  | ok planned =>
      dsimp only
      rw [Command.commit.eq_def]
      split
      · rfl
      · split
        · exact silent_writeTextAtomic host _ _ _ s
        · rfl

/-! ### Calls of the tool -/

/-- The report of a refusal. -/
def failureLine (exc : Exn) : String := s!"release validation failed: {exc.str}\n"

/-- The exit code of one call that has parsed its arguments, and what it leaves. -/
def callMain (kit : Toolkit) (host : Host) (command : Command) (s : System) :
    Except Exn Int × System := (main (command.run kit host)).call s

/-- How a call ends: the checks pass and there is nothing to write; the output is replaced by
what was planned; the plan is refused and reported, the files are as they were; the output
could not be replaced, which is reported as well; or an exception gets out of the plan. -/
inductive Ends (kit : Toolkit) (host : Host) (command : Command) (s : System) :
    Except Exn Int × System → Prop
  | checked (planned : command.plan kit host s = .ok none) : Ends kit host command s (.ok 0, s)
  | written (path : Path) (text : String) (t : System) (output : command.output = some path)
      (planned : command.plan kit host s = .ok (some text))
      (replaced : Replaced path text (s.mode? path) s t) (silent : t.stderr = s.stderr) :
      Ends kit host command s (.ok 0, t)
  | refused (exc : Exn) (planned : command.plan kit host s = .error exc)
      (reported : Reported exc) :
      Ends kit host command s (.ok 1, { s with stderr := s.stderr ++ failureLine exc })
  | abandoned (path : Path) (text : String) (exc : Exn) (t : System)
      (output : command.output = some path)
      (planned : command.plan kit host s = .ok (some text)) (left : Abandoned host path s t)
      (silent : t.stderr = s.stderr) :
      Ends kit host command s (.ok 1, { t with stderr := s.stderr ++ failureLine exc })
  | escaped (exc : Exn) (planned : command.plan kit host s = .error exc)
      (free : ¬ Reported exc) : Ends kit host command s (.error exc, s)

theorem call_main_reporting {command : FileM Unit} {s t : System} {exc : Exn}
    (h : command.call s = (.error exc, t)) (reported : Reported exc) :
    (main command).call s = (.ok 1, { t with stderr := t.stderr ++ failureLine exc }) := by
  rw [main, Stateful.call_tryCatch, Stateful.call_bind_of_error h]
  dsimp only
  rw [if_pos reported]
  rfl

section Calls

variable {kit : Toolkit} {host : Host} {command : Command} {s : System}

theorem callMain_ends (kit : Toolkit) (host : Host) (command : Command) (s : System) :
    Ends kit host command s (callMain kit host command s) := by
  have ran := command.call_run kit host s
  rw [callMain]
  cases planned : command.plan kit host s with
  | error exc =>
      rw [planned] at ran
      by_cases reported : Reported exc
      · rw [call_main_reporting ran reported]
        exact .refused exc planned reported
      · rw [call_main_of_free ran reported]
        exact .escaped exc planned reported
  | ok text? =>
      rw [planned] at ran
      cases text? with
      | none =>
          rw [call_main_of_ok ran]
          exact .checked planned
      | some text =>
          obtain ⟨path, output⟩ := Option.isSome_iff_exists.mp
            (command.isSome_of_plan kit host planned).symm
          have commits : command.commit host (some text) =
              writeTextAtomic host path text command.description := by
            rw [Command.commit, output]
          have silent := silent_writeTextAtomic host path text command.description s
          dsimp only at ran
          rw [commits] at ran
          rcases writeTextAtomic_call host path s text command.description with
            ⟨exc, t, failed, reported, left⟩ | ⟨t, done, replaced⟩
          · rw [failed] at ran silent
            rw [call_main_reporting ran reported, silent]
            exact .abandoned path text exc t output planned left silent
          · rw [done] at ran silent
            rw [call_main_of_ok ran]
            exact .written path text t output planned replaced silent

namespace Ends

variable {exit : Except Exn Int} {t : System} {path : Path}

/-- A call leaves the directories where they are. -/
theorem directories_eq (h : Ends kit host command s (exit, t)) :
    t.directories = s.directories := by
  cases h with
  | checked planned => rfl
  | written path text t output planned replaced silent => exact replaced.others.directories
  | refused exc planned reported => rfl
  | abandoned path text exc u output planned left silent => exact left.directories
  | escaped exc planned free => rfl

/-- A call that does not replace what a path names leaves it, but for the temporary file. -/
theorem lookup_eq (h : Ends kit host command s (exit, t))
    (safe : s.lookup path ≠ none ∨ host.fails .unlink = none)
    (kept : exit = .ok 0 → ∀ output, command.output = some output → ¬ s.SameEntry output path) :
    t.lookup path = s.lookup path := by
  cases h with
  | checked planned => rfl
  | written other text t output planned replaced silent =>
      exact replaced.others.others path fun same => kept rfl other output same.symm
  | refused exc planned reported => rfl
  | abandoned other text exc u output planned left silent =>
      rcases safe with there | works
      · exact left.kept path (.inl there)
      · exact left.cleaned works path
  | escaped exc planned free => rfl

/-- A call that returns 0 has written what it planned. -/
theorem lookup_output (h : Ends kit host command s (.ok 0, t))
    (output : command.output = some path) :
    ∃ text mode, command.plan kit host s = .ok (some text) ∧
      t.lookup path = some (.file (encodeUtf8 text) mode) := by
  cases h with
  | checked planned =>
      have none := command.isSome_of_plan kit host planned
      rw [output] at none
      cases none
  | written other text t output' planned replaced silent =>
      obtain rfl := Option.some.inj (output'.symm.trans output)
      exact ⟨text, _, planned, replaced.output⟩

end Ends

end Calls

/-! ### One call after another -/

/-- A call of the tool, and the operating system it meets. No argument of a program has a NUL
in it. -/
structure Call where
  host : Host
  command : Command
  noNul : ∀ path ∈ command.paths, Char.ofNat 0 ∉ path.str.toList

namespace Call

variable (kit : Toolkit)

/-- The exit code of the call, and what it leaves. -/
def main (call : Call) (s : System) : Except Exn Int × System :=
  callMain kit call.host call.command s

/-- The files after some calls. -/
def afterAll (s : System) (calls : List Call) : System :=
  Runs.run (fun s call => (call.main kit s).2) s calls

/-- How some calls end. -/
def exits : System → List Call → List (Except Exn Int)
  | _, [] => []
  | s, call :: rest => (call.main kit s).1 :: exits (call.main kit s).2 rest

/-- The refusal the command of a call ends with. -/
def report (call : Call) (s : System) : Option Exn :=
  match (call.command.run kit call.host).call s with
  | (.error exc, _) => if Reported exc then some exc else none
  | (.ok _, _) => none

/-- The refusals of some calls, in order. -/
def reports : System → List Call → List Exn
  | _, [] => []
  | s, call :: rest => (call.report kit s).toList ++ reports (call.main kit s).2 rest

/-- The call returns 0, and its output is what this path names. -/
def Replaces (call : Call) (s : System) (path : Path) : Prop :=
  (call.main kit s).1 = .ok 0 ∧ ∃ output, call.command.output = some output ∧
    s.SameEntry output path

/-- A path holds what the last call that has replaced it had planned; when there is none, it
holds what it held. -/
inductive HoldsLast (s : System) (calls : List Call) (path : Path) : Prop
  | untouched
      (none : ∀ earlier call later, calls = earlier ++ call :: later →
        ¬ call.Replaces kit (afterAll kit s earlier) path)
      (same : (afterAll kit s calls).lookup path = s.lookup path)
  | replaced (earlier : List Call) (call : Call) (later : List Call) (text : String) (mode : Nat)
      (split : calls = earlier ++ call :: later)
      (replaces : call.Replaces kit (afterAll kit s earlier) path)
      (planned : call.command.plan kit call.host (afterAll kit s earlier) = .ok (some text))
      (holds : (afterAll kit s calls).lookup path = some (.file (encodeUtf8 text) mode))
      (last : ∀ between next rest, later = between ++ next :: rest →
        ¬ next.Replaces kit (afterAll kit s (earlier ++ call :: between)) path)

variable {kit}

theorem afterAll_concat (s : System) (calls : List Call) (call : Call) :
    afterAll kit s (calls ++ [call]) = (call.main kit (afterAll kit s calls)).2 := by
  rw [afterAll, Runs.run_append]
  rfl

theorem main_ends (kit : Toolkit) (call : Call) (s : System) :
    Ends kit call.host call.command s ((call.main kit s).1, (call.main kit s).2) :=
  callMain_ends kit call.host call.command s

/-- Where a list with one more element is split: at that element, or before it. -/
theorem split_concat {α : Type} {items : List α} {last a : α} {earlier later : List α}
    (split : items ++ [last] = earlier ++ a :: later) :
    (later = [] ∧ a = last ∧ earlier = items) ∨
      ∃ rest, later = rest ++ [last] ∧ items = earlier ++ a :: rest := by
  rcases List.eq_nil_or_concat later with rfl | ⟨rest, b, rfl⟩
  · obtain ⟨same, here⟩ := List.append_inj' split rfl
    exact .inl ⟨rfl, (List.cons.inj here).1.symm, same.symm⟩
  · rw [List.concat_eq_append, ← List.cons_append, ← List.append_assoc] at split
    obtain ⟨same, here⟩ := List.append_inj' split rfl
    refine .inr ⟨rest, ?_, same⟩
    rw [List.concat_eq_append, here]

/-- A call that returns 0 has written its output, under every path that names it. -/
theorem lookup_of_replaces {call : Call} {s : System} {path : Path}
    (replaces : call.Replaces kit s path) :
    ∃ text mode, call.command.plan kit call.host s = .ok (some text) ∧
      (call.main kit s).2.lookup path = some (.file (encodeUtf8 text) mode) := by
  obtain ⟨returned, output, given, same⟩ := replaces
  have ends := call.main_ends kit s
  rw [returned] at ends
  obtain ⟨text, mode, planned, holds⟩ := ends.lookup_output given
  refine ⟨text, mode, planned, ?_⟩
  rw [← holds, System.lookup_congr]
  rw [System.SameEntry, ends.directories_eq]
  exact same.symm

/-- One more call. -/
theorem HoldsLast.concat {s : System} {calls : List Call} {path : Path} {call : Call}
    (h : HoldsLast kit s calls path)
    (safe : s.lookup path ≠ none ∨ call.host.fails .unlink = none) :
    HoldsLast kit s (calls ++ [call]) path := by
  by_cases replaces : call.Replaces kit (afterAll kit s calls) path
  · obtain ⟨text, mode, planned, holds⟩ := lookup_of_replaces replaces
    refine .replaced calls call [] text mode rfl replaces planned ?_ ?_
    · rw [afterAll_concat]
      exact holds
    · intro between next rest split
      simp at split
  · -- what the path holds stays, so that the last call to replace it is the same one
    have kept (there : s.lookup path ≠ none → (afterAll kit s calls).lookup path ≠ none) :
        (afterAll kit s (calls ++ [call])).lookup path = (afterAll kit s calls).lookup path := by
      rw [afterAll_concat]
      exact (call.main_ends kit _).lookup_eq (safe.imp_left there) fun returned output given same =>
        replaces ⟨returned, output, given, same⟩
    cases h with
    | untouched none same =>
        refine .untouched (fun earlier next later split => ?_) ?_
        · rcases split_concat split with ⟨-, rfl, rfl⟩ | ⟨rest, -, before⟩
          · exact replaces
          · exact none earlier next rest before
        · rw [kept (by rw [same]; exact id), same]
    | replaced earlier writer later text mode split wrote planned holds last =>
        refine .replaced earlier writer (later ++ [call]) text mode ?_ wrote planned ?_ ?_
        · rw [split, List.append_assoc, List.cons_append]
        · rw [kept (by simp [holds]), holds]
        · intro between next rest parted
          rcases split_concat parted with ⟨-, rfl, rfl⟩ | ⟨rest, -, before⟩
          · rw [← split]
            exact replaces
          · exact last between next rest before

/-- The call has reported a failure. -/
def failed : Except Exn Int → Bool
  | .ok code => code = 1
  | .error _ => false

/-- A call returns 1 when it has a refusal to report, and adds the report to the error
stream. -/
theorem report_cases (kit : Toolkit) (call : Call) (s : System) :
    (∃ exc, call.report kit s = some exc ∧ (call.main kit s).1 = .ok 1 ∧
      (call.main kit s).2.stderr = s.stderr ++ failureLine exc) ∨
    (call.report kit s = none ∧ failed (call.main kit s).1 = false ∧
      (call.main kit s).2.stderr = s.stderr) := by
  have silent := Command.silent_run kit call.host call.command s
  rw [report, main, callMain]
  cases ran : (call.command.run kit call.host).call s with
  | mk outcome t =>
      rw [ran] at silent
      cases outcome with
      | ok done =>
          rw [call_main_of_ok ran]
          exact .inr ⟨rfl, rfl, silent⟩
      | error exc =>
          by_cases reported : Reported exc
          · rw [call_main_reporting ran reported]
            refine .inl ⟨exc, if_pos reported, rfl, ?_⟩
            exact congrArg (· ++ failureLine exc) silent
          · rw [call_main_of_free ran reported]
            exact .inr ⟨if_neg reported, rfl, silent⟩

/-- Each call that returns 1 adds its report to the error stream. -/
theorem stderr_afterAll (s : System) (calls : List Call) :
    (reports kit s calls).length = (exits kit s calls).countP failed ∧
      (afterAll kit s calls).stderr =
        s.stderr ++ String.join ((reports kit s calls).map failureLine) := by
  induction calls generalizing s with
  | nil => exact ⟨rfl, by simp [afterAll, Runs.run, reports]⟩
  | cons call rest ih =>
      obtain ⟨count, stream⟩ := ih (call.main kit s).2
      change (afterAll kit s (call :: rest)).stderr = _ at stream
      rw [exits, List.countP_cons, reports, List.length_append, count]
      rcases call.report_cases kit s with ⟨exc, report, one, line⟩ | ⟨report, other, silent⟩
      · rw [report, one, stream, line]
        refine ⟨Nat.add_comm _ _, ?_⟩
        rw [Option.toList_some, List.singleton_append, List.map_cons, String.join_cons,
          String.append_assoc]
      · rw [report, other, stream, silent]
        exact ⟨Nat.zero_add _, rfl⟩

/-- Whatever is called, in whichever order, and whichever file operations fail: what each path
names is what the last call that returned 0 with it as its output had planned, or what it was
at first; and the error stream has the report of each call that returned 1, in order. -/
theorem afterAll_accountable (s : System) (calls : List Call) :
    (∀ path, s.lookup path ≠ none ∨ (∀ call ∈ calls, call.host.fails .unlink = none) →
      HoldsLast kit s calls path) ∧
    (reports kit s calls).length = (exits kit s calls).countP failed ∧
      (afterAll kit s calls).stderr =
        s.stderr ++ String.join ((reports kit s calls).map failureLine) := by
  refine ⟨fun path safe => ?_, stderr_afterAll s calls⟩
  induction calls using List.reverseRecOn with
  | nil => exact .untouched (by simp) rfl
  | append_singleton calls call ih =>
      have each (other : Call) (member : other ∈ calls ++ [call]) :
          s.lookup path ≠ none ∨ other.host.fails .unlink = none :=
        safe.imp_right fun works => works other member
      refine (ih ?_).concat (each call (by simp))
      exact safe.imp_right fun works other member => works other (by simp [member])

end Call

namespace Sample

/-- Libraries for which every TOML document is that of a version. -/
def kit : Toolkit where
  toLibrary := accepting publicFiles
  loads _ := .ok [("project", .table [("name", .string "asyncly"),
    ("version", .string "0.10.0"), ("requires-python", .string "<4,>=3.10")])]
  tomlLoads_eq _ := rfl

def artifactsCall : Call where
  host := host
  command := .artifacts "0.10.0" directory output
  noNul := by decide

end Sample

/-- A call that returns 0 has replaced the manifest. -/
example :
    (Sample.artifactsCall.main Sample.kit Sample.system).1 = .ok 0 ∧
      (Sample.artifactsCall.main Sample.kit Sample.system).2.lookup Sample.output =
        some (.file (encodeUtf8 (dumps Sample.manifest ++ "\n")) 0o644) := by
  obtain ⟨t, ran, written⟩ := Sample.artifacts_written
  have returned : Sample.artifactsCall.main Sample.kit Sample.system = (.ok 0, t) :=
    call_main_of_ok ran
  rw [returned]
  exact ⟨rfl, written⟩

end Asyncly.Release
