import Asyncly.Tools.Sdist
import Asyncly.Tools.Wheel

/-!
# The artifacts command

The command checks where its output goes, verifies the two archives, looks through the
directory they are in, and only then writes the manifest. It is a gate: it lets a release
through whole, or leaves the manifest that was there.
-/

namespace Asyncly.Release

/-! ### The manifest as text -/

/-- One character of a JSON text, outside ASCII by its UTF-16 code units. -/
def jsonChar (c : Char) : String :=
  let hex (unit : Nat) : String := "\\u" ++ String.ofList
    [Nat.digitChar (unit / 4096), Nat.digitChar (unit / 256 % 16),
      Nat.digitChar (unit / 16 % 16), Nat.digitChar (unit % 16)]
  match c.toNat with
  | 34 => "\\\""
  | 92 => "\\\\"
  | 8 => "\\b"
  | 9 => "\\t"
  | 10 => "\\n"
  | 12 => "\\f"
  | 13 => "\\r"
  | code =>
      if 32 ≤ code ∧ code < 127 then c.toString
      else if code < 0x10000 then hex code
      else hex (0xD800 + (code - 0x10000) / 1024) ++ hex (0xDC00 + (code - 0x10000) % 1024)

def jsonString (text : String) : String :=
  "\"" ++ String.join (text.toList.map jsonChar) ++ "\""

/-- An object inside a list, its keys sorted. -/
def jsonObject (members : Dict String String) : String :=
  match members.mergeSort fun p q => p.1 ≤ q.1 with
  | [] => "\x7b\x7d"
  | members => "\x7b\n" ++ ",\n".intercalate (members.map fun p =>
      "    " ++ jsonString p.1 ++ ": " ++ jsonString p.2) ++ "\n  \x7d"

/-- `json.dumps(items, indent=2, sort_keys=True)` -/
def dumps (items : List (Dict String String)) : String :=
  match items with
  | [] => "[]"
  | items => "[\n" ++ ",\n".intercalate (items.map fun o => "  " ++ jsonObject o) ++ "\n]"

section Command

variable (lib : Library) (host : Host)

/-- The distributions of a version. -/
def distributions (version : String) : List String := [wheelName version, sdistName version]

/-- What may be in the directory. -/
def allowedEntries (version : String) : List String :=
  distributions version ++ [".gitignore", "SHA256SUMS.json"]

/-- The digest of one distribution, which must be a regular file. -/
def manifestEntry (s : System) (directory : Path) (name : String) :
    Except Exn (Dict String String) := do
  let path := directory.child name
  let (isSymlink, pathExists, isFile) ← Fallible.translating (fun exc => exc.isinstance [.osError])
    (fun exc => .releaseError s!"unable to inspect distribution {path.str}: {exc.str}") do
      let isSymlink ← host.attempt (.isSymlink path) (.ok (s.isSymlink path))
      let pathExists ← host.attempt (.pathExists path) (.ok (s.pathExists path))
      let isFile ← host.attempt (.isFile path) (.ok (s.isFile path))
      pure (isSymlink, pathExists, isFile)
  Fallible.refuseIf (isSymlink = true)
    (.releaseError s!"distribution must be a non-symlink regular file: {name}")
  Fallible.refuseIf (pathExists = false) (.releaseError s!"missing distribution: {name}")
  Fallible.refuseIf (isFile = false)
    (.releaseError s!"distribution must be a regular file: {name}")
  let contents ← Fallible.translating (fun exc => exc.isinstance [.osError])
    (fun exc => .releaseError s!"unable to hash distribution {path.str}: {exc.str}")
    (host.attempt (.readBytes path) (s.readBytes path))
  pure [("filename", name), ("sha256", lib.sha256 contents)]

/-- `artifact_manifest` -/
def artifactManifest (s : System) (directory : Path) (version : String) :
    Except Exn (List (Dict String String)) := do
  let _ ← stableVersion lib.intMaxStrDigits version
  let names ← Fallible.translating (fun exc => exc.isinstance [.osError])
    (fun exc => .releaseError
      s!"unable to inspect distribution directory {directory.str}: {exc.str}")
    (host.attempt .iterdir (s.iterdir directory))
  let unexpected := sorted (names.filter fun name => name ∉ allowedEntries version)
  Fallible.refuseIf (unexpected ≠ [])
    (.releaseError s!"unexpected distribution entries: {quotedList unexpected}")
  (distributions version).mapM fun name => manifestEntry lib host s directory name

/-- `_validate_artifact_output` -/
def validateArtifactOutput (s : System) (directory output : Path) : Except Exn Unit := do
  let (expectedParent, actualParent, isSymlink) ← Fallible.translating
    (fun exc => exc.isinstance [.osError])
    (fun exc => .releaseError s!"unable to resolve artifact output: {exc.str}") do
      let expectedParent ← host.resolve directory
      let actualParent ← host.resolve output.parent
      let isSymlink ← host.attempt .outputIsSymlink (.ok (s.isSymlink output))
      pure (expectedParent, actualParent, isSymlink)
  let expected := expectedParent.child "SHA256SUMS.json"
  Fallible.refuseIf (output.name ≠ "SHA256SUMS.json" ∨ actualParent ≠ expectedParent)
    (.releaseError s!"artifact output must be {expected.str}")
  Fallible.refuseIf (isSymlink = true)
    (.releaseError s!"refusing to replace symlink output {output.str}")

/-- What the command does before it writes. -/
def checkArtifacts (s : System) (version : String) (directory output : Path) :
    Except Exn (List (Dict String String)) := do
  validateArtifactOutput host s directory output
  verifyWheel lib host s directory version
  verifySdist lib host s directory version
  artifactManifest lib host s directory version

/-- The branch of `main` for the command `artifacts`. -/
def artifacts (version : String) (directory output : Path) : FileM Unit := do
  let s ← get
  let manifest ← Stateful.ofExcept (checkArtifacts lib host s version directory output)
  writeTextAtomic host output (dumps manifest ++ "\n") "artifact manifest"

end Command

/-- `main`, of a command whose arguments have been parsed. -/
def main (command : FileM Unit) : FileM Int :=
  tryCatch (do
    command
    pure 0)
    fun exc =>
      if exc.isinstance [.releaseError] then do
        modify fun s => { s with stderr := s.stderr ++ s!"release validation failed: {exc.str}\n" }
        pure 1
      else throw exc

/-! ### What the checks let through -/

section Spec

variable {lib : Library} {host : Host} {s : System} {version : String} {directory output : Path}

/-- A regular file that is no symbolic link. -/
theorem System.lookup_of_readBytes {path : Path} {contents : Bytes}
    (noSymlink : s.isSymlink path = false) (read : s.readBytes path = .ok contents) :
    ∃ mode, s.lookup path = some (.file contents mode) := by
  have here : s.follow path = s.lookup path := by
    rw [System.isSymlink] at noSymlink
    rw [System.follow.eq_def]
    split at noSymlink
    · cases noSymlink
    · rfl
  rw [System.readBytes, here] at read
  split at read
  · rename_i file mode found
    exact ⟨mode, found.trans (congrArg (fun c => some (Node.file c mode)) (Except.ok.inj read))⟩
  · cases read
  · cases read

theorem manifestEntry_ok {name : String} {entry : Dict String String}
    (h : manifestEntry lib host s directory name = .ok entry) :
    ∃ contents mode, s.lookup (directory.child name) = some (.file contents mode) ∧
      entry = [("filename", name), ("sha256", lib.sha256 contents)] := by
  rw [manifestEntry] at h
  simp only [Fallible.bind_eq_ok, Fallible.translating_eq_ok, Fallible.refuseIf_eq_ok] at h
  obtain ⟨facts, ⟨isSymlink, link, _, -, _, -, same⟩, _, noSymlink, _, -, _, -, contents, read,
    hashed⟩ := h
  obtain rfl := Except.ok.inj same
  have linkless : s.isSymlink (directory.child name) = false := by
    rw [Except.ok.inj (Host.attempt_eq_ok link)]
    simpa using noSymlink
  obtain ⟨mode, found⟩ := System.lookup_of_readBytes linkless (Host.attempt_eq_ok read)
  exact ⟨contents, mode, found, (Except.ok.inj hashed).symm⟩

/-- The check of the directory finds nothing else in it, and takes the digests of the two
distributions. -/
theorem artifactManifest_ok {manifest : List (Dict String String)}
    (h : artifactManifest lib host s directory version = .ok manifest) :
    (∃ names, s.iterdir directory = .ok names ∧ ∀ name ∈ names, name ∈ allowedEntries version) ∧
    ∃ wheel sdist wheelMode sdistMode,
      s.lookup (directory.child (wheelName version)) = some (.file wheel wheelMode) ∧
      s.lookup (directory.child (sdistName version)) = some (.file sdist sdistMode) ∧
      manifest = [[("filename", wheelName version), ("sha256", lib.sha256 wheel)],
        [("filename", sdistName version), ("sha256", lib.sha256 sdist)]] := by
  rw [artifactManifest] at h
  simp only [Fallible.bind_eq_ok, Fallible.translating_eq_ok, Fallible.refuseIf_eq_ok,
    distributions, List.mapM_cons, List.mapM_nil] at h
  obtain ⟨_, -, names, listed, _, expected, first, wheelEntry, rest,
    ⟨second, sdistEntry, none, nil, cons⟩, all⟩ := h
  rw [not_not, sorted_eq_nil, List.filter_eq_nil_iff] at expected
  obtain ⟨wheel, wheelMode, wheelFound, rfl⟩ := manifestEntry_ok wheelEntry
  obtain ⟨sdist, sdistMode, sdistFound, rfl⟩ := manifestEntry_ok sdistEntry
  refine ⟨⟨names, Host.attempt_eq_ok listed, fun name member => ?_⟩,
    wheel, sdist, wheelMode, sdistMode, wheelFound, sdistFound, ?_⟩
  · simpa using expected name member
  · rw [← Except.ok.inj all, ← Except.ok.inj cons, ← Except.ok.inj nil]

/-! ### What gets out of the checks -/

/-- What the `except` clauses around single file operations deal with. -/
abbrev OsHandled (exc : Exn) : Prop := exc.isinstance [.osError] = true

theorem not_escapes_attempt {α : Type} {op : FileOp} {outcome : Except Exn α}
    (quiet : ∀ exc, outcome = .error exc → OsHandled exc) :
    ¬ Fallible.Escapes OsHandled (host.attempt op outcome) :=
  fun ⟨_, failed, free⟩ => free (Host.attempt_error quiet failed)

theorem not_escapes_attempt_ok {α : Type} {op : FileOp} (value : α) :
    ¬ Fallible.Escapes OsHandled (host.attempt op (.ok value)) :=
  not_escapes_attempt fun _ h => by cases h

theorem not_escapes_translating_os {α : Type} {m : Except Exn α} (message : Exn → String)
    (quiet : ¬ Fallible.Escapes OsHandled m) :
    ¬ Fallible.Escapes Reported (Fallible.translating (fun exc => exc.isinstance [.osError])
      (fun exc => .releaseError (message exc)) m) := by
  rw [Fallible.escapes_translating fun exc _ => reported_releaseError _]
  rintro ⟨exc, failed, free⟩
  exact quiet ⟨exc, failed, fun os => free (.inl os)⟩

theorem not_escapes_manifestEntry (name : String) :
    ¬ Fallible.Escapes Reported (manifestEntry lib host s directory name) := by
  rw [manifestEntry]
  refine Fallible.not_escapes_bind (not_escapes_translating_os _ ?_) fun facts => ?_
  · apply Fallible.not_escapes_bind (not_escapes_attempt_ok _)
    intro _
    apply Fallible.not_escapes_bind (not_escapes_attempt_ok _)
    intro _
    apply Fallible.not_escapes_bind (not_escapes_attempt_ok _)
    intro _
    exact Fallible.not_escapes_pure _
  · rw [Fallible.escapes_refuseIf_bind (reported_releaseError _),
      Fallible.escapes_refuseIf_bind (reported_releaseError _),
      Fallible.escapes_refuseIf_bind (reported_releaseError _)]
    rintro ⟨-, -, -, later⟩
    revert later
    refine Fallible.not_escapes_bind (not_escapes_translating_os _ ?_) fun _ =>
      Fallible.not_escapes_pure _
    exact not_escapes_attempt fun _ => System.readBytes_error

theorem not_escapes_artifactManifest (stable : Stable lib.intMaxStrDigits version) :
    ¬ Fallible.Escapes Reported (artifactManifest lib host s directory version) := by
  rw [artifactManifest]
  apply Fallible.not_escapes_bind (not_escapes_stableVersion stable)
  intro _
  refine Fallible.not_escapes_bind (not_escapes_translating_os _ ?_) fun names => ?_
  · exact not_escapes_attempt fun _ => System.iterdir_error
  · rw [Fallible.escapes_refuseIf_bind (reported_releaseError _)]
    rintro ⟨-, later⟩
    revert later
    simp only [distributions, List.mapM_cons, List.mapM_nil]
    apply Fallible.not_escapes_bind (not_escapes_manifestEntry _)
    intro _
    refine Fallible.not_escapes_bind ?_ fun _ => Fallible.not_escapes_pure _
    apply Fallible.not_escapes_bind (not_escapes_manifestEntry _)
    intro _
    exact Fallible.not_escapes_pure _

/-- The output is the manifest of the directory, and no symbolic link. -/
structure OutputAccepted (host : Host) (s : System) (directory output : Path) : Prop where
  name : output.name = "SHA256SUMS.json"
  parent : ∃ parent, host.resolve directory = .ok parent ∧ host.resolve output.parent = .ok parent
  noSymlink : host.attempt .outputIsSymlink (.ok (s.isSymlink output)) = .ok false

/-- What resolving the directory and the parent of the output raises. -/
inductive ResolveRaises (host : Host) (directory output : Path) : Exn → Prop
  | directory (exc : Exn) (raised : host.resolve directory = .error exc) :
      ResolveRaises host directory output exc
  | parent (expected : Path) (exc : Exn) (resolved : host.resolve directory = .ok expected)
      (raised : host.resolve output.parent = .error exc) : ResolveRaises host directory output exc

theorem validateArtifactOutput_eq_ok {u : Unit} :
    validateArtifactOutput host s directory output = .ok u ↔
      OutputAccepted host s directory output := by
  rw [validateArtifactOutput]
  simp only [Fallible.bind_eq_ok, Fallible.translating_eq_ok, Fallible.refuseIf_eq_ok]
  constructor
  · rintro ⟨facts, ⟨expected, resolved, actual, parentResolved, link, tested, same⟩, _, right,
      noLink⟩
    obtain rfl := Except.ok.inj same
    rw [not_or, not_not, not_not] at right
    obtain ⟨name, together⟩ := right
    obtain rfl : actual = expected := together
    obtain rfl : link = false := by simpa using noLink
    exact ⟨name, ⟨actual, resolved, parentResolved⟩, tested⟩
  · rintro ⟨name, ⟨parent, resolved, parentResolved⟩, noSymlink⟩
    refine ⟨(parent, parent, false), ⟨parent, resolved, parent, parentResolved, false, noSymlink,
      rfl⟩, (), ?_, Bool.false_ne_true⟩
    rw [not_or, not_not, not_not]
    exact ⟨name, rfl⟩

/-- Only resolving gets past the check of the output. -/
theorem escapes_validateArtifactOutput_iff :
    Fallible.Escapes Reported (validateArtifactOutput host s directory output) ↔
      ∃ exc, ResolveRaises host directory output exc ∧ ¬ (OsHandled exc ∨ Reported exc) := by
  rw [validateArtifactOutput, Fallible.escapes_bind_quiet,
    Fallible.escapes_translating fun exc _ => reported_releaseError _, Fallible.escapes_bind]
  · constructor
    · rintro (⟨exc, raised, free⟩ | ⟨expected, resolved, later⟩)
      · exact ⟨exc, .directory exc raised, free⟩
      · rw [Fallible.escapes_bind_quiet] at later
        · obtain ⟨exc, raised, free⟩ := later
          exact ⟨exc, .parent expected exc resolved raised, free⟩
        · intro actual
          refine Fallible.not_escapes_bind ?_ fun _ => Fallible.not_escapes_pure _
          exact fun escapes => not_escapes_attempt_ok _ (escapes.mono fun _ => .inl)
    · rintro ⟨exc, raises, free⟩
      cases raises with
      | directory _ raised => exact .inl ⟨exc, raised, free⟩
      | parent expected _ resolved raised =>
          refine .inr ⟨expected, resolved, ?_⟩
          rw [Fallible.escapes_bind]
          exact .inl ⟨exc, raised, free⟩
  · intro facts
    rw [Fallible.escapes_refuseIf_bind (reported_releaseError _)]
    rintro ⟨-, later⟩
    exact Fallible.not_escapes_refuseIf (reported_releaseError _) later

/-- No exception gets past the command: the output resolves or fails to with an `OSError`;
a version that is matched is within the limit on digits; whatever the libraries raise where the
wheel is opened, tested, read or parsed is a `BadZipFile` or an `OSError`; and what the parsers
raise on the texts of an sdist is caught around it. -/
structure Contained (lib : Library) (host : Host) (s : System) (version : String)
    (directory output : Path) : Prop where
  resolve : ∀ exc, ResolveRaises host directory output exc → OsHandled exc ∨ Reported exc
  digits : OutputAccepted host s directory output → ∀ groups,
    versionGroups version = some groups → WithinDigits lib.intMaxStrDigits groups
  wheel : OutputAccepted host s directory output → Stable lib.intMaxStrDigits version →
    ∀ exc, WheelRaises lib version (openWheel lib host s directory version) exc →
      exc.isinstance wheelFamilies = true ∨ Reported exc
  sdist : OutputAccepted host s directory output →
    verifyWheel lib host s directory version = .ok () →
    ∀ archive, SdistOpens lib host s directory version archive →
      ∀ exc, SdistRaises lib version archive exc → SdistHandled exc

theorem escapes_checkArtifacts_iff (documented : lib.Documented) :
    Fallible.Escapes Reported (checkArtifacts lib host s version directory output) ↔
      Fallible.Escapes Reported (validateArtifactOutput host s directory output) ∨
      (OutputAccepted host s directory output ∧
        (Fallible.Escapes Reported (verifyWheel lib host s directory version) ∨
          verifyWheel lib host s directory version = .ok () ∧
            ∃ archive, SdistOpens lib host s directory version archive ∧
              ∃ exc, SdistRaises lib version archive exc ∧ ¬ SdistHandled exc)) := by
  rw [checkArtifacts, Fallible.escapes_bind]
  apply or_congr_right
  have verified (accepted : verifyWheel lib host s directory version = .ok ()) :
      Fallible.Escapes Reported (do
          verifySdist lib host s directory version
          artifactManifest lib host s directory version) ↔
        ∃ archive, SdistOpens lib host s directory version archive ∧
          ∃ exc, SdistRaises lib version archive exc ∧ ¬ SdistHandled exc := by
    have stable := stable_of_verifyWheel accepted
    rw [Fallible.escapes_bind_quiet fun _ => not_escapes_artifactManifest stable,
      escapes_verifySdist_iff documented stable]
  constructor
  · rintro ⟨u, accepted, later⟩
    rw [Fallible.escapes_bind] at later
    refine ⟨validateArtifactOutput_eq_ok.mp accepted, later.imp_right ?_⟩
    rintro ⟨⟨⟩, wheel, later⟩
    exact ⟨wheel, (verified wheel).mp later⟩
  · rintro ⟨accepted, later⟩
    refine ⟨(), validateArtifactOutput_eq_ok.mpr accepted, ?_⟩
    rw [Fallible.escapes_bind]
    refine later.imp_right ?_
    rintro ⟨wheel, raises⟩
    exact ⟨(), wheel, (verified wheel).mpr raises⟩

theorem not_escapes_checkArtifacts_iff (documented : lib.Documented) :
    ¬ Fallible.Escapes Reported (checkArtifacts lib host s version directory output) ↔
      Contained lib host s version directory output := by
  rw [escapes_checkArtifacts_iff documented, escapes_validateArtifactOutput_iff,
    escapes_verifyWheel_iff]
  constructor
  · intro quiet
    rw [not_or] at quiet
    refine ⟨fun exc raises => ?_, fun accepted groups matched => ?_,
      fun accepted stable exc raises => ?_, fun accepted wheel archive opens exc raises => ?_⟩
    · by_contra free
      exact quiet.1 ⟨exc, raises, free⟩
    · by_contra long
      exact quiet.2 ⟨accepted, .inl (.inl ⟨groups, matched, long⟩)⟩
    · by_contra free
      exact quiet.2 ⟨accepted, .inl (.inr ⟨stable, exc, raises, free⟩)⟩
    · by_contra free
      exact quiet.2 ⟨accepted, .inr ⟨wheel, archive, opens, exc, raises, free⟩⟩
  · rintro contained (⟨exc, raises, free⟩ | ⟨accepted, (⟨groups, matched, long⟩ |
      ⟨stable, exc, raises, free⟩) | ⟨wheel, archive, opens, exc, raises, free⟩⟩)
    · exact free (contained.resolve exc raises)
    · exact long (contained.digits accepted groups matched)
    · exact free (contained.wheel accepted stable exc raises)
    · exact free (contained.sdist accepted wheel archive opens exc raises)

/-! ### The gate -/

/-- The release went through: both archives are verified, nothing else is in the directory,
and the manifest lists the two distributions with the digests of their contents. -/
structure Published (lib : Library) (host : Host) (version : String) (directory output : Path)
    (before after : System) : Prop where
  wheel : verifyWheel lib host before directory version = .ok ()
  sdist : verifySdist lib host before directory version = .ok ()
  entries : ∃ names, before.iterdir directory = .ok names ∧
    ∀ name ∈ names, name ∈ allowedEntries version
  manifest : ∃ wheel sdist wheelMode sdistMode,
    before.lookup (directory.child (wheelName version)) = some (.file wheel wheelMode) ∧
    before.lookup (directory.child (sdistName version)) = some (.file sdist sdistMode) ∧
    Replaced output (dumps [[("filename", wheelName version), ("sha256", lib.sha256 wheel)],
      [("filename", sdistName version), ("sha256", lib.sha256 sdist)]] ++ "\n")
      (before.mode? output) before after

/-- The command returns 0 and the release went through, or it returns 1 and nothing that was
there has changed. -/
def AllOrNothing (lib : Library) (host : Host) (before : System) (version : String)
    (directory output : Path) : Prop :=
  ∃ after,
    ((main (artifacts lib host version directory output)).call before = (.ok 0, after) ∧
      Published lib host version directory output before after) ∨
    ((main (artifacts lib host version directory output)).call before = (.ok 1, after) ∧
      Kept output before after)

theorem checkArtifacts_ok {manifest : List (Dict String String)}
    (h : checkArtifacts lib host s version directory output = .ok manifest) :
    verifyWheel lib host s directory version = .ok () ∧
      verifySdist lib host s directory version = .ok () ∧
      artifactManifest lib host s directory version = .ok manifest := by
  obtain ⟨_, -, h⟩ := Fallible.bind_eq_ok.mp h
  obtain ⟨_, wheel, h⟩ := Fallible.bind_eq_ok.mp h
  obtain ⟨_, sdist, h⟩ := Fallible.bind_eq_ok.mp h
  exact ⟨wheel, sdist, h⟩

theorem call_main_of_ok {command : FileM Unit} {t : System} (h : command.call s = (.ok (), t)) :
    (main command).call s = (.ok 0, t) := by
  rw [main, Stateful.call_tryCatch, Stateful.call_bind_of_ok h]
  rfl

theorem call_main_of_reported {command : FileM Unit} {t : System} {exc : Exn}
    (h : command.call s = (.error exc, t)) (reported : Reported exc) :
    ∃ stderr, (main command).call s = (.ok 1, { t with stderr := stderr }) := by
  rw [main, Stateful.call_tryCatch, Stateful.call_bind_of_error h]
  dsimp only
  rw [if_pos reported]
  exact ⟨_, rfl⟩

theorem call_main_of_free {command : FileM Unit} {t : System} {exc : Exn}
    (h : command.call s = (.error exc, t)) (free : ¬ Reported exc) :
    (main command).call s = (.error exc, t) := by
  rw [main, Stateful.call_tryCatch, Stateful.call_bind_of_error h]
  dsimp only
  rw [if_neg free]
  rfl

theorem kept_stderr {t : System} (kept : Kept output s t) (stderr : String) :
    Kept output s { t with stderr := stderr } := kept

/-- Writing the manifest keeps the gate shut or opens it. -/
theorem allOrNothing_of_checked {manifest : List (Dict String String)}
    (checked : checkArtifacts lib host s version directory output = .ok manifest) :
    AllOrNothing lib host s version directory output := by
  have called : (artifacts lib host version directory output).call s =
      (writeTextAtomic host output (dumps manifest ++ "\n") "artifact manifest").call s := by
    rw [artifacts, Stateful.call_get_bind, checked]
    rfl
  rcases writeTextAtomic_call host output s (dumps manifest ++ "\n")
    "artifact manifest" with ⟨exc, t, failed, reported, left⟩ | ⟨t, done, replaced⟩
  · obtain ⟨stderr, returned⟩ := call_main_of_reported (called.trans failed) reported
    exact ⟨_, .inr ⟨returned, kept_stderr left.kept stderr⟩⟩
  · obtain ⟨wheel, sdist, listed⟩ := checkArtifacts_ok checked
    obtain ⟨entries, wheelContents, sdistContents, wheelMode, sdistMode, wheelFound, sdistFound,
      rfl⟩ := artifactManifest_ok listed
    exact ⟨t, .inl ⟨call_main_of_ok (called.trans done), wheel, sdist, entries, wheelContents,
      sdistContents, wheelMode, sdistMode, wheelFound, sdistFound, replaced⟩⟩

theorem allOrNothing_iff_not_escapes :
    AllOrNothing lib host s version directory output ↔
      ¬ Fallible.Escapes Reported (checkArtifacts lib host s version directory output) := by
  cases checked : checkArtifacts lib host s version directory output with
  | ok manifest => exact iff_of_true (allOrNothing_of_checked checked) (Fallible.not_escapes_ok _)
  | error exc =>
      have called : (artifacts lib host version directory output).call s = (.error exc, s) := by
        rw [artifacts, Stateful.call_get_bind, checked]
        rfl
      rw [Fallible.escapes_error, not_not]
      constructor
      · rintro ⟨t, ⟨returned, -⟩ | ⟨returned, -⟩⟩
        · by_contra free
          cases (call_main_of_free called free).symm.trans returned
        · by_contra free
          cases (call_main_of_free called free).symm.trans returned
      · intro reported
        obtain ⟨stderr, returned⟩ := call_main_of_reported called reported
        exact ⟨_, .inr ⟨returned, kept_stderr (fun _ _ => rfl) stderr⟩⟩

/-- The command is all or nothing exactly when no exception but the reported ones comes out
of its checks. -/
theorem main_allOrNothing_iff (documented : lib.Documented) (host : Host) (before : System)
    (version : String) (directory output : Path) :
    AllOrNothing lib host before version directory output ↔
      Contained lib host before version directory output := by
  rw [allOrNothing_iff_not_escapes, not_escapes_checkArtifacts_iff documented]

end Spec

namespace Sample

def directory : Path := .ofString "dist"
def output : Path := .ofString "dist/SHA256SUMS.json"

/-- The two distributions of a version, and an older manifest. -/
def system : System where
  entries :=
    [(directory, .directory 0o755),
      (directory.child "asyncly-0.10.0-py3-none-any.whl", .file [0x50, 0x4B] 0o644),
      (directory.child "asyncly-0.10.0.tar.gz", .file [0x1F, 0x8B] 0o644),
      (output, .file [0x5B, 0x5D] 0o644)]
  directories := .literal

theorem stable : Stable 4300 "0.10.0" :=
  ⟨(['0'], ['1', '0'], ['0']), by decide, by simp [WithinDigits]⟩

def metadata : String :=
  "Metadata-Version: 2.1\nName: asyncly\nVersion: 0.10.0\nRequires-Python: <4,>=3.10\n"

def pyproject : String :=
  "[project]\nname = \"asyncly\"\nversion = \"0.10.0\"\nrequires-python = \"<4,>=3.10\"\n"

/-- A member of a wheel that is a regular file. -/
def zipFile (name : String) : ZipInfo := ⟨name, 0o100644 <<< 16⟩

/-- A wheel with some members, whose metadata are those above. -/
def wheel (members : List ZipInfo) : ZipArchive where
  infolist := members
  testzip := .ok none
  read name := .ok (if name = metadataName "0.10.0" then encodeUtf8 metadata else [])

def publicFiles : List ZipInfo :=
  [zipFile "asyncly/client/retry.py", zipFile "asyncly/srvmocker/responses/faults.py",
    zipFile "asyncly-0.10.0.dist-info/METADATA"]

def tarFile (name : String) : TarInfo := ⟨"asyncly-0.10.0/" ++ name, .regular⟩

def sdistFiles : List TarInfo :=
  [⟨"asyncly-0.10.0", .directory⟩, tarFile "PKG-INFO", tarFile "pyproject.toml",
    tarFile "asyncly/client/retry.py", tarFile "asyncly/srvmocker/responses/faults.py"]

def sdist : TarArchive where
  getmembers := .ok sdistFiles
  extractfile member :=
    .ok (some (.ok (
      if member = tarFile "PKG-INFO" then encodeUtf8 metadata
      else if member = tarFile "pyproject.toml" then encodeUtf8 pyproject
      else [])))

/-- Libraries for a wheel that is opened as given, and the sdist above. -/
def library (opened : Except Exn ZipArchive) : Library where
  intMaxStrDigits := 4300
  unicode := .latin1
  zipFile _ := opened
  gzip _ := ⟨[], none⟩
  tar _ := .ok sdist
  sha256 _ := ""
  parsestr _ := .ok {
    defects := []
    headers := [("Metadata-Version", "2.1"), ("Name", "asyncly"), ("Version", "0.10.0"),
      ("Requires-Python", "<4,>=3.10")] }
  tomlLoads _ := .ok [("project", .table [("name", .string "asyncly"),
    ("version", .string "0.10.0"), ("requires-python", .string "<4,>=3.10")])]

theorem library_documented (opened : Except Exn ZipArchive) : (library opened).Documented where
  gzip _ _ failed := by cases failed
  tar _ _ failed := by cases failed
  getmembers _ _ _ opened failed := by
    cases opened
    cases failed
  extractfile _ _ _ _ opened failed := by
    cases opened
    cases failed
  read _ _ _ _ opened failed := by
    cases opened
    cases failed

/-- Libraries for a wheel with some members. -/
def accepting (members : List ZipInfo) : Library := library (.ok (wheel members))

theorem metadata_valid (members : List ZipInfo) (archiveName : String) :
    validateMetadata (accepting members) (encodeUtf8 metadata) "0.10.0" archiveName = .ok () := by
  rw [validateMetadata, decodeUtf8_encodeUtf8]
  rfl

theorem pyproject_valid (members : List ZipInfo) :
    validateEmbeddedPyproject (accepting members) (encodeUtf8 pyproject) "0.10.0" = .ok () := by
  rw [validateEmbeddedPyproject, decodeUtf8_encodeUtf8]
  rfl

theorem wheel_accepted {members : List ZipInfo} (listed : WheelListed (wheel members))
    (complete : WheelComplete "0.10.0" (wheel members)) :
    verifyWheel (accepting members) host system directory "0.10.0" = .ok () := by
  refine verifyWheel_eq_ok.mpr ⟨stable, wheel members, rfl, checkWheel_eq_ok.mpr ?_⟩
  exact ⟨listed, rfl, complete, encodeUtf8 metadata, by rfl, metadata_valid members "wheel"⟩

theorem publicFiles_accepted :
    verifyWheel (accepting publicFiles) host system directory "0.10.0" = .ok () :=
  wheel_accepted ⟨⟨by decide, by decide⟩, by decide⟩ ⟨by decide, by decide, by decide⟩

theorem sdist_accepted (members : List ZipInfo) :
    verifySdist (accepting members) host system directory "0.10.0" = .ok () := by
  refine verifySdist_eq_ok.mpr ⟨stable, ⟨[], none⟩, rfl, rfl, sdist, rfl, checkSdist_eq_ok.mpr ?_⟩
  refine ⟨sdistFiles, rfl, ⟨⟨by decide, by decide⟩, by decide, by decide, by decide, by decide⟩,
    ⟨tarFile "pyproject.toml", by decide, encodeUtf8 pyproject, by rfl, pyproject_valid members⟩,
    ⟨tarFile "PKG-INFO", by decide, encodeUtf8 metadata, by rfl, metadata_valid members "sdist"⟩⟩

/-- Nothing is raised on the way to the manifest. -/
theorem contained :
    Contained (accepting publicFiles) host system "0.10.0" directory output where
  resolve exc raises := by
    cases raises with
    | directory _ raised => cases raised
    | parent _ _ _ raised => cases raised
  digits _ groups matched := by
    obtain ⟨read, same, within⟩ := stable
    exact Option.some.inj (same.symm.trans matched) ▸ within
  wheel _ _ exc raises := by
    have opened : openWheel (accepting publicFiles) host system directory "0.10.0" =
        .ok (wheel publicFiles) := rfl
    rw [opened] at raises
    cases raises with
    | testing _ _ _ raised => cases raised
    | reading _ _ _ _ _ raised => cases raised
    | parsing _ _ _ _ _ _ _ _ _ raised => cases raised
  sdist _ _ archive _ exc raises := by
    cases raises with
    | pyproject _ _ _ _ _ _ raised _ => cases raised
    | metadata _ _ _ _ _ _ _ raised => cases raised

/-- A wheel with one member, whose compressed bytes are damaged. -/
def damaged : ZipArchive where
  infolist := [⟨"asyncly/__init__.py", 0⟩]
  testzip := .error (.ofClass .zlibError "Error -3 while decompressing data: invalid block type")
  read _ := .error (.ofClass .zlibError "Error -3 while decompressing data: invalid block type")

def manifest : List (Dict String String) :=
  [[("filename", wheelName "0.10.0"), ("sha256", "")],
    [("filename", sdistName "0.10.0"), ("sha256", "")]]

theorem artifacts_checked :
    checkArtifacts (accepting publicFiles) host system "0.10.0" directory output =
      .ok manifest := by
  have accepted : validateArtifactOutput host system directory output = .ok () :=
    validateArtifactOutput_eq_ok.mpr ⟨by decide, ⟨directory, rfl, by decide⟩, rfl⟩
  obtain ⟨numbers, read⟩ := stableVersion_ok_iff.mpr stable
  have expected : ["asyncly-0.10.0-py3-none-any.whl", "asyncly-0.10.0.tar.gz",
      "SHA256SUMS.json"].filter (fun name => name ∉ allowedEntries "0.10.0") = [] := by decide
  rw [checkArtifacts, accepted, Fallible.ok_bind, publicFiles_accepted, Fallible.ok_bind,
    sdist_accepted, Fallible.ok_bind]
  refine Fallible.bind_eq_ok.mpr ⟨numbers, read, Fallible.bind_eq_ok.mpr ⟨_, rfl, ?_⟩⟩
  refine Fallible.bind_eq_ok.mpr ⟨(), Fallible.refuseIf_eq_ok.mpr ?_, rfl⟩
  exact not_not_intro (sorted_eq_nil.mpr expected)

theorem output_written (text : String) :
    ∃ t, (writeTextAtomic host output text "artifact manifest").call system = (.ok (), t) ∧
      t.lookup output = some (.file (encodeUtf8 text) 0o644) := ⟨_, rfl, rfl⟩

theorem artifacts_written :
    ∃ t, (artifacts (accepting publicFiles) host "0.10.0" directory output).call system =
        (.ok (), t) ∧
      t.lookup output = some (.file (encodeUtf8 (dumps manifest ++ "\n")) 0o644) := by
  rw [artifacts, Stateful.call_get_bind, artifacts_checked, Stateful.call_ofExcept_bind]
  exact output_written _

end Sample

/-- A release goes through: the checks pass, and the manifest takes the place of the old one. -/
theorem main_allOrNothing_iff_sample :
    AllOrNothing (Sample.accepting Sample.publicFiles) Sample.host Sample.system "0.10.0"
        Sample.directory Sample.output ∧
      ((main (artifacts (Sample.accepting Sample.publicFiles) Sample.host "0.10.0"
        Sample.directory Sample.output)).call Sample.system).1 = .ok 0 := by
  refine ⟨(main_allOrNothing_iff (Sample.library_documented _) _ _ _ _ _).mpr Sample.contained, ?_⟩
  obtain ⟨t, ran, -⟩ := Sample.artifacts_written
  exact congrArg Prod.fst (call_main_of_ok ran)

/-- The damaged wheel ends the command with an exception nobody catches. -/
theorem main_allOrNothing_fails :
    ¬ AllOrNothing (Sample.library (.ok Sample.damaged)) Sample.host Sample.system "0.10.0"
      Sample.directory Sample.output := by
  have accepted : OutputAccepted Sample.host Sample.system Sample.directory Sample.output :=
    ⟨by decide, ⟨Sample.directory, rfl, by decide⟩, rfl⟩
  have listed : WheelListed Sample.damaged :=
    ⟨⟨by decide, by decide⟩, by decide⟩
  rw [allOrNothing_iff_not_escapes, not_not,
    escapes_checkArtifacts_iff (Sample.library_documented _), escapes_verifyWheel_iff]
  exact .inr ⟨accepted,
    .inl (.inr ⟨Sample.stable, _, .testing Sample.damaged _ listed rfl, by decide⟩)⟩

end Asyncly.Release
