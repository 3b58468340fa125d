import Asyncly.Lib.Fallible
import Asyncly.Lib.Stateful
import Asyncly.Python.Paths
import Asyncly.Python.Values

/-!
# Files of the release tool

The tool reads and replaces files through operations each of which may fail with an
`OSError`. Reading leaves the file system as it is; an output is written to a temporary
file next to it, which then takes its place.
-/

namespace Asyncly

abbrev Path := PurePosixPath

namespace Exn

/-- `str(exc)` -/
def str : Exn → String
  | raised exc => exc.text
  | observableTransportError original => original.text

def osError (text : String) : Exn := ofClass .osError text

def fileNotFoundError (text : String) : Exn :=
  .raised {
    mro := [.other "FileNotFoundError", .osError, .exception, .baseException]
    text := text }

/-- A `ReleaseError`, which is a `ValueError`. -/
def releaseError (text : String) : Exn :=
  .raised {
    mro := [.other "ReleaseError", .valueError, .exception, .baseException]
    text := text }

theorem isinstance_mono {exc : Exn} {classes more : List ExcClass} (included : classes ⊆ more)
    (h : exc.isinstance classes = true) : exc.isinstance more = true := by
  obtain ⟨cls, member, here⟩ := List.any_eq_true.mp h
  exact List.any_eq_true.mpr ⟨cls, included member, here⟩

end Exn

namespace ExcClass

def releaseError : ExcClass := .other "ReleaseError"
def fileNotFoundError : ExcClass := .other "FileNotFoundError"

end ExcClass

namespace Release

/-- What a path names. A symbolic link is given by the path it leads to. -/
inductive Node
  | file (contents : Bytes) (mode : Nat)
  | directory (mode : Nat)
  | symlink (destination : Path)
  deriving DecidableEq

/-- The entry a path names, whichever way the directories above it are spelled. Another name
beside a path is another entry. -/
structure Directories where
  entryOf : Path → Path
  apart : ∀ (path : Path) (name : String), name ≠ "" → name ≠ "." → name ≠ ".." →
    '/' ∉ name.toList → name ≠ path.name → entryOf (path.parent.child name) ≠ entryOf path

/-- Directories without links between them. -/
def Directories.literal : Directories where
  entryOf path := path
  apart path name nonempty noDot _ free differs same := by
    have named := PurePosixPath.name_child_of_free nonempty noDot free path.parent
    rw [same] at named
    exact differs named.symm

/-- The files by their entries, and the text of the standard error stream. -/
structure System where
  entries : Dict Path Node
  directories : Directories
  stderr : String := ""

namespace System

/-- Two paths name one entry. -/
def SameEntry (s : System) (path other : Path) : Prop :=
  s.directories.entryOf path = s.directories.entryOf other

instance (s : System) (path other : Path) : Decidable (s.SameEntry path other) :=
  inferInstanceAs (Decidable (_ = _))

/-- What a path names, whose last component is not followed. -/
def lookup (s : System) (path : Path) : Option Node := s.entries.get? (s.directories.entryOf path)

/-- The file or directory a path leads to. -/
def follow (s : System) (path : Path) : Option Node :=
  match s.lookup path with
  | some (.symlink destination) =>
      match s.lookup destination with
      | some (.symlink _) => none
      | node => node
  | node => node

def put (s : System) (path : Path) (node : Node) : System :=
  { s with entries := s.entries.set (s.directories.entryOf path) node }

def remove (s : System) (path : Path) : System :=
  { s with entries := MultiDict.popAll id (s.directories.entryOf path) s.entries }

variable {s : System} {path other : Path} {node : Node}

theorem lookup_congr (same : s.SameEntry path other) : s.lookup path = s.lookup other := by
  rw [lookup, lookup, show s.directories.entryOf path = s.directories.entryOf other from same]

@[simp] theorem lookup_put_self : (s.put path node).lookup path = some node :=
  MultiDict.get?_set_self

theorem lookup_put (h : ¬ s.SameEntry other path) :
    (s.put path node).lookup other = s.lookup other :=
  MultiDict.get?_set h

@[simp] theorem lookup_remove_self : (s.remove path).lookup path = none :=
  congrArg List.head? MultiDict.getAll_popAll_self

theorem lookup_remove (h : ¬ s.SameEntry other path) :
    (s.remove path).lookup other = s.lookup other :=
  congrArg List.head? (MultiDict.getAll_popAll h)

/-- `path.is_symlink()` -/
def isSymlink (s : System) (path : Path) : Bool :=
  match s.lookup path with
  | some (.symlink _) => true
  | _ => false

/-- `path.exists()` -/
def pathExists (s : System) (path : Path) : Bool := (s.follow path).isSome

/-- `path.is_file()` -/
def isFile (s : System) (path : Path) : Bool :=
  match s.follow path with
  | some (.file _ _) => true
  | _ => false

/-- The contents of a file that is opened for reading. -/
def readBytes (s : System) (path : Path) : Except Exn Bytes :=
  match s.follow path with
  | some (.file contents _) => .ok contents
  | some _ => .error (.osError s!"Is a directory: {path.str}")
  | none => .error (.fileNotFoundError s!"No such file or directory: {path.str}")

/-- The entry a path leads to. -/
def target (s : System) (path : Path) : Path :=
  match s.lookup path with
  | some (.symlink destination) => s.directories.entryOf destination
  | _ => s.directories.entryOf path

/-- The names in a directory, in the order of the file system. -/
def iterdir (s : System) (path : Path) : Except Exn (List String) :=
  match s.follow path with
  | some (.directory _) =>
      .ok ((s.entries.filter fun entry => entry.1.tail ≠ [] ∧ entry.1.parent = s.target path).map
        fun entry => entry.1.name)
  | some _ => .error (.osError s!"Not a directory: {path.str}")
  | none => .error (.fileNotFoundError s!"No such file or directory: {path.str}")

end System

/-- The operations on files, each at the place where the tool performs it. -/
inductive FileOp
  | outputIsSymlink
  | openWheel | openSdist | openTar
  | iterdir
  | isSymlink (path : Path) | pathExists (path : Path) | isFile (path : Path)
  | readBytes (path : Path)
  | replacesSymlink | stat | createTemporary | write | chmod | replace | unlink

/-- The operating system under the tool: where paths lead, the text of the `OSError` an
operation fails with, and the random parts tried for the name of a temporary file. -/
structure Host where
  resolve : Path → Except Exn Path
  fails : FileOp → Option String
  randomNames : List {random : String // ∀ c ∈ random.toList, c.isAlphanum ∨ c = '_'}

/-- An operation on files that may fail. -/
def Host.attempt {α : Type} (host : Host) (op : FileOp) (outcome : Except Exn α) : Except Exn α :=
  match host.fails op with
  | some text => .error (.osError text)
  | none => outcome

theorem System.readBytes_error {s : System} {path : Path} {exc : Exn}
    (h : s.readBytes path = .error exc) : exc.isinstance [.osError] = true := by
  rw [System.readBytes] at h
  split at h
  · cases h
  · exact Except.error.inj h ▸ rfl
  · exact Except.error.inj h ▸ rfl

theorem System.iterdir_error {s : System} {path : Path} {exc : Exn}
    (h : s.iterdir path = .error exc) : exc.isinstance [.osError] = true := by
  rw [System.iterdir] at h
  split at h
  · cases h
  · exact Except.error.inj h ▸ rfl
  · exact Except.error.inj h ▸ rfl

/-- An operation that fails raises an `OSError` when its outcome is one as well. -/
theorem Host.attempt_error {α : Type} {host : Host} {op : FileOp} {outcome : Except Exn α}
    {exc : Exn} (os : ∀ exc, outcome = .error exc → exc.isinstance [.osError] = true)
    (h : host.attempt op outcome = .error exc) : exc.isinstance [.osError] = true := by
  rw [Host.attempt] at h
  split at h
  · exact Except.error.inj h ▸ rfl
  · exact os exc h

theorem Host.attempt_eq_ok {α : Type} {host : Host} {op : FileOp} {outcome : Except Exn α} {a : α}
    (h : host.attempt op outcome = .ok a) : outcome = .ok a := by
  rw [Host.attempt] at h
  split at h
  · cases h
  · exact h

/-- Computations of the tool. -/
abbrev FileM := Stateful System Exn

/-- An operation that changes files, and leaves them alone when it fails. -/
def Host.perform {α : Type} (host : Host) (op : FileOp)
    (operation : System → Except Exn α × System) : FileM α :=
  Stateful.ofCall fun s =>
    match host.fails op with
    | some text => (.error (.osError text), s)
    | none => operation s

/-! ### Replacing an output -/

section Write

variable (host : Host) (path : Path)

/-- `path.stat()`, of which only the permission bits are used. -/
def statMode : FileM Nat :=
  host.perform .stat fun s =>
    match s.follow path with
    | some (.file _ mode) | some (.directory mode) => (.ok mode, s)
    | _ => (.error (.fileNotFoundError s!"No such file or directory: {path.str}"), s)

/-- The permission bits of the output, when there is one. -/
def destinationMode : FileM (Option Nat) :=
  tryCatch (do
    let mode ← statMode host path
    pure (some mode))
    fun exc => if exc.isinstance [.fileNotFoundError] then pure none else throw exc

/-- A name next to the output. -/
def temporaryPath (random : String) : Path :=
  path.parent.child ("." ++ path.name ++ "." ++ random ++ ".tmp")

/-- `NamedTemporaryFile(..., delete=False)`: an empty file under the first unused name. -/
def namedTemporaryFile : FileM Path :=
  host.perform .createTemporary fun s =>
    match s.follow path.parent with
    | some (.directory _) =>
        match (host.randomNames.map fun random => temporaryPath path random.1).find?
            fun temporary => s.lookup temporary = none with
        | some temporary => (.ok temporary, s.put temporary (.file [] 0o600))
        | none => (.error (.osError "No usable temporary file name found"), s)
    | _ => (.error (.fileNotFoundError s!"No such file or directory: {path.parent.str}"), s)

/-- The bytes of a text. -/
def encodeUtf8 (text : String) : Bytes := text.toList.flatMap String.utf8EncodeChar

/-- `stream.write(text)`, and the end of the `with` block. -/
def writeText (temporary : Path) (text : String) : FileM Unit :=
  host.perform .write fun s => (.ok (), s.put temporary (.file (encodeUtf8 text) 0o600))

/-- `temporary.chmod(mode)` -/
def chmod (temporary : Path) (mode : Nat) : FileM Unit :=
  host.perform .chmod fun s =>
    match s.lookup temporary with
    | some (.file contents _) => (.ok (), s.put temporary (.file contents mode))
    | _ => (.error (.fileNotFoundError s!"No such file or directory: {temporary.str}"), s)

/-- `os.replace(temporary, path)` -/
def replace (temporary : Path) : FileM Unit :=
  host.perform .replace fun s =>
    match s.lookup path, s.lookup temporary with
    | some (.directory _), _ => (.error (.osError s!"Is a directory: {path.str}"), s)
    | _, some node => (.ok (), (s.remove temporary).put path node)
    | _, none => (.error (.fileNotFoundError s!"No such file or directory: {temporary.str}"), s)

/-- `temporary.unlink(missing_ok=True)`, whose failure is ignored. -/
def cleanUp (temporary : Path) : FileM Unit :=
  tryCatch (host.perform .unlink fun s => (.ok (), s.remove temporary))
    fun exc => if exc.isinstance [.osError] then pure () else throw exc

/-- What is done with the temporary file. -/
def moveIntoPlace (temporary : Path) (mode : Option Nat) (text : String) : FileM Unit := do
  writeText host temporary text
  match mode with
  | some mode => chmod host temporary mode
  | none => pure ()
  replace host path temporary

/-- The body of `_write_text_atomic`. From its creation until it has replaced the output,
the temporary file is removed when an exception leaves the block. -/
def replaceOutput (text : String) : FileM Unit := do
  if ← host.perform .replacesSymlink fun s => (.ok (s.isSymlink path), s) then
    throw (.releaseError s!"refusing to replace symlink output {path.str}")
  let mode ← destinationMode host path
  let temporary ← namedTemporaryFile host path
  tryCatch (moveIntoPlace host path temporary mode text) fun exc => do
    cleanUp host temporary
    throw exc

/-- `_write_text_atomic` -/
def writeTextAtomic (text description : String) : FileM Unit :=
  tryCatch (replaceOutput host path text) fun exc =>
    if exc.isinstance [.osError] then
      throw (.releaseError s!"unable to write {description} {path.str}: {exc.str}")
    else throw exc

/-! ### What it leaves -/

theorem isinstance_osError (text : String) : (Exn.osError text).isinstance [.osError] = true := rfl

theorem isinstance_fileNotFoundError (text : String) :
    (Exn.fileNotFoundError text).isinstance [.osError] = true := rfl

/-- The permission bits of what a path leads to. -/
def System.mode? (s : System) (path : Path) : Option Nat :=
  match s.follow path with
  | some (.file _ mode) | some (.directory mode) => some mode
  | _ => none

/-- Two systems with the same entries, but for that of one path. -/
structure System.SameBut (path : Path) (s t : System) : Prop where
  directories : t.directories = s.directories
  others : ∀ other, ¬ s.SameEntry other path → t.lookup other = s.lookup other

namespace System.SameBut

variable {s t : System} {path : Path}

theorem refl (path : Path) (s : System) : s.SameBut path s := ⟨rfl, fun _ _ => rfl⟩

theorem sameEntry_iff (h : s.SameBut path t) {first second : Path} :
    t.SameEntry first second ↔ s.SameEntry first second := by
  rw [SameEntry, SameEntry, h.directories]

theorem put (h : s.SameBut path t) (node : Node) : s.SameBut path (t.put path node) where
  directories := h.directories
  others other distinct :=
    (System.lookup_put (h.sameEntry_iff.not.mpr distinct)).trans (h.others other distinct)

theorem remove (h : s.SameBut path t) : s.SameBut path (t.remove path) where
  directories := h.directories
  others other distinct :=
    (System.lookup_remove (h.sameEntry_iff.not.mpr distinct)).trans (h.others other distinct)

end System.SameBut

variable (host : Host) (path : Path) (s : System)

theorem perform_call {α : Type} (op : FileOp) (operation : System → Except Exn α × System) :
    (∃ text, (host.perform op operation).call s = (.error (.osError text), s)) ∨
      (host.perform op operation).call s = operation s := by
  rw [Host.perform, Stateful.call_ofCall]
  split
  · exact .inl ⟨_, rfl⟩
  · exact .inr rfl

/-- Reading the permission bits fails, or finds them as they are. -/
theorem destinationMode_call :
    (∃ text, (destinationMode host path).call s = (.error (.osError text), s)) ∨
      (destinationMode host path).call s = (.ok (s.mode? path), s) := by
  rw [destinationMode, Stateful.call_tryCatch]
  rcases perform_call host s .stat fun s =>
    match s.follow path with
    | some (.file _ mode) | some (.directory mode) => (.ok mode, s)
    | _ => (.error (.fileNotFoundError s!"No such file or directory: {path.str}"), s)
    with ⟨text, failed⟩ | done
  · rw [statMode, Stateful.call_bind_of_error failed]
    exact .inl ⟨text, rfl⟩
  · right
    rw [System.mode?]
    split at done
    · rw [statMode, Stateful.call_bind_of_ok done]
      rfl
    · rw [statMode, Stateful.call_bind_of_ok done]
      rfl
    · rw [statMode, Stateful.call_bind_of_error done]
      rfl

/-- A temporary file is another entry than the output. -/
theorem temporaryPath_apart
    (random : {random : String // ∀ c ∈ random.toList, c.isAlphanum ∨ c = '_'}) :
    ¬ s.SameEntry (temporaryPath path random.1) path := by
  let text := "." ++ path.name ++ "." ++ random.1 ++ ".tmp"
  have length : path.name.toList.length + 6 ≤ text.toList.length := by
    simp only [text, String.toList_append, List.length_append]
    have dot : ".".toList.length = 1 := rfl
    have suffix : ".tmp".toList.length = 4 := rfl
    omega
  have longer {other : String} (short : other.toList.length < path.name.toList.length + 6) :
      text ≠ other := by
    intro same
    rw [same] at length
    omega
  have free : '/' ∉ text.toList := by
    have name : '/' ∉ path.name.toList := by
      rw [PurePosixPath.name]
      cases last : path.tail.getLast? with
      | none => exact List.not_mem_nil
      | some part => exact (path.clean part (List.mem_of_getLast? last)).2.2
    have digits : '/' ∉ random.1.toList := by
      intro member
      rcases random.2 _ member with h | h
      · exact absurd h (by decide)
      · exact absurd h (by decide)
    simp only [text, String.toList_append, List.mem_append, not_or]
    exact ⟨⟨⟨⟨by decide, name⟩, by decide⟩, digits⟩, by decide⟩
  exact s.directories.apart path text (longer (Nat.zero_lt_succ _))
    (longer (Nat.lt_add_left _ (by decide))) (longer (Nat.lt_add_left _ (by decide))) free
    (longer (Nat.lt_add_of_pos_right (by decide)))

/-- Creating the temporary file fails, or makes a new entry. -/
theorem namedTemporaryFile_call :
    (∃ exc, (namedTemporaryFile host path).call s = (.error exc, s) ∧
      exc.isinstance [.osError] = true) ∨
    ∃ temporary, ¬ s.SameEntry temporary path ∧ s.lookup temporary = none ∧
      (namedTemporaryFile host path).call s =
        (.ok temporary, s.put temporary (.file [] 0o600)) := by
  rw [namedTemporaryFile, Host.perform, Stateful.call_ofCall]
  split
  · exact .inl ⟨_, rfl, isinstance_osError _⟩
  · split
    · split
      · rename_i temporary found
        obtain ⟨random, -, rfl⟩ := List.mem_map.mp (List.mem_of_find?_eq_some found)
        have unused := List.find?_some found
        exact .inr ⟨_, temporaryPath_apart path s random, of_decide_eq_true unused, rfl⟩
      · exact .inl ⟨_, rfl, isinstance_osError _⟩
    · exact .inl ⟨_, rfl, isinstance_fileNotFoundError _⟩

variable {s}

/-- The output is a file with the text and the permission bits, and nothing else has
changed. -/
structure Replaced (path : Path) (text : String) (mode : Option Nat) (s t : System) : Prop where
  output : t.lookup path = some (.file (encodeUtf8 text) (mode.getD 0o600))
  others : s.SameBut path t

/-- A failure of a file operation, after which only the temporary file may differ. -/
def FailsKeeping (temporary : Path) (s : System) (called : Except Exn Unit × System) : Prop :=
  ∃ exc, called.1 = .error exc ∧ exc.isinstance [.osError] = true ∧ s.SameBut temporary called.2

theorem chmod_call {temporary : Path} (t : System) {contents : Bytes} {old : Nat} (mode : Nat)
    (written : t.lookup temporary = some (.file contents old)) :
    (∃ text, (chmod host temporary mode).call t = (.error (.osError text), t)) ∨
      (chmod host temporary mode).call t = (.ok (), t.put temporary (.file contents mode)) := by
  rw [chmod]
  rcases perform_call host t .chmod fun s =>
    match s.lookup temporary with
    | some (.file contents _) => (.ok (), s.put temporary (.file contents mode))
    | _ => (.error (.fileNotFoundError s!"No such file or directory: {temporary.str}"), s)
    with failed | done
  · exact .inl failed
  · right
    rw [done, written]

/-- The temporary file takes the place of the output. -/
theorem replace_call {temporary : Path} (fresh : s.lookup temporary = none) {t : System}
    (same : s.SameBut temporary t) {text : String} {mode : Option Nat}
    (written : t.lookup temporary = some (.file (encodeUtf8 text) (mode.getD 0o600))) :
    FailsKeeping temporary s ((replace host path temporary).call t) ∨
      ∃ u, (replace host path temporary).call t = (.ok (), u) ∧ Replaced path text mode s u := by
  rw [replace, Host.perform, Stateful.call_ofCall]
  split
  · exact .inl ⟨_, rfl, isinstance_osError _, same⟩
  · rw [written]
    split
    · exact .inl ⟨_, rfl, isinstance_osError _, same⟩
    · rename_i moved _
      refine .inr ⟨_, rfl, ?_, same.directories, fun other apart => ?_⟩
      · rw [System.lookup_put_self, ← Option.some.inj moved]
      · rw [System.lookup_put (same.remove.sameEntry_iff.not.mpr apart)]
        by_cases here : s.SameEntry other temporary
        · rw [System.lookup_congr (same.remove.sameEntry_iff.mpr here), System.lookup_remove_self,
            System.lookup_congr here, fresh]
        · exact same.remove.others other here
    · rename_i missing _
      cases missing

/-- From a system that differs by the temporary file, the output is replaced, or a
failure leaves it so. -/
theorem moveIntoPlace_call {temporary : Path} (fresh : s.lookup temporary = none)
    {t : System} (same : s.SameBut temporary t) (mode : Option Nat) (text : String) :
    FailsKeeping temporary s ((moveIntoPlace host path temporary mode text).call t) ∨
      ∃ u, (moveIntoPlace host path temporary mode text).call t = (.ok (), u) ∧
        Replaced path text mode s u := by
  rw [moveIntoPlace]
  rcases perform_call host t .write fun s =>
    (.ok (), s.put temporary (.file (encodeUtf8 text) 0o600)) with ⟨error, failed⟩ | written
  · rw [writeText, Stateful.call_bind_of_error failed]
    exact .inl ⟨_, rfl, isinstance_osError _, same⟩
  · rw [writeText, Stateful.call_bind_of_ok written]
    have sameWritten := same.put (.file (encodeUtf8 text) 0o600)
    cases mode with
    | none => exact replace_call host path fresh sameWritten System.lookup_put_self
    | some mode =>
        dsimp only
        rcases chmod_call host (t.put temporary (.file (encodeUtf8 text) 0o600)) mode
          System.lookup_put_self with ⟨error, failed⟩ | changed
        · rw [Stateful.call_bind_of_error failed]
          exact .inl ⟨_, rfl, isinstance_osError _, sameWritten⟩
        · rw [Stateful.call_bind_of_ok changed]
          exact replace_call host path fresh (sameWritten.put _) System.lookup_put_self

/-- The temporary file is removed unless that fails. -/
theorem cleanUp_call {temporary : Path} {t : System} (same : s.SameBut temporary t) :
    ∃ u, (cleanUp host temporary).call t = (.ok (), u) ∧ s.SameBut temporary u ∧
      (host.fails .unlink = none → u.lookup temporary = none) := by
  rw [cleanUp, Stateful.call_tryCatch, Host.perform, Stateful.call_ofCall]
  cases host.fails .unlink with
  | some text => exact ⟨t, rfl, same, fun works => absurd works (Option.some_ne_none text)⟩
  | none => exact ⟨_, rfl, same.remove, fun _ => System.lookup_remove_self⟩

/-- Every entry there was is as it was, and so is the output. -/
def Kept (path : Path) (s t : System) : Prop :=
  ∀ other, s.lookup other ≠ none ∨ s.SameEntry other path → t.lookup other = s.lookup other

theorem kept_of_sameBut {path temporary : Path} (distinct : ¬ s.SameEntry temporary path)
    (fresh : s.lookup temporary = none) {t : System} (same : s.SameBut temporary t) :
    Kept path s t := by
  intro other there
  refine same.others other fun here => ?_
  rcases there with used | output
  · exact used ((System.lookup_congr here).trans fresh)
  · exact distinct (Eq.symm here |>.trans output)

/-- The output was not replaced: a symbolic link was not touched, and what else there was is
as it was, and nothing was added unless the temporary file could not be removed. -/
structure Abandoned (host : Host) (path : Path) (s t : System) : Prop where
  directories : t.directories = s.directories
  kept : Kept path s t
  refused : s.isSymlink path = true → t = s
  cleaned : host.fails .unlink = none → ∀ other, t.lookup other = s.lookup other

theorem Abandoned.self (host : Host) (path : Path) (s : System) : Abandoned host path s s :=
  ⟨rfl, fun _ _ => rfl, fun _ => rfl, fun _ _ => rfl⟩

theorem Abandoned.of_sameBut {path temporary : Path} (distinct : ¬ s.SameEntry temporary path)
    (fresh : s.lookup temporary = none) (regular : ¬ s.isSymlink path = true) {t : System}
    (same : s.SameBut temporary t)
    (cleaned : host.fails .unlink = none → t.lookup temporary = none) :
    Abandoned host path s t where
  directories := same.directories
  kept := kept_of_sameBut distinct fresh same
  refused := fun symlink => absurd symlink regular
  cleaned := by
    intro works other
    by_cases here : s.SameEntry other temporary
    · rw [System.lookup_congr (same.sameEntry_iff.mpr here), cleaned works,
        System.lookup_congr here, fresh]
    · exact same.others other here

variable (s)

/-- The output is replaced, or it is left. -/
theorem replaceOutput_call (text : String) :
    (∃ exc t, (replaceOutput host path text).call s = (.error exc, t) ∧
      exc.isinstance [.osError, .releaseError] = true ∧ Abandoned host path s t) ∨
    ∃ t, (replaceOutput host path text).call s = (.ok (), t) ∧
      Replaced path text (s.mode? path) s t := by
  have kept := Abandoned.self host path s
  rw [replaceOutput]
  rcases perform_call host s .replacesSymlink fun s => (.ok (s.isSymlink path), s)
    with ⟨error, failed⟩ | tested
  · rw [Stateful.call_bind_of_error failed]
    exact .inl ⟨_, s, rfl, rfl, kept⟩
  rw [Stateful.call_bind_of_ok tested]
  by_cases symlink : s.isSymlink path = true
  · rw [if_pos symlink]
    exact .inl ⟨_, s, rfl, rfl, kept⟩
  rw [if_neg symlink]
  rcases destinationMode_call host path s with ⟨error, failed⟩ | read
  · rw [Stateful.call_bind_of_error failed]
    exact .inl ⟨_, s, rfl, rfl, kept⟩
  rw [Stateful.call_bind_of_ok read]
  rcases namedTemporaryFile_call host path s with
    ⟨exc, failed, os⟩ | ⟨temporary, distinct, fresh, created⟩
  · rw [Stateful.call_bind_of_error failed]
    exact .inl ⟨exc, s, rfl, Exn.isinstance_mono (by simp) os, kept⟩
  rw [Stateful.call_bind_of_ok created, Stateful.call_tryCatch]
  have same := System.SameBut.refl temporary s
  rcases moveIntoPlace_call host path fresh
      (same.put (.file [] 0o600)) (s.mode? path) text with
    ⟨exc, failed, os, left⟩ | ⟨t, moved, replaced⟩
  · have raised : (moveIntoPlace host path temporary (s.mode? path) text).call
        (s.put temporary (.file [] 0o600)) = (.error exc, _) := Prod.ext failed rfl
    obtain ⟨t, cleaned, left, gone⟩ := cleanUp_call host left
    rw [raised]
    dsimp only
    rw [Stateful.call_bind_of_ok cleaned]
    exact .inl ⟨exc, t, rfl, Exn.isinstance_mono (by simp) os,
      .of_sameBut host distinct fresh symlink left gone⟩
  · rw [moved]
    exact .inr ⟨t, rfl, replaced⟩

/-- `_write_text_atomic` replaces the output, or raises a `ReleaseError` and has left it. -/
theorem writeTextAtomic_call (text description : String) :
    (∃ exc t, (writeTextAtomic host path text description).call s = (.error exc, t) ∧
      exc.isinstance [.releaseError] = true ∧ Abandoned host path s t) ∨
    ∃ t, (writeTextAtomic host path text description).call s = (.ok (), t) ∧
      Replaced path text (s.mode? path) s t := by
  rw [writeTextAtomic, Stateful.call_tryCatch]
  rcases replaceOutput_call host path s text with
    ⟨exc, t, failed, os, kept⟩ | ⟨t, done, replaced⟩
  · rw [failed]
    dsimp only
    by_cases caught : exc.isinstance [.osError] = true
    · rw [if_pos caught]
      exact .inl ⟨_, t, rfl, rfl, kept⟩
    · rw [if_neg caught]
      refine .inl ⟨exc, t, rfl, ?_, kept⟩
      simp only [Exn.isinstance, List.any_cons, List.any_nil, Bool.or_false, Bool.or_eq_true]
        at os caught ⊢
      exact os.resolve_left caught
  · rw [done]
    exact .inr ⟨t, rfl, replaced⟩

/-- Whichever file operations fail, `_write_text_atomic` returns with the text in the place of
the output and nothing else changed, or it raises a `ReleaseError` with the output, and what
it leads to, unchanged and no file added unless the removal of the temporary one failed. -/
theorem writeTextAtomic_atomic (text description : String) :
    (∃ t, (writeTextAtomic host path text description).call s = (.ok (), t) ∧
      t.lookup path = some (.file (encodeUtf8 text) ((s.mode? path).getD 0o600)) ∧
      ∀ other, ¬ s.SameEntry other path → t.lookup other = s.lookup other) ∨
    ∃ exc t, (writeTextAtomic host path text description).call s = (.error exc, t) ∧
      exc.isinstance [.releaseError] = true ∧ t.lookup path = s.lookup path ∧
      (∀ target, s.lookup path = some (.symlink target) → t.lookup target = s.lookup target) ∧
      (host.fails .unlink = none → ∀ other, t.lookup other = s.lookup other) := by
  rcases writeTextAtomic_call host path s text description with
    ⟨exc, t, failed, reported, left⟩ | ⟨t, done, replaced⟩
  · refine .inr ⟨exc, t, failed, reported, left.kept path (.inr rfl), ?_, left.cleaned⟩
    intro target leads
    have symlink : s.isSymlink path = true := by
      rw [System.isSymlink, leads]
    rw [left.refused symlink]
  · exact .inl ⟨t, done, replaced.output, replaced.others.others⟩

end Write

/-- An operating system on which nothing fails. -/
def Sample.host : Host where
  resolve path := .ok path
  fails _ := none
  randomNames := [⟨"k3v_9x1a", by simp⟩]

/-- A file that is replaced keeps its permission bits. -/
example :
    let notes : Path := .ofString "notes.md"
    let called := (writeTextAtomic Sample.host notes "new" "release notes").call {
      entries := [(.ofString ".", .directory 0o755), (notes, .file [0x6F, 0x6C, 0x64] 0o640)]
      directories := .literal }
    called.1 = .ok () ∧ called.2.lookup notes = some (.file [0x6E, 0x65, 0x77] 0o640) :=
  ⟨rfl, rfl⟩

end Release

end Asyncly
