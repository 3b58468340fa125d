import Asyncly.Tools.Members

/-!
# Verifying the sdist

The whole stream is decompressed once before the members are listed. Everything that
reading the archive raises is caught around it; of what the parsers of its two texts raise,
only some is.
-/

namespace Asyncly.Release

/-- `value == text` -/
def Toml.isText (text : String) : Option Toml → Bool
  | some (.string value) => value = text
  | _ => false

/-- `_validate_embedded_pyproject` -/
def validateEmbeddedPyproject (lib : Library) (contents : Bytes) (version : String) :
    Except Exn Unit := do
  let invalid := Exn.releaseError "sdist embedded pyproject is invalid"
  let data ← Fallible.translating
    (fun exc => exc.isinstance [.unicodeDecodeError, .tomlDecodeError]) (fun _ => invalid) do
      let text ← decodeUtf8 contents
      lib.tomlLoads text
  match data.get? "project" with
  | some (.table project) => do
      Fallible.refuseIf (["name", "version", "requires-python"].any
        fun field => (Dict.get? field project).isNone) invalid
      match Dict.get? "requires-python" project with
      | some (.string requiresPython) => do
          let clauses := (requiresPython.toList.splitOn ',').map
            fun clause => lib.unicode.strip (String.ofList clause)
          Fallible.refuseIf (Toml.isText "asyncly" (Dict.get? "name" project) = false ∨
              Toml.isText version (Dict.get? "version" project) = false ∨ clauses.length ≠ 2 ∨
              ¬ (clauses ⊆ ["<4", ">=3.10"] ∧ ["<4", ">=3.10"] ⊆ clauses))
            (.releaseError "sdist embedded pyproject metadata mismatch")
      | _ => .error invalid
  | _ => .error invalid

/-- The sdist of a version. -/
def sdistName (version : String) : String := s!"asyncly-{version}.tar.gz"

/-- The directory all members of the sdist are in, with the separator. -/
def sdistPrefix (version : String) : String := s!"asyncly-{version}/"

/-- What the sdist must contain. -/
def sdistRequired (version : String) : List String :=
  ["PKG-INFO", "pyproject.toml", "asyncly/client/retry.py",
    "asyncly/srvmocker/responses/faults.py"].map fun name => sdistPrefix version ++ name

namespace GzipStream

/-- `compressed.read(size)` -/
def read (stream : GzipStream) (size : Nat) : Except Exn (Bytes × GzipStream) :=
  match stream.data, stream.failure with
  | [], some exc => .error exc
  | data, _ => .ok (data.take size, { stream with data := data.drop size })

theorem read_shrinks {stream rest : GzipStream} {size : Nat} {byte : UInt8} {bytes : Bytes}
    (h : stream.read size = .ok (byte :: bytes, rest)) :
    rest.data.length < stream.data.length ∧ rest.failure = stream.failure := by
  rw [read.eq_def] at h
  split at h
  · cases h
  · obtain ⟨taken, rfl⟩ := Prod.mk.inj (Except.ok.inj h)
    refine ⟨?_, rfl⟩
    have length := congrArg List.length taken
    simp only [List.length_take, List.length_cons, List.length_drop] at length ⊢
    omega

/-- `while compressed.read(1024 * 1024): pass` -/
def drain (stream : GzipStream) : Except Exn Unit :=
  match _h : stream.read (1024 * 1024) with
  | .error exc => .error exc
  | .ok ([], _) => .ok ()
  | .ok (_ :: _, rest) => rest.drain
termination_by stream.data.length
decreasing_by exact (read_shrinks _h).1

/-- The loop ends, and raises what the stream raises. -/
theorem drain_eq (stream : GzipStream) :
    stream.drain =
      match stream.failure with
      | some exc => .error exc
      | none => .ok () := by
  fun_induction drain stream with
  | case1 stream exc h =>
      rw [read.eq_def] at h
      split at h
      · rename_i ended failed
        rw [failed, Except.error.inj h]
      · cases h
  | case2 stream rest h =>
      rw [read.eq_def] at h
      split at h
      · cases h
      · rename_i running
        have ended : stream.data = [] := by
          have taken := (Prod.mk.inj (Except.ok.inj h)).1
          exact (List.take_eq_nil_iff.mp taken).resolve_left (by omega)
        cases failed : stream.failure with
        | none => rfl
        | some exc => exact absurd failed (running exc ended)
  | case3 stream byte bytes rest h ih => rw [ih, (read_shrinks h).2]

end GzipStream

/-- `member.isreg()` -/
def TarInfo.isreg (member : TarInfo) : Bool := member.type = .regular

/-- A member inside the directory of the sdist, or that directory itself. -/
def TarInfo.inside (version : String) (member : TarInfo) : Bool :=
  (sdistPrefix version).toList.isPrefixOf member.name.toList ||
    (member.type = .directory && member.name = s!"asyncly-{version}")

/-- The reading of a member that must be a file. -/
def readMember (archive : TarArchive) (member : TarInfo) (message : String) :
    Except Exn Bytes := do
  let file ← archive.extractfile member
  match file with
  | none => .error (.releaseError message)
  | some contents => contents

/-- The body of the second `with` statement of `verify_sdist`. -/
def checkSdist (lib : Library) (version : String) (archive : TarArchive) : Except Exn Unit := do
  let members ← archive.getmembers
  let names := members.map (·.name)
  validateMemberNames names "sdist"
  let outside := sorted ((members.filter fun member => !member.inside version).map (·.name))
  Fallible.refuseIf (outside ≠ [])
    (.releaseError s!"sdist members outside {sdistPrefix version}: {quotedList outside}")
  let unsupported := sorted ((members.filter fun member => member.type = .other).map (·.name))
  Fallible.refuseIf (unsupported ≠ [])
    (.releaseError s!"sdist members must be regular files or directories: {quotedList unsupported}")
  requireRegular "sdist" TarInfo.name TarInfo.isreg members (sdistRequired version)
  let named := byName TarInfo.name members
  let pyproject ← item named (sdistPrefix version ++ "pyproject.toml")
  let contents ← readMember archive pyproject "sdist embedded pyproject could not be read"
  validateEmbeddedPyproject lib contents version
  let metadata ← item named (sdistPrefix version ++ "PKG-INFO")
  let contents ← readMember archive metadata "sdist PKG-INFO could not be read"
  validateMetadata lib contents version "sdist"

/-- The members pass the checks that come before two of them are read. -/
structure SdistListed (version : String) (members : List TarInfo) : Prop where
  names : SafeNames (members.map (·.name))
  inside : ∀ member ∈ members, member.inside version = true
  supported : ∀ member ∈ members, member.type ≠ .other
  required : HasRegular TarInfo.name TarInfo.isreg members (sdistRequired version)

/-- The member of a name is read, and its contents pass a check. -/
def ReadsChecked (archive : TarArchive) (members : List TarInfo) (name message : String)
    (check : Bytes → Except Exn Unit) : Prop :=
  ∃ member, (member ∈ members ∧ member.name = name) ∧
    ∃ contents, readMember archive member message = .ok contents ∧ check contents = .ok ()

/-- The member of a name is read, as a text. -/
def ReadsText (archive : TarArchive) (members : List TarInfo) (name message text : String) :
    Prop :=
  ∃ member, (member ∈ members ∧ member.name = name) ∧
    ∃ contents, readMember archive member message = .ok contents ∧
      decodeUtf8 contents = .ok text

/-- What the parsers of TOML and of metadata raise where an sdist has passed what comes before,
but for what is expected of the former. -/
inductive SdistRaises (lib : Library) (version : String) (archive : TarArchive) : Exn → Prop
  | pyproject (members : List TarInfo) (text : String) (exc : Exn)
      (listed : archive.getmembers = .ok members) (passed : SdistListed version members)
      (read : ReadsText archive members (sdistPrefix version ++ "pyproject.toml")
        "sdist embedded pyproject could not be read" text)
      (raised : lib.tomlLoads text = .error exc)
      (unexpected : ¬ exc.isinstance [.unicodeDecodeError, .tomlDecodeError] = true) :
      SdistRaises lib version archive exc
  | metadata (members : List TarInfo) (text : String) (exc : Exn)
      (listed : archive.getmembers = .ok members) (passed : SdistListed version members)
      (valid : ReadsChecked archive members (sdistPrefix version ++ "pyproject.toml")
        "sdist embedded pyproject could not be read"
        fun contents => validateEmbeddedPyproject lib contents version)
      (read : ReadsText archive members (sdistPrefix version ++ "PKG-INFO")
        "sdist PKG-INFO could not be read" text)
      (raised : lib.parsestr text = .error exc) : SdistRaises lib version archive exc

/-- No member is listed as one of another type. -/
theorem sorted_map_other_eq_nil {members : List TarInfo} :
    sorted ((members.filter fun member => member.type = .other).map (·.name)) = [] ↔
      ∀ member ∈ members, member.type ≠ .other := by
  simpa using @sorted_map_filter_eq_nil _ members (fun member => member.type ≠ .other) TarInfo.name

/-- What an sdist has that passes the checks. -/
theorem checkSdist_eq_ok {lib : Library} {version : String} {archive : TarArchive} :
    checkSdist lib version archive = .ok () ↔
      ∃ members, archive.getmembers = .ok members ∧ SdistListed version members ∧
        ReadsChecked archive members (sdistPrefix version ++ "pyproject.toml")
          "sdist embedded pyproject could not be read"
          (fun contents => validateEmbeddedPyproject lib contents version) ∧
        ReadsChecked archive members (sdistPrefix version ++ "PKG-INFO")
          "sdist PKG-INFO could not be read"
          (fun contents => validateMetadata lib contents version "sdist") := by
  simp only [checkSdist, Fallible.bind_eq_ok, validateMemberNames_eq_ok, Fallible.refuseIf_eq_ok,
    ne_eq, not_not, sorted_map_filter_eq_nil, sorted_map_other_eq_nil]
  constructor
  · rintro ⟨members, listed, _, names, _, inside, _, supported, _, required, pyproject, found,
      project, read, _, checked, info, found', metadata, read', checked'⟩
    refine ⟨members, listed,
      ⟨names, inside, supported, (requireRegular_eq_ok names.unique).mp required⟩, ?_, ?_⟩
    · exact ⟨pyproject, (item_eq_ok names.unique).mp found, project, read, checked⟩
    · exact ⟨info, (item_eq_ok names.unique).mp found', metadata, read', checked'⟩
  · rintro ⟨members, listed, ⟨names, inside, supported, required⟩,
      ⟨pyproject, found, project, read, checked⟩, ⟨info, found', metadata, read', checked'⟩⟩
    exact ⟨members, listed, (), names, (), inside, (), supported, (),
      (requireRegular_eq_ok names.unique).mpr required,
      pyproject, (item_eq_ok names.unique).mpr found, project, read, (), checked,
      info, (item_eq_ok names.unique).mpr found', metadata, read', checked'⟩

section Verify

variable (lib : Library) (host : Host) (s : System) (directory : Path) (version : String)

/-- The families of exceptions `verify_sdist` catches. -/
abbrev sdistFamilies : List ExcClass := [.osError, .eofError, .readError, .zlibError]

/-- `open_gzip(sdist, "rb")` -/
def openSdist : Except Exn GzipStream := do
  let contents ← host.attempt .openSdist (s.readBytes (directory.child (sdistName version)))
  pure (lib.gzip contents)

/-- `open_tar(sdist, "r:gz")` -/
def openTar : Except Exn TarArchive := do
  let contents ← host.attempt .openTar (s.readBytes (directory.child (sdistName version)))
  lib.tar contents

/-- `verify_sdist` -/
def verifySdist : Except Exn Unit := do
  let _ ← stableVersion lib.intMaxStrDigits version
  Fallible.translating (fun exc => exc.isinstance sdistFamilies)
    (fun exc => .releaseError
      (s!"unable to read sdist {(directory.child (sdistName version)).str}: " ++ exc.str)) do
      let compressed ← openSdist lib host s directory version
      compressed.drain
      let archive ← openTar lib host s directory version
      checkSdist lib version archive

/-! ### What gets out of it -/

variable {lib host s directory version}

/-- The exceptions the gzip and tar libraries raise: reading an archive ends in one of the
families caught around it. -/
structure Library.Documented (lib : Library) : Prop where
  gzip : ∀ contents exc, (lib.gzip contents).failure = some exc →
    exc.isinstance sdistFamilies = true
  tar : ∀ contents exc, lib.tar contents = .error exc → exc.isinstance sdistFamilies = true
  getmembers : ∀ contents archive exc, lib.tar contents = .ok archive →
    archive.getmembers = .error exc → exc.isinstance sdistFamilies = true
  extractfile : ∀ contents archive member exc, lib.tar contents = .ok archive →
    archive.extractfile member = .error exc → exc.isinstance sdistFamilies = true
  read : ∀ contents archive member exc, lib.tar contents = .ok archive →
    archive.extractfile member = .ok (some (.error exc)) → exc.isinstance sdistFamilies = true

/-- Of what is wrong with the embedded text, only what the TOML library raises gets out, if it
is not expected. -/
theorem escapes_validateEmbeddedPyproject_iff {handled : Exn → Prop}
    (reported : ∀ text, handled (.releaseError text)) {contents : Bytes} :
    Fallible.Escapes handled (validateEmbeddedPyproject lib contents version) ↔
      ∃ text, decodeUtf8 contents = .ok text ∧ Fallible.Escapes (fun exc =>
        exc.isinstance [.unicodeDecodeError, .tomlDecodeError] = true ∨ handled exc)
          (lib.tomlLoads text) := by
  rw [validateEmbeddedPyproject, Fallible.escapes_bind_quiet,
    Fallible.escapes_translating fun _ _ => reported _, Fallible.escapes_bind, or_iff_right]
  · exact not_escapes_decodeUtf8 fun exc expected => .inl (Exn.isinstance_mono (by simp) expected)
  · intro data
    split
    · rw [Fallible.escapes_refuseIf_bind (reported _)]
      rintro ⟨-, later⟩
      split at later
      · exact Fallible.not_escapes_refuseIf (reported _) later
      · exact Fallible.escapes_error.mp later (reported _)
    · rw [Fallible.escapes_error]
      exact not_not_intro (reported _)

theorem verifySdist_eq_ok :
    verifySdist lib host s directory version = .ok () ↔
      Stable lib.intMaxStrDigits version ∧
        ∃ compressed, openSdist lib host s directory version = .ok compressed ∧
          compressed.failure = none ∧
          ∃ archive, openTar lib host s directory version = .ok archive ∧
            checkSdist lib version archive = .ok () := by
  have drained (compressed : GzipStream) :
      (∃ u, compressed.drain = .ok u) ↔ compressed.failure = none := by
    rw [GzipStream.drain_eq]
    cases compressed.failure with
    | none => exact iff_of_true ⟨(), rfl⟩ rfl
    | some exc => exact iff_of_false (fun ⟨_, h⟩ => by cases h) (fun h => by cases h)
  simp only [verifySdist, Fallible.bind_eq_ok, exists_and_right, stableVersion_ok_iff,
    Fallible.translating_eq_ok, drained]

section Sdist

variable {contents : Bytes} {archive : TarArchive}

/-- What the handlers around the sdist deal with. -/
abbrev SdistHandled (exc : Exn) : Prop := exc.isinstance sdistFamilies = true ∨ Reported exc

theorem not_escapes_readMember (documented : lib.Documented)
    (opened : lib.tar contents = .ok archive) (member : TarInfo) (message : String) :
    ¬ Fallible.Escapes SdistHandled (readMember archive member message) := by
  rw [readMember, Fallible.escapes_bind]
  rintro (⟨exc, failed, free⟩ | ⟨file, extracted, later⟩)
  · exact free (.inl (documented.extractfile contents archive member exc opened failed))
  · cases file with
    | none => exact Fallible.escapes_error.mp later (.inr rfl)
    | some read =>
        obtain ⟨exc, rfl, free⟩ := later
        exact free (.inl (documented.read contents archive member exc opened extracted))

/-- Where nothing gets out of the reading of a member, only what is done with its contents
counts. -/
theorem escapes_readMember_bind (documented : lib.Documented)
    (opened : lib.tar contents = .ok archive) {members : List TarInfo} {key message : String}
    (unique : (members.map TarInfo.name).Nodup) (present : key ∈ members.map TarInfo.name)
    {α : Type} {later : Bytes → Except Exn α} :
    Fallible.Escapes SdistHandled (do
        let member ← item (byName TarInfo.name members) key
        let contents ← readMember archive member message
        later contents) ↔
      ∃ member, (member ∈ members ∧ member.name = key) ∧
        ∃ contents, readMember archive member message = .ok contents ∧
          Fallible.Escapes SdistHandled (later contents) := by
  rw [Fallible.escapes_bind, or_iff_right (not_escapes_item unique present)]
  refine exists_congr fun member => ?_
  rw [item_eq_ok unique, Fallible.escapes_bind,
    or_iff_right (not_escapes_readMember documented opened member message)]

/-- What gets out of the checks of the two texts. -/
theorem escapes_texts_iff (documented : lib.Documented) (opened : lib.tar contents = .ok archive)
    {members : List TarInfo} (passed : SdistListed version members) :
    Fallible.Escapes SdistHandled (do
        let pyproject ← item (byName TarInfo.name members) (sdistPrefix version ++ "pyproject.toml")
        let contents ← readMember archive pyproject "sdist embedded pyproject could not be read"
        validateEmbeddedPyproject lib contents version
        let metadata ← item (byName TarInfo.name members) (sdistPrefix version ++ "PKG-INFO")
        let contents ← readMember archive metadata "sdist PKG-INFO could not be read"
        validateMetadata lib contents version "sdist") ↔
      (∃ text, ReadsText archive members (sdistPrefix version ++ "pyproject.toml")
          "sdist embedded pyproject could not be read" text ∧
        Fallible.Escapes (fun exc => exc.isinstance [.unicodeDecodeError, .tomlDecodeError] = true ∨
          SdistHandled exc) (lib.tomlLoads text)) ∨
      ReadsChecked archive members (sdistPrefix version ++ "pyproject.toml")
          "sdist embedded pyproject could not be read"
          (fun contents => validateEmbeddedPyproject lib contents version) ∧
        ∃ text, ReadsText archive members (sdistPrefix version ++ "PKG-INFO")
          "sdist PKG-INFO could not be read" text ∧
          Fallible.Escapes SdistHandled (lib.parsestr text) := by
  have reported : ∀ text, SdistHandled (.releaseError text) := fun text => .inr rfl
  have unique := passed.names.unique
  have pyproject : sdistPrefix version ++ "pyproject.toml" ∈ members.map TarInfo.name :=
    passed.required.present _ (by simp [sdistRequired])
  have info : sdistPrefix version ++ "PKG-INFO" ∈ members.map TarInfo.name :=
    passed.required.present _ (by simp [sdistRequired])
  rw [escapes_readMember_bind documented opened unique pyproject]
  simp only [Fallible.escapes_bind (m := validateEmbeddedPyproject _ _ _), exists_and_right,
    escapes_validateEmbeddedPyproject_iff reported, escapes_validateMetadata_iff reported,
    escapes_readMember_bind documented opened unique info]
  constructor
  · rintro ⟨member, found, contents, read, ⟨text, decoded, raised⟩ |
      ⟨⟨⟨⟩, valid⟩, metadata, found', contents', read', text, decoded, raised⟩⟩
    · exact .inl ⟨text, ⟨member, found, contents, read, decoded⟩, raised⟩
    · exact .inr ⟨⟨member, found, contents, read, valid⟩, text,
        ⟨metadata, found', contents', read', decoded⟩, raised⟩
  · rintro (⟨text, ⟨member, found, contents, read, decoded⟩, raised⟩ |
      ⟨⟨member, found, contents, read, valid⟩, text,
        ⟨metadata, found', contents', read', decoded⟩, raised⟩)
    · exact ⟨member, found, contents, read, .inl ⟨text, decoded, raised⟩⟩
    · exact ⟨member, found, contents, read,
        .inr ⟨⟨(), valid⟩, metadata, found', contents', read', text, decoded, raised⟩⟩

/-- Only what the parsers raise gets out of the checks of the sdist. -/
theorem escapes_checkSdist_iff (documented : lib.Documented)
    (opened : lib.tar contents = .ok archive) :
    Fallible.Escapes SdistHandled (checkSdist lib version archive) ↔
      ∃ exc, SdistRaises lib version archive exc ∧ ¬ SdistHandled exc := by
  have reported : ∀ text, SdistHandled (.releaseError text) := fun text => .inr rfl
  have listing : ¬ Fallible.Escapes SdistHandled archive.getmembers := by
    rintro ⟨exc, failed, free⟩
    exact free (.inl (documented.getmembers contents archive exc opened failed))
  rw [checkSdist, Fallible.escapes_bind, or_iff_right listing]
  simp only [Fallible.escapes_bind_of_quiet (not_escapes_validateMemberNames reported _ _),
    validateMemberNames_eq_ok, Fallible.escapes_refuseIf_bind (reported _), ne_eq, not_not,
    sorted_map_filter_eq_nil, sorted_map_other_eq_nil]
  constructor
  · rintro ⟨members, listed, names, inside, supported, escapes⟩
    rw [Fallible.escapes_bind_of_quiet (not_escapes_requireRegular reported names.unique),
      requireRegular_eq_ok names.unique] at escapes
    have passed : SdistListed version members := ⟨names, inside, supported, escapes.1⟩
    rcases (escapes_texts_iff documented opened passed).mp escapes.2 with
      ⟨text, read, exc, raised, free⟩ | ⟨valid, text, read, exc, raised, free⟩
    · obtain ⟨unexpected, free⟩ := not_or.mp free
      exact ⟨exc, .pyproject members text exc listed passed read raised unexpected, free⟩
    · exact ⟨exc, .metadata members text exc listed passed valid read raised, free⟩
  · rintro ⟨exc, raises, free⟩
    have escapes {members : List TarInfo} (passed : SdistListed version members)
        (texts : _) := (escapes_texts_iff documented opened passed).mpr texts
    cases raises with
    | pyproject members text _ listed passed read raised unexpected =>
        refine ⟨members, listed, passed.names, passed.inside, passed.supported, ?_⟩
        rw [Fallible.escapes_bind_of_quiet
            (not_escapes_requireRegular reported passed.names.unique),
          requireRegular_eq_ok passed.names.unique]
        exact ⟨passed.required, escapes passed
          (.inl ⟨text, read, exc, raised, not_or.mpr ⟨unexpected, free⟩⟩)⟩
    | metadata members text _ listed passed valid read raised =>
        refine ⟨members, listed, passed.names, passed.inside, passed.supported, ?_⟩
        rw [Fallible.escapes_bind_of_quiet
            (not_escapes_requireRegular reported passed.names.unique),
          requireRegular_eq_ok passed.names.unique]
        exact ⟨passed.required, escapes passed (.inr ⟨valid, text, read, exc, raised, free⟩)⟩

theorem openSdist_error {exc : Exn} (h : openSdist lib host s directory version = .error exc) :
    exc.isinstance sdistFamilies = true := by
  rcases Fallible.bind_eq_error.mp h with failed | ⟨contents, -, failed⟩
  · exact Exn.isinstance_mono (by simp)
      (Host.attempt_error (fun _ => System.readBytes_error) failed)
  · cases failed

theorem openTar_error (documented : lib.Documented) {exc : Exn}
    (h : openTar lib host s directory version = .error exc) :
    exc.isinstance sdistFamilies = true := by
  rcases Fallible.bind_eq_error.mp h with failed | ⟨contents, -, failed⟩
  · exact Exn.isinstance_mono (by simp)
      (Host.attempt_error (fun _ => System.readBytes_error) failed)
  · exact documented.tar contents exc failed

theorem not_escapes_drain (documented : lib.Documented) {compressed : GzipStream}
    (opened : openSdist lib host s directory version = .ok compressed) :
    ¬ Fallible.Escapes SdistHandled compressed.drain := by
  obtain ⟨contents, -, same⟩ := Fallible.bind_eq_ok.mp opened
  rw [GzipStream.drain_eq, ← Except.ok.inj same]
  cases failed : (lib.gzip contents).failure with
  | none => exact Fallible.not_escapes_ok _
  | some exc =>
      rw [Fallible.escapes_error]
      exact not_not_intro (.inl (documented.gzip contents exc failed))

end Sdist

/-- The sdist is read to its end, and opened as an archive. -/
def SdistOpens (lib : Library) (host : Host) (s : System) (directory : Path) (version : String)
    (archive : TarArchive) : Prop :=
  (∃ compressed, openSdist lib host s directory version = .ok compressed ∧
    compressed.failure = none) ∧ openTar lib host s directory version = .ok archive

/-- What gets past the check of the sdist of a version that is read: what the parsers raise, but
for what is caught. -/
theorem escapes_verifySdist_iff (documented : lib.Documented)
    (stable : Stable lib.intMaxStrDigits version) :
    Fallible.Escapes Reported (verifySdist lib host s directory version) ↔
      ∃ archive, SdistOpens lib host s directory version archive ∧
        ∃ exc, SdistRaises lib version archive exc ∧ ¬ SdistHandled exc := by
  have drained (compressed : GzipStream) :
      compressed.drain = .ok ⟨⟩ ↔ compressed.failure = none := by
    rw [GzipStream.drain_eq]
    cases compressed.failure with
    | none => exact iff_of_true rfl rfl
    | some exc => exact iff_of_false (fun h => by cases h) (fun h => by cases h)
  have opening : ¬ Fallible.Escapes SdistHandled (openSdist lib host s directory version) :=
    fun ⟨_, failed, free⟩ => free (.inl (openSdist_error failed))
  have archiving : ¬ Fallible.Escapes SdistHandled (openTar lib host s directory version) :=
    fun ⟨_, failed, free⟩ => free (.inl (openTar_error documented failed))
  obtain ⟨parsed, read⟩ := stableVersion_ok_iff.mpr stable
  rw [verifySdist, read, Fallible.ok_bind,
    Fallible.escapes_translating fun exc _ => reported_releaseError _, Fallible.escapes_bind,
    or_iff_right opening]
  constructor
  · rintro ⟨compressed, opened, escapes⟩
    rw [Fallible.escapes_bind_of_quiet (not_escapes_drain documented opened), drained,
      Fallible.escapes_bind, or_iff_right archiving] at escapes
    obtain ⟨intact, archive, archived, escapes⟩ := escapes
    obtain ⟨contents, -, tar⟩ := Fallible.bind_eq_ok.mp archived
    exact ⟨archive, ⟨⟨compressed, opened, intact⟩, archived⟩,
      (escapes_checkSdist_iff documented tar).mp escapes⟩
  · rintro ⟨archive, ⟨⟨compressed, opened, intact⟩, archived⟩, raises⟩
    obtain ⟨contents, -, tar⟩ := Fallible.bind_eq_ok.mp archived
    refine ⟨compressed, opened, ?_⟩
    rw [Fallible.escapes_bind_of_quiet (not_escapes_drain documented opened), drained,
      Fallible.escapes_bind, or_iff_right archiving]
    exact ⟨intact, archive, archived, (escapes_checkSdist_iff documented tar).mpr raises⟩

end Verify

end Asyncly.Release
