import Asyncly.Tools.Members

/-!
# Verifying the wheel

The names and types of the members are checked before the payload is read. The zip library
is caught with two families of exceptions; whatever else it raises gets out.
-/

namespace Asyncly.Release

namespace ZipInfo

/-- `info.is_dir()` -/
def isDir (info : ZipInfo) : Bool := info.filename.toList.getLast? = some '/'

/-- `stat.S_IFMT(info.external_attr >> 16)` -/
def fileType (info : ZipInfo) : Nat := (info.externalAttr >>> 16) &&& 0o170000

/-- `_zip_regular_file` -/
def regularFile (info : ZipInfo) : Bool :=
  if info.isDir then false else info.fileType = 0 || info.fileType = 0o100000

/-- `_zip_supported_member` -/
def supportedMember (info : ZipInfo) : Bool :=
  if info.isDir then info.fileType = 0 || info.fileType = 0o040000
  else info.fileType = 0 || info.fileType = 0o100000

end ZipInfo

/-- The wheel of a version. -/
def wheelName (version : String) : String := s!"asyncly-{version}-py3-none-any.whl"

def metadataName (version : String) : String := s!"asyncly-{version}.dist-info/METADATA"

/-- The names among `names` that end with `.dist-info/METADATA`. -/
def metadataNames (names : List String) : List String :=
  names.filter fun name => ".dist-info/METADATA".toList.isSuffixOf name.toList

/-- What the wheel must contain. -/
def wheelRequired (version : String) : List String :=
  [metadataName version, "asyncly/client/retry.py", "asyncly/srvmocker/responses/faults.py"]

/-- The body of the `with` statement of `verify_wheel`. -/
def checkWheel (lib : Library) (version : String) (archive : ZipArchive) : Except Exn Unit := do
  let members := archive.infolist
  let names := members.map (·.filename)
  validateMemberNames names "wheel"
  let unsupported :=
    sorted ((members.filter fun member => !member.supportedMember).map (·.filename))
  Fallible.refuseIf (unsupported ≠ [])
    (.releaseError s!"wheel members must be regular files or directories: {quotedList unsupported}")
  let corruptMember ← archive.testzip
  Fallible.refuseIf (corruptMember ≠ none)
    (.releaseError ("corrupt wheel payload: " ++ corruptMember.getD ""))
  Fallible.refuseIf (metadataNames names ≠ [metadataName version])
    (.releaseError "wheel must contain the exact METADATA path as its only METADATA file")
  requireRegular "wheel" ZipInfo.filename ZipInfo.regularFile members (wheelRequired version)
  let metadata ← archive.read (metadataName version)
  validateMetadata lib metadata version "wheel"

/-- The members pass the checks that come before the payload is read. -/
structure WheelListed (archive : ZipArchive) : Prop where
  names : SafeNames (archive.infolist.map (·.filename))
  supported : ∀ member ∈ archive.infolist, member.supportedMember = true

/-- The required members are there, and are regular files. -/
structure WheelComplete (version : String) (archive : ZipArchive) : Prop where
  metadata : metadataNames (archive.infolist.map (·.filename)) = [metadataName version]
  required : HasRegular ZipInfo.filename ZipInfo.regularFile archive.infolist
    (wheelRequired version)

/-- What the libraries raise where the wheel is opened, its payload is tested and its metadata
are read and parsed. -/
inductive WheelRaises (lib : Library) (version : String) : Except Exn ZipArchive → Exn → Prop
  | opening (exc : Exn) : WheelRaises lib version (.error exc) exc
  | testing (archive : ZipArchive) (exc : Exn) (listed : WheelListed archive)
      (raised : archive.testzip = .error exc) : WheelRaises lib version (.ok archive) exc
  | reading (archive : ZipArchive) (exc : Exn) (listed : WheelListed archive)
      (intact : archive.testzip = .ok none) (complete : WheelComplete version archive)
      (raised : archive.read (metadataName version) = .error exc) :
      WheelRaises lib version (.ok archive) exc
  | parsing (archive : ZipArchive) (contents : Bytes) (text : String) (exc : Exn)
      (listed : WheelListed archive) (intact : archive.testzip = .ok none)
      (complete : WheelComplete version archive)
      (read : archive.read (metadataName version) = .ok contents)
      (decoded : decodeUtf8 contents = .ok text) (raised : lib.parsestr text = .error exc) :
      WheelRaises lib version (.ok archive) exc

theorem wheelRaises_iff {lib : Library} {version : String} {archive : ZipArchive}
    {handled : Exn → Prop} :
    (∃ exc, WheelRaises lib version (.ok archive) exc ∧ ¬ handled exc) ↔
      WheelListed archive ∧ (Fallible.Escapes handled archive.testzip ∨
        archive.testzip = .ok none ∧ WheelComplete version archive ∧
          (Fallible.Escapes handled (archive.read (metadataName version)) ∨
            ∃ contents, archive.read (metadataName version) = .ok contents ∧
              ∃ text, decodeUtf8 contents = .ok text ∧
                Fallible.Escapes handled (lib.parsestr text))) := by
  constructor
  · rintro ⟨exc, raises, free⟩
    cases raises with
    | testing _ _ listed raised => exact ⟨listed, .inl ⟨exc, raised, free⟩⟩
    | reading _ _ listed intact complete raised =>
        exact ⟨listed, .inr ⟨intact, complete, .inl ⟨exc, raised, free⟩⟩⟩
    | parsing _ contents text _ listed intact complete read decoded raised =>
        exact ⟨listed, .inr ⟨intact, complete,
          .inr ⟨contents, read, text, decoded, exc, raised, free⟩⟩⟩
  · rintro ⟨listed, ⟨exc, raised, free⟩ | ⟨intact, complete, ⟨exc, raised, free⟩ |
      ⟨contents, read, text, decoded, exc, raised, free⟩⟩⟩
    · exact ⟨exc, .testing archive exc listed raised, free⟩
    · exact ⟨exc, .reading archive exc listed intact complete raised, free⟩
    · exact ⟨exc, .parsing archive contents text exc listed intact complete read decoded raised,
        free⟩

/-- Only what the libraries raise gets out of the checks of the wheel. -/
theorem escapes_checkWheel_iff {handled : Exn → Prop}
    (reported : ∀ text, handled (.releaseError text)) (lib : Library) (version : String)
    (archive : ZipArchive) :
    Fallible.Escapes handled (checkWheel lib version archive) ↔
      ∃ exc, WheelRaises lib version (.ok archive) exc ∧ ¬ handled exc := by
  rw [wheelRaises_iff, checkWheel]
  rw [Fallible.escapes_bind_of_quiet (not_escapes_validateMemberNames reported _ _),
    validateMemberNames_eq_ok, Fallible.escapes_refuseIf_bind (reported _), Fallible.escapes_bind]
  by_cases names : SafeNames (archive.infolist.map (·.filename))
  · simp only [Fallible.escapes_refuseIf_bind (reported _), Fallible.escapes_bind_of_quiet
      (not_escapes_requireRegular reported names.unique), requireRegular_eq_ok names.unique]
    simp only [Fallible.escapes_bind, escapes_validateMetadata_iff reported, ne_eq, not_not,
      sorted_map_filter_eq_nil]
    constructor
    · rintro ⟨names, supported, tested | ⟨_, intact, rfl, metadata, required, read⟩⟩
      · exact ⟨⟨names, supported⟩, .inl tested⟩
      · exact ⟨⟨names, supported⟩, .inr ⟨intact, ⟨metadata, required⟩, read⟩⟩
    · rintro ⟨listed, tested | ⟨intact, complete, read⟩⟩
      · exact ⟨listed.names, listed.supported, .inl tested⟩
      · exact ⟨listed.names, listed.supported,
          .inr ⟨none, intact, rfl, complete.metadata, complete.required, read⟩⟩
  · exact iff_of_false (fun h => names h.1) (fun h => names h.1.names)

/-- What a wheel has that passes the checks. -/
theorem checkWheel_eq_ok {lib : Library} {version : String} {archive : ZipArchive} :
    checkWheel lib version archive = .ok () ↔
      WheelListed archive ∧ archive.testzip = .ok none ∧ WheelComplete version archive ∧
        ∃ metadata, archive.read (metadataName version) = .ok metadata ∧
          validateMetadata lib metadata version "wheel" = .ok () := by
  simp only [checkWheel, Fallible.bind_eq_ok, validateMemberNames_eq_ok, Fallible.refuseIf_eq_ok,
    ne_eq, not_not, sorted_map_filter_eq_nil]
  constructor
  · rintro ⟨_, names, _, supported, corrupt, tested, _, rfl, _, metadata, _, required, read⟩
    exact ⟨⟨names, supported⟩, tested, ⟨metadata, (requireRegular_eq_ok names.unique).mp required⟩,
      read⟩
  · rintro ⟨listed, tested, complete, read⟩
    exact ⟨(), listed.names, (), listed.supported, none, tested, (), rfl, (), complete.metadata,
      (), (requireRegular_eq_ok listed.names.unique).mpr complete.required, read⟩

section Verify

variable (lib : Library) (host : Host) (s : System) (directory : Path) (version : String)

/-- The families of exceptions `verify_wheel` catches. -/
abbrev wheelFamilies : List ExcClass := [.badZipFile, .osError]

/-- `ZipFile(wheel)` -/
def openWheel : Except Exn ZipArchive := do
  let contents ← host.attempt .openWheel (s.readBytes (directory.child (wheelName version)))
  lib.zipFile contents

/-- `verify_wheel` -/
def verifyWheel : Except Exn Unit := do
  let _ ← stableVersion lib.intMaxStrDigits version
  Fallible.translating (fun exc => exc.isinstance wheelFamilies)
    (fun exc => .releaseError
      (s!"unable to read wheel {(directory.child (wheelName version)).str}: " ++ exc.str)) do
      let archive ← openWheel lib host s directory version
      checkWheel lib version archive

variable {lib host s directory version}

/-- What gets past the check of the wheel: a version that is too long to be read, and what
the libraries raise but for two families. -/
theorem escapes_verifyWheel_iff :
    Fallible.Escapes Reported (verifyWheel lib host s directory version) ↔
      (∃ groups, versionGroups version = some groups ∧
        ¬ WithinDigits lib.intMaxStrDigits groups) ∨
      (Stable lib.intMaxStrDigits version ∧
        ∃ exc, WheelRaises lib version (openWheel lib host s directory version) exc ∧
          ¬ (exc.isinstance wheelFamilies = true ∨ Reported exc)) := by
  rw [verifyWheel, Fallible.escapes_bind, escapes_stableVersion_iff]
  apply or_congr_right
  rw [exists_and_right, stableVersion_ok_iff,
    Fallible.escapes_translating fun exc _ => reported_releaseError _, Fallible.escapes_bind]
  apply and_congr_right
  intro _
  have reported : ∀ text, (Exn.releaseError text).isinstance wheelFamilies = true ∨
      Reported (.releaseError text) := fun text => .inr rfl
  cases openWheel lib host s directory version with
  | error exc =>
      rw [Fallible.escapes_error]
      constructor
      · rintro (free | ⟨archive, opened, -⟩)
        · exact ⟨exc, .opening exc, free⟩
        · cases opened
      · rintro ⟨_, raises, free⟩
        cases raises
        exact .inl free
  | ok archive =>
      rw [or_iff_right (Fallible.not_escapes_ok _),
        ← escapes_checkWheel_iff reported lib version archive]
      constructor
      · rintro ⟨_, opened, checked⟩
        exact Except.ok.inj opened ▸ checked
      · intro checked
        exact ⟨archive, rfl, checked⟩

theorem verifyWheel_eq_ok :
    verifyWheel lib host s directory version = .ok () ↔
      Stable lib.intMaxStrDigits version ∧
        ∃ archive, openWheel lib host s directory version = .ok archive ∧
          checkWheel lib version archive = .ok () := by
  rw [verifyWheel, Fallible.bind_eq_ok, exists_and_right, stableVersion_ok_iff,
    Fallible.translating_eq_ok, Fallible.bind_eq_ok]

theorem stable_of_verifyWheel {u : Unit}
    (h : verifyWheel lib host s directory version = .ok u) :
    Stable lib.intMaxStrDigits version := by
  obtain ⟨parsed, read, -⟩ := Fallible.bind_eq_ok.mp h
  exact stableVersion_ok_iff.mp ⟨parsed, read⟩

end Verify

end Asyncly.Release
